import Kaomoji.Proofs.PythonReading
import Kaomoji.Proofs.WholeNumbers

/-!
# How numbers are spelled

The words of an output, the longest stretches of it that hold no mark and no blank, are known before
it is written: those of the opening and the closing, and for each statement some fixed words around
the words of its operands (`Target.words_of_draft`).  So what there is to say of the numbers in an
output is said of the words of numbers.

A finite number is spelled as a plain decimal numeral, with a point exactly if it is not whole, and
such a numeral is no identifier.  A literal that is too large for a finite number is rounded to
infinity.  No numeral denotes that; it is spelled `inf`, which is an identifier of either target.
-/

namespace Kaomoji

/-! ## Words of a text -/

namespace Text

/-- What stands between words: marks, blanks and line ends. -/
def isMark (c : Char) : Bool := !isWordChar c

/-- **The words of a text**: its longest stretches without marks and blanks. -/
def words (text : List Char) : List (List Char) := (text.splitOnP isMark).filter (· ≠ [])

variable {c : Char} {word marks : List Char}

/-- A mark divides words. -/
lemma words_append_cons (hc : isMark c) (front back : List Char) :
    words (front ++ c :: back) = words front ++ words back := by
  rw [words, List.splitOnP_append_cons front back hc, List.filter_append]
  rfl

lemma words_cons (hc : isMark c) (back : List Char) : words (c :: back) = words back :=
  words_append_cons hc [] back

lemma words_marks_append (hmarks : marks.all isMark) (back : List Char) :
    words (marks ++ back) = words back := by
  induction marks with
  | nil => rfl
  | cons c rest ih =>
    rw [List.all_cons, Bool.and_eq_true] at hmarks
    rw [List.cons_append, words_cons hmarks.1, ih hmarks.2]

lemma words_append_marks (hne : marks ≠ []) (hmarks : marks.all isMark) (front back : List Char) :
    words (front ++ marks ++ back) = words front ++ words back := by
  obtain ⟨c, rest, rfl⟩ := List.exists_cons_of_ne_nil hne
  rw [List.all_cons, Bool.and_eq_true] at hmarks
  rw [List.append_assoc, List.cons_append, words_append_cons hmarks.1,
    words_marks_append hmarks.2]

lemma words_append_end (hmarks : marks.all isMark) (front : List Char) :
    words (front ++ marks) = words front := by
  by_cases hne : marks = []
  · rw [hne, List.append_nil]
  · have hend := words_append_marks hne hmarks front []
    rwa [List.append_nil, show words [] = [] from rfl, List.append_nil] at hend

lemma words_word (hne : word ≠ []) (h : ∀ c ∈ word, isWordChar c) : words word = [word] := by
  have hsplit : ∀ c ∈ word, isMark c = false := by
    intro c hc
    rw [isMark, h c hc]
    rfl
  rw [words, List.splitOnP_eq_singleton hsplit, List.filter_singleton]
  simp [hne]

lemma words_intercalate (hne : marks ≠ []) (hmarks : marks.all isMark)
    (parts : List (List Char)) : words (marks.intercalate parts) = parts.flatMap words := by
  induction parts with
  | nil => rfl
  | cons part rest ih =>
    match rest with
    | [] => simp
    | next :: more =>
      rw [List.intercalate_cons_cons, words_append_marks hne hmarks, ih]
      rfl

/-- Lines are divided as well. -/
lemma words_unlines (lines : List String) :
    words (unlines lines).toList = lines.flatMap fun line => words line.toList := by
  induction lines with
  | nil => rfl
  | cons line rest ih =>
    rw [unlines_cons, String.toList_append, String.toList_append,
      words_append_marks (by decide) (by decide), ih, List.flatMap_cons]

/-- Indentation adds no words. -/
lemma words_indented (indent : Nat) (line : String) :
    words (Writer.indented indent line).toList = words line.toList := by
  rw [Writer.indented]
  split
  · rename_i hline
    rw [hline]
  · induction indent with
    | zero => simp
    | succ indent ih =>
      rw [List.replicate_succ, String.join_cons, String.append_assoc, String.toList_append,
        words_marks_append (by decide), ih]

end Text

/-! ## Words of a statement -/

lemma Binary64.toList_text_ne_nil (x : Binary64) : x.text.toList ≠ [] := by
  obtain ⟨c, rest, hpositional, -⟩ := x.shortest.exists_positional_eq_cons
  rw [text, numeral]
  split
  · decide
  · rw [String.toList_ofList, hpositional]
    split_ifs <;> simp

lemma Leaf.words_word {leaf : Leaf} (h : leaf.IsLexed) :
    Text.words leaf.word.toList = [leaf.word.toList] := by
  refine Text.words_word ?_ (isWordChar_of_mem_word h)
  match leaf with
  | .identifier id =>
    intro hnil
    have hword : isIdentifier id.word.toList := isIdentifier_sanitize h
    rw [show id.word.toList = [] from hnil] at hword
    exact absurd hword Bool.false_ne_true
  | .number n => exact n.value.toList_text_ne_nil

lemma Identifier.words_word {id : Identifier} (h : (Leaf.identifier id).IsLexed) :
    Text.words id.word.toList = [id.word.toList] := by
  have hword := Leaf.words_word h
  rwa [Leaf.word] at hword

lemma Leaf.flatMap_words {args : List Leaf} (h : ∀ leaf ∈ args, leaf.IsLexed) :
    (args.map (·.word.toList)).flatMap Text.words = args.map (·.word.toList) := by
  rw [List.flatMap_map, List.flatMap_congr fun leaf hleaf => words_word (h leaf hleaf)]
  exact List.map_eq_flatMap.symm

namespace Target

/-- The words that a target writes before the operands of a statement; those of a format string are
its placeholders and the escaped newline. -/
def wordsBefore : Target → Statement → List String
  | python, .call _ _ => ["print"]
  | c, .call _ args => "printf" :: List.replicate args.length "d" ++ ["n"]
  | c, .declaration _ _ => ["int"]
  | _, _ => []

/-- The words that stand behind the operands. -/
def wordsAfter : Statement → List String
  | .call _ _ => []
  | .declaration _ _ => ["0"]
  | .extended _ _ _ => []

/-- **The words of a statement in the target language.** -/
def wordsOf (target : Target) (s : Statement) : List (List Char) :=
  ((target.wordsBefore s).map String.toList) ++ s.operands.map (·.word.toList) ++
    (wordsAfter s).map String.toList

variable {scope later : Scope} {s : Statement} {line : String}

lemma words_application {function closing : List Char}
    (hfunction : Text.words function = [function]) (hclosing : closing.all Text.isMark)
    (parts : List (List Char)) :
    Text.words (function ++ "(".toList ++ ", ".toList.intercalate parts ++ closing) =
      function :: parts.flatMap Text.words := by
  rw [Text.words_append_end hclosing, Text.words_append_marks (by decide) (by decide),
    Text.words_intercalate (by decide) (by decide), hfunction]
  rfl

lemma words_initialized {target : Identifier} (h : (Leaf.identifier target).IsLexed) :
    Text.words (target.word ++ " = 0").toList = [target.word.toList, "0".toList] := by
  have hvalue : " = 0".toList = " = ".toList ++ "0".toList := by decide
  have hzero : Text.words "0".toList = ["0".toList] := by decide
  rw [String.toList_append, hvalue, ← List.append_assoc,
    Text.words_append_marks (by decide) (by decide), target.words_word h, hzero]
  rfl

lemma words_sum {target : Identifier} {value : Leaf} (h : (Leaf.identifier target).IsLexed)
    (hvalue : value.IsLexed) :
    Text.words (target.word ++ " += " ++ value.word).toList =
      [target.word.toList, value.word.toList] := by
  rw [String.toList_append, String.toList_append, Text.words_append_marks (by decide) (by decide),
    target.words_word h, value.words_word hvalue]
  rfl

lemma words_pythonLine (h : pythonLine s = .ok line) (hs : ∀ leaf ∈ s.operands, leaf.IsLexed) :
    Text.words line.toList = python.wordsOf s := by
  obtain ⟨callee, args, rfl, -, rfl⟩ | ⟨target, rfl, rfl⟩ | ⟨target, value, position, rfl, rfl⟩ :=
    pythonLine_cases h
  · have hargs : ∀ leaf ∈ args, leaf.IsLexed := hs
    have hopening : "print(".toList = "print".toList ++ "(".toList := by decide
    rw [String.toList_append, String.toList_append, toList_argumentList, hopening,
      words_application (by decide) (by decide), Leaf.flatMap_words hargs, wordsOf, wordsBefore,
      wordsAfter, Statement.operands, List.map_nil, List.append_nil]
    rfl
  · exact words_initialized (hs (.identifier target) List.mem_cons_self)
  · exact words_sum (hs (.identifier target) List.mem_cons_self)
      (hs value (List.mem_cons_of_mem _ List.mem_cons_self))

/-- The only placeholder is that of whole numbers. -/
lemma placeholders_eq_replicate {args : List Leaf} {placeholders : List String}
    (h : args.mapM (placeholder scope) = .ok placeholders) :
    placeholders = List.replicate args.length "%d" := by
  have hplaceholder {arg : Leaf} {text : String} (h : placeholder scope arg = .ok text) :
      text = "%d" := by
    obtain ⟨type, -, htext⟩ := bind_eq_ok_iff.1 h
    match type with
    | .int => exact (Except.ok.inj htext).symm
    | .float => exact nomatch htext
  induction args generalizing placeholders with
  | nil => exact (Except.ok.inj h).symm
  | cons arg rest ih =>
    rw [List.mapM_cons] at h
    obtain ⟨text, htext, h⟩ := bind_eq_ok_iff.1 h
    obtain ⟨more, hmore, hcons⟩ := bind_eq_ok_iff.1 h
    rw [← Except.ok.inj hcons, hplaceholder htext, ih hmore]
    rfl

lemma words_formatString (n : Nat) :
    Text.words (formatString (List.replicate n "%d")).toList =
      (List.replicate n "d" ++ ["n"]).map String.toList := by
  have hplaceholder : Text.words "%d".toList = ["d".toList] := by decide
  have hending : "\\n\"".toList = "\\".toList ++ "n\"".toList := by decide
  have hnewline : Text.words "n\"".toList = ["n".toList] := by decide
  rw [formatString, String.toList_append, String.toList_append, hending, ← List.append_assoc,
    Text.words_append_marks (by decide) (by decide), Text.words_marks_append (by decide),
    String.toList_intercalate, Text.words_intercalate (by decide) (by decide), hnewline,
    List.map_replicate, List.flatMap_replicate, hplaceholder, List.flatten_replicate_singleton,
    List.map_append, List.map_replicate]
  rfl

lemma words_cLine (h : cLine scope s = .ok (line, later))
    (hs : ∀ leaf ∈ s.operands, leaf.IsLexed) : Text.words line.toList = c.wordsOf s := by
  obtain ⟨callee, args, placeholders, rfl, -, hplaceholders, rfl, -⟩ | ⟨type, target, rfl, rfl, -⟩ |
    ⟨target, value, position, rfl, rfl, -⟩ := cLine_cases h
  · have hargs : ∀ leaf ∈ args, leaf.IsLexed := hs
    have hopening : "printf(".toList = "printf".toList ++ "(".toList := by decide
    have hmap : (args.map Leaf.word).map String.toList = args.map (·.word.toList) := List.map_map
    rw [String.toList_append, String.toList_append, String.toList_intercalate, hopening,
      words_application (by decide) (by decide), List.map_cons, List.flatMap_cons, hmap,
      Leaf.flatMap_words hargs, placeholders_eq_replicate hplaceholders, words_formatString,
      wordsOf, wordsBefore, wordsAfter, Statement.operands, List.map_nil, List.append_nil]
    rfl
  · have hopening : "int ".toList = "int".toList ++ " ".toList := by decide
    have hint : Text.words "int".toList = ["int".toList] := by decide
    rw [String.toList_append, Text.words_append_end (by decide), String.toList_append, hopening,
      Text.words_append_marks (by decide) (by decide), hint,
      words_initialized (hs (.identifier target) List.mem_cons_self)]
    rfl
  · rw [String.toList_append, Text.words_append_end (by decide)]
    exact words_sum (hs (.identifier target) List.mem_cons_self)
      (hs value (List.mem_cons_of_mem _ List.mem_cons_self))

/-- The words of a line are those of its statement. -/
lemma words_line {target : Target} (h : target.line scope s = .ok (line, later))
    (hs : ∀ leaf ∈ s.operands, leaf.IsLexed) : Text.words line.toList = target.wordsOf s := by
  match target with
  | c => exact words_cLine h hs
  | python => exact words_pythonLine (line_python_eq_ok_iff.1 h).1 hs

/-- **The words of a unit**, known before it is written. -/
def unitWords (target : Target) (program : Program) : List (List Char) :=
  target.opening.flatMap (fun line => Text.words line.toList) ++ program.flatMap target.wordsOf ++
    target.closing.flatMap fun line => Text.words line.toList

lemma words_draft {target : Target} {program : Program}
    (h : (target.draft scope program).result = .ok ())
    (hprogram : ∀ s ∈ program, ∀ leaf ∈ s.operands, leaf.IsLexed) :
    ((target.draft scope program).lines.flatMap fun line => Text.words line.toList) =
      program.flatMap target.wordsOf := by
  induction program generalizing scope with
  | nil => rfl
  | cons s rest ih =>
    obtain ⟨hs, hrest⟩ := List.forall_mem_cons.1 hprogram
    match hline : target.line scope s with
    | .error e =>
      rw [draft_cons_error hline] at h
      exact nomatch h
    | .ok (line, later) =>
      rw [draft_cons_ok hline] at h ⊢
      rw [List.flatMap_cons, List.flatMap_cons, words_line hline hs, ih h hrest]

/-- The words of a text that compiles. -/
lemma words_of_draft {target : Target} {program : Program}
    (h : (target.draft [] program).result = .ok ())
    (hprogram : ∀ s ∈ program, ∀ leaf ∈ s.operands, leaf.IsLexed) :
    Text.words (unlines (target.unitLines (target.draft [] program))).toList =
      target.unitWords program := by
  have hindented (indent : Nat) (lines : List String) :
      ((lines.map (Writer.indented indent)).flatMap fun line => Text.words line.toList) =
        lines.flatMap fun line => Text.words line.toList := by
    rw [List.flatMap_map]
    exact List.flatMap_congr fun line _ => Text.words_indented indent line
  rw [Text.words_unlines, unitLines, h]
  dsimp only
  rw [List.flatMap_append, List.flatMap_append, hindented, words_draft h hprogram, unitWords]

end Target

/-- **What is written of a unit**, statement by statement and as a whole, has known words. -/
structure WritesWords (source : String) (settings : Settings) (program : Program) : Prop where
  line : ∀ s ∈ program, ∀ scope line later, settings.target.line scope s = .ok (line, later) →
    Text.words line.toList = settings.target.wordsOf s
  output : ∀ output, compile source settings = .ok output →
    Text.words output.toList = settings.target.unitWords program

lemma writesWords_of_programOf {source : String} {settings : Settings} {program : Program}
    (h : programOf source settings = .ok program) : WritesWords source settings program where
  line s hs scope line later hline :=
    Target.words_line hline fun leaf hleaf => Leaf.isLexed_of_mem_programOf h hs hleaf
  output output houtput := by
    obtain ⟨program', hprogram, hresult, rfl⟩ := compile_eq_ok_iff.1 houtput
    obtain rfl := Except.ok.inj (hprogram.symm.trans h)
    exact Target.words_of_draft hresult fun s hs leaf hleaf =>
      Leaf.isLexed_of_mem_programOf h hs hleaf

/-! ## Spellings -/

/-- A row of digits. -/
def IsDigits (word : List Char) : Prop := word ≠ [] ∧ ∀ c ∈ word, c.isDigit

/-- Digits with a point between them. -/
def IsDigitsWithPoint (word : List Char) : Prop :=
  ∃ whole fraction, word = whole ++ '.' :: fraction ∧ IsDigits whole ∧ IsDigits fraction

/-- **How a number is spelled.**  A finite number has a plain decimal numeral, with a point exactly
if it is not whole; infinity has a name. -/
structure Binary64.SpelledAs (x : Binary64) (word : List Char) : Prop where
  whole : x.isFinite → (∃ n : ℕ, x.magnitude = n) → IsDigits word
  fraction : x.isFinite → (¬∃ n : ℕ, x.magnitude = n) → IsDigitsWithPoint word
  numeral : x.isFinite → isIdentifier word = false
  infinite : x.isFinite = false → word = "inf".toList ∧ isIdentifier word

lemma Decimal.isDigits_wholeDigits (d : Decimal) : IsDigits d.wholeDigits :=
  ⟨Nat.toDigits_ne_nil, fun _ => isDigit_of_mem_wholeDigits⟩

lemma Decimal.isDigits_positional {d : Decimal} (h : d.places = 0) : IsDigits d.positional := by
  rw [positional, if_pos h]
  exact d.isDigits_wholeDigits

lemma Decimal.isDigitsWithPoint_positional {d : Decimal} (h : d.places ≠ 0) :
    IsDigitsWithPoint d.positional := by
  have hlength := d.length_fractionDigits
  rw [positional, if_neg h]
  refine ⟨_, _, rfl, d.isDigits_wholeDigits, ?_, fun _ => isDigit_of_mem_fractionDigits⟩
  intro hnil
  rw [hnil] at hlength
  exact h hlength.symm

namespace Binary64

/-- What is rounded to no finite number is rounded to infinity. -/
lemma text_of_not_isFinite {d : Decimal} (h : (ofDecimal d).isFinite = false) :
    (ofDecimal d).text = "inf" := by
  have hpattern : (ofDecimal d).pattern ≤ infinityPattern := by
    rw [pattern_ofDecimal]
    exact Nat.min_le_left _ _
  have hnan : (ofDecimal d).isNaN = false := by
    rw [isNaN, decide_eq_false_iff_not]
    omega
  rw [text, numeral, hnan, isNegative_ofDecimal, h]
  rfl

/-- **The spellings of the numbers that literals denote.** -/
lemma spelledAs_text_ofDecimal (d : Decimal) :
    (ofDecimal d).SpelledAs (ofDecimal d).text.toList := by
  have hsign := isNegative_ofDecimal d
  refine ⟨?_, ?_, isIdentifier_text_of_isFinite, ?_⟩
  · intro hfinite hwhole
    rw [toList_text hfinite hsign]
    apply Decimal.isDigits_positional
    rw [places_shortest_iff hfinite hsign, isIntegral_iff]
    exact ⟨hfinite, hwhole⟩
  · intro hfinite hwhole
    rw [toList_text hfinite hsign]
    apply Decimal.isDigitsWithPoint_positional
    rw [ne_eq, places_shortest_iff hfinite hsign, isIntegral_iff]
    exact fun h => hwhole h.2
  · intro hinfinite
    rw [text_of_not_isFinite hinfinite]
    exact ⟨rfl, by decide⟩

end Binary64

/-- **How the numbers of an output are spelled.**  The words of an output are those of its frame
and, statement by statement, those of the operands with some fixed words around them; and the word
of a number is a plain decimal numeral if the number is finite, and `inf` otherwise. -/
theorem spelledAs_of_compile {source output : String} {settings : Settings}
    (h : compile source settings = .ok output) :
    ∃ program, programOf source settings = .ok program ∧
      Text.words output.toList = settings.target.unitWords program ∧
      ∀ s ∈ program, ∀ n, .number n ∈ s.operands →
        n.value.SpelledAs (Leaf.number n).word.toList := by
  obtain ⟨program, hprogram, hresult, rfl⟩ := compile_eq_ok_iff.1 h
  refine ⟨program, hprogram, ?_, ?_⟩
  · exact Target.words_of_draft hresult fun s hs leaf hleaf =>
      Leaf.isLexed_of_mem_programOf hprogram hs hleaf
  · intro s hs n hn
    obtain ⟨line, hline, hmeaning⟩ := exists_line_of_mem_programOf hprogram hs
    obtain ⟨d, hd⟩ :=
      Leaf.exists_ofDecimal_of_mem_tree hline (Statement.mem_leaves_of_mem_operands hmeaning hn)
    rw [Leaf.word, NumberLiteral.text, hd]
    exact Binary64.spelledAs_text_ofDecimal d

/-- A whole number, a fraction and a literal that is too large: the last is written as an
identifier. -/
theorem spelledAs_of_compile_overflow :
    compile ("UwU 2 0.5 2" ++ String.ofList (List.replicate 308 '0') ++ "\n") ⟨.inMemory, .python⟩ =
        .ok "print(2, 0.5, inf)\n" ∧
      isIdentifier "inf".toList ∧
      ∃ program, programOf ("UwU 2 0.5 2" ++ String.ofList (List.replicate 308 '0') ++ "\n")
          ⟨.inMemory, .python⟩ = .ok program ∧
        Target.python.unitWords program =
          ["print".toList, "2".toList, "0.5".toList, "inf".toList] ∧
        ∀ s ∈ program, ∀ n, .number n ∈ s.operands →
          n.value.SpelledAs (Leaf.number n).word.toList := by
  -- listing the characters is what would take long, were it left to the evaluation
  have hcharacters : ("UwU 2 0.5 2" ++ String.ofList (List.replicate 308 '0') ++ "\n").toList =
      "UwU 2 0.5 2".toList ++ List.replicate 308 '0' ++ "\n".toList := by
    rw [String.toList_append, String.toList_append,
      String.toList_ofList (l := List.replicate 308 '0')]
  have h : compile ("UwU 2 0.5 2" ++ String.ofList (List.replicate 308 '0') ++ "\n")
      ⟨.inMemory, .python⟩ = .ok "print(2, 0.5, inf)\n" := by
    rw [compile, compileTo, programOf, treeOf, parseText, hcharacters]
    decide +kernel
  have hwords : Text.words "print(2, 0.5, inf)\n".toList =
      ["print".toList, "2".toList, "0.5".toList, "inf".toList] := by decide +kernel
  obtain ⟨program, hprogram, hunit, hspelled⟩ := spelledAs_of_compile h
  exact ⟨h, by decide, program, hprogram, hunit.symm.trans hwords, hspelled⟩

end Kaomoji
