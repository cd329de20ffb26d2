import Kaomoji.Proofs.CAcceptance
import Kaomoji.Proofs.TargetWords

/-!
# Scoping of C programs

A C program is well scoped if each variable is introduced once, and before it is used.  The C target
looks at declarations only where it has to know the type of a printed value, and it looks names up
as the source has them and not as they are written.  This module says how much scoping that leaves.

Scoping is said in the same words of the statements of a source and of the lines of a program, each
with its own notion of introducing and using a word.  The lines are read off the text alone
(`CLine.Introduces`, `CLine.Accumulates`, `CLine.Prints`), and every line reads as the statement
that it was written for.  So a program is scoped as its source is, except that what is printed has
always been introduced: `scoped_of_compile`.
-/

namespace Kaomoji

/-! ## Scoping of lists -/

section

variable {α : Type}

/-- Member `i` of the list has to do with the word. -/
def HasAt (property : α → List Char → Prop) (xs : List α) (i : Nat) (word : List Char) : Prop :=
  ∃ x, xs[i]? = some x ∧ property x word

/-- **Every identifier that is used has been introduced before.** -/
def Scoped (uses introduces : α → List Char → Prop) (xs : List α) : Prop :=
  ∀ i word, isIdentifier word → HasAt uses xs i word → ∃ j < i, HasAt introduces xs j word

/-- **No identifier is introduced twice.** -/
def IntroducedOnce (introduces : α → List Char → Prop) (xs : List α) : Prop :=
  ∀ i j word, isIdentifier word → HasAt introduces xs i word → HasAt introduces xs j word → i = j

end

/-! ## Lines of a C program -/

namespace CLine

/-- The line introduces the word as a variable. -/
def Introduces (line word : List Char) : Prop :=
  line = "    int ".toList ++ word ++ " = 0;".toList

/-- The line adds a value to a variable, and the word is one of the two. -/
def Accumulates (line word : List Char) : Prop :=
  (∃ value, line = "    ".toList ++ word ++ " += ".toList ++ value ++ ";".toList) ∨
    ∃ target, line = "    ".toList ++ target ++ " += ".toList ++ word ++ ";".toList

/-- The line prints values, and the word is one of them. -/
def Prints (line word : List Char) : Prop :=
  ∃ format args, (∀ part ∈ format :: args, ',' ∉ part) ∧
    line = "    printf(".toList ++ ", ".toList.intercalate (format :: args) ++ ");".toList ∧
    word ∈ args

end CLine

/-! ## Statements -/

namespace Statement

/-- The statement declares a variable that is written as the word. -/
def Introduces (s : Statement) (word : List Char) : Prop :=
  ∃ type target, s = .declaration type target ∧ target.word.toList = word

/-- The statement is a sum with an operand that is written as the word. -/
def Accumulates (s : Statement) (word : List Char) : Prop :=
  ∃ args position, s = .extended .sum args position ∧ ∃ leaf ∈ args, leaf.word.toList = word

/-- The statement is a call with an argument that is written as the word. -/
def Prints (s : Statement) (word : List Char) : Prop :=
  ∃ callee args, s = .call callee args ∧ ∃ leaf ∈ args, leaf.word.toList = word

/-- The line of a statement in a C program. -/
inductive WrittenAs : Statement → List Char → Prop
  | declaration (type : DeclaredType) (target : Identifier) :
    WrittenAs (.declaration type target)
      ("    int ".toList ++ target.word.toList ++ " = 0;".toList)
  | sum (target : Identifier) (value : Leaf) (position : Position) :
    WrittenAs (.extended .sum [.identifier target, value] position)
      ("    ".toList ++ target.word.toList ++ " += ".toList ++ value.word.toList ++ ";".toList)
  | call (callee : Identifier) (args : List Leaf) :
    WrittenAs (.call callee args)
      ("    printf(".toList ++
        ", ".toList.intercalate
          ((Target.formatString (List.replicate args.length "%d")).toList ::
            args.map (·.word.toList)) ++
        ");".toList)

end Statement

lemma Target.writtenAs_of_cLine {scope : Scope} {earlier : Program} (hscope : scope.Models earlier)
    {s : Statement} {line : String} {later : Scope} (h : cLine scope s = .ok (line, later)) :
    s.WrittenAs (Writer.indented 1 line).toList := by
  rcases cLine_cases h with ⟨callee, args, placeholders, rfl, -, hplaceholders, rfl, -⟩ |
    ⟨type, target, rfl, rfl, -⟩ | ⟨target, value, position, rfl, rfl, -⟩
  · obtain ⟨rfl, -⟩ := (placeholders_eq_ok_iff hscope).1 hplaceholders
    have hwritten := Statement.WrittenAs.call callee args
    rw [Writer.indented_one (by simp)]
    simpa [String.toList_intercalate, Function.comp_def] using hwritten
  · have hwritten := Statement.WrittenAs.declaration type target
    rw [Writer.indented_one (by simp)]
    simpa using hwritten
  · have hwritten := Statement.WrittenAs.sum target value position
    rw [Writer.indented_one (by simp)]
    simpa using hwritten

/-! ## Characters of lines -/

/-- Of two texts that begin with words without a separator, the words before the separator can be
told. -/
lemma append_separator_inj {c : Char} {word word' rest rest' : List Char}
    (hword : c ∉ word) (hword' : c ∉ word') (h : word ++ c :: rest = word' ++ c :: rest') :
    word = word' ∧ rest = rest' := by
  have htake : ∀ {word rest : List Char}, c ∉ word →
      (word ++ c :: rest).takeWhile (· ≠ c) = word := by
    intro word rest hword
    rw [List.takeWhile_append_of_pos]
    · simp
    · intro d hd
      rw [decide_eq_true_eq]
      rintro rfl
      exact hword hd
  obtain rfl : word = word' := by rw [← htake hword, h, htake hword']
  exact ⟨rfl, by simpa using h⟩

/-- Parts without commas can be told when commas and blanks are put between them. -/
lemma eq_of_intercalate_eq {parts parts' : List (List Char)} (hne : parts ≠ []) (hne' : parts' ≠ [])
    (hparts : ∀ part ∈ parts, ',' ∉ part) (hparts' : ∀ part ∈ parts', ',' ∉ part)
    (h : ", ".toList.intercalate parts = ", ".toList.intercalate parts') : parts = parts' := by
  induction parts generalizing parts' with
  | nil => exact absurd rfl hne
  | cons part rest ih =>
    obtain ⟨part', rest', rfl⟩ := List.exists_cons_of_ne_nil hne'
    obtain ⟨hpart, hrest⟩ := List.forall_mem_cons.1 hparts
    obtain ⟨hpart', hrest'⟩ := List.forall_mem_cons.1 hparts'
    have hcons : ∀ (part : List Char) {rest : List (List Char)}, rest ≠ [] →
        ", ".toList.intercalate (part :: rest) =
          part ++ ',' :: (' ' :: ", ".toList.intercalate rest) := by
      intro part rest hne
      rw [List.intercalate_cons_of_ne_nil hne]
      simp
    by_cases hnil : rest = []
    · subst hnil
      by_cases hnil' : rest' = []
      · subst hnil'
        simpa using h
      · rw [hcons part' hnil', List.intercalate_singleton] at h
        rw [h] at hpart
        simp at hpart
    · rw [hcons part hnil] at h
      by_cases hnil' : rest' = []
      · subst hnil'
        rw [List.intercalate_singleton] at h
        rw [← h] at hpart'
        simp at hpart'
      · rw [hcons part' hnil'] at h
        obtain ⟨rfl, htail⟩ := append_separator_inj hpart hpart' h
        rw [ih hnil hnil' hrest hrest' (List.cons.inj htail).2]

lemma mem_or_of_mem_intercalate {c : Char} {separator : List Char} {parts : List (List Char)}
    (h : c ∈ separator.intercalate parts) : c ∈ separator ∨ ∃ part ∈ parts, c ∈ part := by
  induction parts with
  | nil => cases h
  | cons part rest ih =>
    rcases rest with _ | ⟨next, rest⟩
    · simp at h
      simp [h]
    · rw [List.intercalate_cons_cons, List.mem_append, List.mem_append] at h
      obtain (h | h) | h := h
      · exact Or.inr ⟨part, List.mem_cons_self, h⟩
      · exact Or.inl h
      · obtain h | ⟨other, hother, h⟩ := ih h
        · exact Or.inl h
        · exact Or.inr ⟨other, List.mem_cons_of_mem _ hother, h⟩

lemma mem_of_mem_formatString {c : Char} {n : Nat}
    (h : c ∈ (Target.formatString (List.replicate n "%d")).toList) : c ∈ "\" %d\\n".toList := by
  rw [Target.formatString, String.toList_append, String.toList_append, String.toList_intercalate,
    List.mem_append, List.mem_append] at h
  obtain (h | h) | h := h
  · exact (by decide : "\"".toList ⊆ "\" %d\\n".toList) h
  · obtain h | ⟨part, hpart, h⟩ := mem_or_of_mem_intercalate h
    · exact (by decide : " ".toList ⊆ "\" %d\\n".toList) h
    · rw [List.map_replicate] at hpart
      rw [List.eq_of_mem_replicate hpart] at h
      exact (by decide : "%d".toList ⊆ "\" %d\\n".toList) h
  · exact (by decide : "\\n\"".toList ⊆ "\" %d\\n".toList) h

/-- The plus divides an accumulation, so its two words can be told. -/
lemma eq_of_sum_eq {target target' value value' : List Char} (htarget : '+' ∉ target)
    (hvalue : '+' ∉ value)
    (h : "    ".toList ++ target ++ " += ".toList ++ value ++ ";".toList =
      "    ".toList ++ target' ++ " += ".toList ++ value' ++ ";".toList) :
    target = target' ∧ value = value' := by
  have hsplit : ∀ target value : List Char,
      "    ".toList ++ target ++ " += ".toList ++ value ++ ";".toList =
        ("    ".toList ++ target ++ " ".toList) ++ '+' :: ("= ".toList ++ value ++ ";".toList) := by
    simp
  rw [hsplit, hsplit, List.append_cons_inj_of_notMem (by simpa using htarget)
    (by simpa using hvalue)] at h
  simpa using h

namespace Statement

/-- The characters that a line has around its words. -/
def marks : Statement → String
  | declaration _ _ => " int=0;"
  | extended _ _ _ => " +=;"
  | call _ _ => " printf(\"%d\\n,);"

lemma lineEnds_notMem_marks (s : Statement) : '\n' ∉ s.marks.toList ∧ '\r' ∉ s.marks.toList := by
  cases s with
  | call _ _ =>
    rw [marks]
    decide
  | declaration _ _ =>
    rw [marks]
    decide
  | extended _ _ _ =>
    rw [marks]
    decide

namespace WrittenAs

variable {s : Statement} {line word : List Char}

/-- A line consists of words and the marks around them. -/
lemma mem_marks_or (h : s.WrittenAs line) (hlexed : ∀ leaf ∈ s.operands, leaf.IsLexed) {c : Char}
    (hc : c ∈ line) : c ∈ s.marks.toList ∨ isWordChar c := by
  cases h with
  | declaration type target =>
    have htarget := (Leaf.identifier target).isWordChar_of_mem_word
      (hlexed _ (by simp [operands])) c
    rw [List.mem_append, List.mem_append] at hc
    obtain (hc | hc) | hc := hc
    · exact Or.inl ((by decide : "    int ".toList ⊆ " int=0;".toList) hc)
    · exact Or.inr (htarget hc)
    · exact Or.inl ((by decide : " = 0;".toList ⊆ " int=0;".toList) hc)
  | sum target value position =>
    have htarget := (Leaf.identifier target).isWordChar_of_mem_word
      (hlexed _ (by simp [operands])) c
    have hvalue := value.isWordChar_of_mem_word (hlexed _ (by simp [operands])) c
    simp only [List.mem_append] at hc
    obtain (((hc | hc) | hc) | hc) | hc := hc
    · exact Or.inl ((by decide : "    ".toList ⊆ " +=;".toList) hc)
    · exact Or.inr (htarget hc)
    · exact Or.inl ((by decide : " += ".toList ⊆ " +=;".toList) hc)
    · exact Or.inr (hvalue hc)
    · exact Or.inl ((by decide : ";".toList ⊆ " +=;".toList) hc)
  | call callee args =>
    rw [List.mem_append, List.mem_append] at hc
    obtain (hc | hc) | hc := hc
    · exact Or.inl ((by decide : "    printf(".toList ⊆ " printf(\"%d\\n,);".toList) hc)
    · obtain hc | ⟨part, hpart, hc⟩ := mem_or_of_mem_intercalate hc
      · exact Or.inl ((by decide : ", ".toList ⊆ " printf(\"%d\\n,);".toList) hc)
      · rcases List.mem_cons.1 hpart with rfl | hpart
        · exact Or.inl ((by decide : "\" %d\\n".toList ⊆ " printf(\"%d\\n,);".toList)
            (mem_of_mem_formatString hc))
        · obtain ⟨leaf, hleaf, rfl⟩ := List.mem_map.1 hpart
          exact Or.inr (leaf.isWordChar_of_mem_word (hlexed leaf hleaf) c hc)
    · exact Or.inl ((by decide : ");".toList ⊆ " printf(\"%d\\n,);".toList) hc)

/-- A character that no word can hold has to be a mark of the line. -/
lemma notMem (h : s.WrittenAs line) (hlexed : ∀ leaf ∈ s.operands, leaf.IsLexed) {c : Char}
    (hword : isWordChar c = false) (hmarks : c ∉ s.marks.toList) : c ∉ line := by
  intro hc
  obtain hc | hc := h.mem_marks_or hlexed hc
  · exact hmarks hc
  · exact absurd hc (by simp [hword])

/-! ## Lines read as statements -/

/-- A line introduces what its statement declares. -/
lemma introduces_iff (h : s.WrittenAs line) (hword : isIdentifier word) :
    CLine.Introduces line word ↔ s.Introduces word := by
  -- neither the plus of an addition nor the bracket of a call can stand in an introduction
  have hnotMem : ∀ c, isIdentifierContinue c = false → c ∉ " int=0;".toList →
      CLine.Introduces line word → c ∉ line := by
    rintro c hc hmarks rfl hmem
    rw [List.mem_append, List.mem_append] at hmem
    obtain (hmem | hmem) | hmem := hmem
    · exact hmarks ((by decide : "    int ".toList ⊆ " int=0;".toList) hmem)
    · exact absurd (isIdentifierContinue_of_mem hword c hmem) (by simp [hc])
    · exact hmarks ((by decide : " = 0;".toList ⊆ " int=0;".toList) hmem)
  cases h with
  | declaration type target =>
    constructor
    · intro h
      exact ⟨type, target, rfl, by simpa [CLine.Introduces] using h⟩
    · rintro ⟨_, _, ⟨⟩, rfl⟩
      rfl
  | sum target value position =>
    constructor
    · intro h
      exact absurd (by simp) (hnotMem '+' (by decide) (by decide) h)
    · rintro ⟨_, _, ⟨⟩, -⟩
  | call callee args =>
    constructor
    · intro h
      exact absurd (by simp) (hnotMem '(' (by decide) (by decide) h)
    · rintro ⟨_, _, ⟨⟩, -⟩

/-- A line adds the operands of its statement. -/
lemma accumulates_iff (h : s.WrittenAs line) (hlexed : ∀ leaf ∈ s.operands, leaf.IsLexed) :
    CLine.Accumulates line word ↔ s.Accumulates word := by
  have hplus : CLine.Accumulates line word → '+' ∈ line := by
    rintro (⟨value, rfl⟩ | ⟨target, rfl⟩) <;> simp
  have hnotMem : '+' ∉ s.marks.toList → '+' ∉ line := h.notMem hlexed (by decide)
  cases h with
  | declaration type target =>
    constructor
    · intro haccumulates
      exact absurd (hplus haccumulates) (hnotMem (by decide : '+' ∉ " int=0;".toList))
    · rintro ⟨_, _, ⟨⟩, -⟩
  | call callee args =>
    constructor
    · intro haccumulates
      exact absurd (hplus haccumulates)
        (hnotMem (by decide : '+' ∉ " printf(\"%d\\n,);".toList))
    · rintro ⟨_, _, ⟨⟩, -⟩
  | sum target value position =>
    have htarget : '+' ∉ target.word.toList := fun hmem => absurd
      ((Leaf.identifier target).isWordChar_of_mem_word (hlexed _ (by simp [operands])) _ hmem)
      (by decide)
    have hvalue : '+' ∉ value.word.toList := fun hmem => absurd
      (value.isWordChar_of_mem_word (hlexed _ (by simp [operands])) _ hmem) (by decide)
    constructor
    · rintro (⟨value', h⟩ | ⟨target', h⟩)
      · obtain ⟨rfl, -⟩ := eq_of_sum_eq htarget hvalue h
        exact ⟨_, _, rfl, .identifier target, by simp, rfl⟩
      · obtain ⟨-, rfl⟩ := eq_of_sum_eq htarget hvalue h
        exact ⟨_, _, rfl, value, by simp, rfl⟩
    · rintro ⟨_, _, ⟨⟩, leaf, hleaf, rfl⟩
      rcases List.mem_pair.1 hleaf with rfl | rfl
      · exact Or.inl ⟨_, rfl⟩
      · exact Or.inr ⟨_, rfl⟩

/-- A line prints the arguments of its statement. -/
lemma prints_iff (h : s.WrittenAs line) (hlexed : ∀ leaf ∈ s.operands, leaf.IsLexed) :
    CLine.Prints line word ↔ s.Prints word := by
  have hparenthesis : CLine.Prints line word → '(' ∈ line := by
    rintro ⟨format, args, -, rfl, -⟩
    simp
  have hnotMem : '(' ∉ s.marks.toList → '(' ∉ line := h.notMem hlexed (by decide)
  cases h with
  | declaration type target =>
    constructor
    · intro hprints
      exact absurd (hparenthesis hprints) (hnotMem (by decide : '(' ∉ " int=0;".toList))
    · rintro ⟨_, _, ⟨⟩, -⟩
  | sum target value position =>
    constructor
    · intro hprints
      exact absurd (hparenthesis hprints) (hnotMem (by decide : '(' ∉ " +=;".toList))
    · rintro ⟨_, _, ⟨⟩, -⟩
  | call callee args =>
    have hparts : ∀ part ∈ (Target.formatString (List.replicate args.length "%d")).toList ::
        args.map (·.word.toList), ',' ∉ part := by
      intro part hpart hcomma
      rcases List.mem_cons.1 hpart with rfl | hpart
      · exact absurd (mem_of_mem_formatString hcomma) (by decide)
      · obtain ⟨leaf, hleaf, rfl⟩ := List.mem_map.1 hpart
        exact absurd (leaf.isWordChar_of_mem_word (hlexed leaf hleaf) _ hcomma) (by decide)
    constructor
    · rintro ⟨format, words, hparts', h, hmem⟩
      rw [List.append_left_inj, List.append_right_inj] at h
      have hwords := eq_of_intercalate_eq (by simp) (by simp) hparts hparts' h
      obtain ⟨-, rfl⟩ := List.cons_eq_cons.1 hwords
      obtain ⟨leaf, hleaf, rfl⟩ := List.mem_map.1 hmem
      exact ⟨callee, args, rfl, leaf, hleaf, rfl⟩
    · rintro ⟨_, _, ⟨⟩, leaf, hleaf, rfl⟩
      exact ⟨_, _, hparts, rfl, List.mem_map_of_mem hleaf⟩

end WrittenAs

end Statement

/-! ## Whole programs -/

lemma Text.lines_unlines {texts : List String}
    (h : ∀ text ∈ texts, '\n' ∉ text.toList ∧ '\r' ∉ text.toList) :
    lines (unlines texts).toList = texts.map String.toList := by
  induction texts with
  | nil => rfl
  | cons text rest ih =>
    obtain ⟨⟨hnewline, hreturn⟩, hrest⟩ := List.forall_mem_cons.1 h
    have hlast : text.toList.getLast? ≠ some '\r' :=
      fun hlast => hreturn (List.mem_of_getLast? hlast)
    have hsplit : (unlines (text :: rest)).toList =
        text.toList ++ '\n' :: (unlines rest).toList := by
      simp
    rw [hsplit, lines_append_newline hnewline, dropReturn_of_getLast?_ne hlast, ih hrest,
      List.map_cons]

/-- The lines of a C program that belong to no statement. -/
def CLine.frame : List (List Char) := (Target.c.opening ++ Target.c.closing).map String.toList

namespace CLine

variable {line : List Char}

lemma not_introduces_of_mem_frame (hline : line ∈ frame) (word : List Char) :
    ¬ Introduces line word := by
  have hframe : ∀ line ∈ frame, ¬ "    int ".toList <+: line := by decide
  rintro rfl
  refine hframe _ hline ?_
  rw [List.append_assoc]
  exact List.prefix_append _ _

lemma not_accumulates_of_mem_frame (hline : line ∈ frame) (word : List Char) :
    ¬ Accumulates line word := by
  have hframe : ∀ line ∈ frame, '+' ∉ line := by decide
  rintro (⟨value, rfl⟩ | ⟨target, rfl⟩)
  · exact hframe _ hline (by simp)
  · exact hframe _ hline (by simp)

lemma not_prints_of_mem_frame (hline : line ∈ frame) (word : List Char) :
    ¬ Prints line word := by
  have hframe : ∀ line ∈ frame, ¬ "    printf(".toList <+: line := by decide
  rintro ⟨format, args, -, rfl, -⟩
  refine hframe _ hline ?_
  rw [List.append_assoc]
  exact List.prefix_append _ _

end CLine

/-- The lines are those of the statements, between the opening and the closing of a C program. -/
structure LaysOut (lines : List (List Char)) (program : Program) : Prop where
  line_of_statement {i : Nat} {s : Statement} (hs : program[i]? = some s) :
    ∃ line, lines[i + 3]? = some line ∧ s.WrittenAs line
  statement_of_line {k : Nat} {line : List Char} (hline : lines[k]? = some line) :
    line ∈ CLine.frame ∨ ∃ i s, k = i + 3 ∧ program[i]? = some s ∧ s.WrittenAs line

section

variable {program : Program}

/-- A statement of an accepted program has its line. -/
lemma exists_writtenAs_of_draft_ok (h : (Target.c.draft [] program).result = .ok ()) {i : Nat}
    {s : Statement} (hs : program[i]? = some s) :
    ∃ text, ((Target.c.draft [] program).lines.map (Writer.indented 1))[i]? = some text ∧
      s.WrittenAs text.toList := by
  obtain ⟨line, later, hline, hindex, -⟩ := Target.exists_line_of_draft_ok h hs
  refine ⟨Writer.indented 1 line, ?_, ?_⟩
  · rw [List.getElem?_map, hindex]
    rfl
  · exact Target.writtenAs_of_cLine (Scope.models_draft (Target.draft_take_of_ok h i)) hline

/-- A line between the opening and the closing of an accepted program has its statement. -/
lemma exists_statement_of_draft_ok (h : (Target.c.draft [] program).result = .ok ()) {i : Nat}
    {text : String}
    (htext : ((Target.c.draft [] program).lines.map (Writer.indented 1))[i]? = some text) :
    ∃ s, program[i]? = some s ∧ s.WrittenAs text.toList := by
  obtain ⟨hi, -⟩ := List.getElem?_eq_some_iff.1 htext
  rw [List.length_map, Target.length_lines_draft h] at hi
  obtain ⟨text', htext', hwritten⟩ := exists_writtenAs_of_draft_ok h (List.getElem?_eq_getElem hi)
  cases htext.symm.trans htext'
  exact ⟨program[i], List.getElem?_eq_getElem hi, hwritten⟩

/-- No word or mark breaks a line, so the text falls into the lines it was made of. -/
lemma lines_of_draft_ok (h : (Target.c.draft [] program).result = .ok ())
    (hlexed : ∀ s ∈ program, ∀ leaf ∈ s.operands, leaf.IsLexed) :
    Text.lines (unlines (Target.c.unitLines (Target.c.draft [] program))).toList =
      (Target.c.opening ++ (Target.c.draft [] program).lines.map (Writer.indented 1) ++
        Target.c.closing).map String.toList := by
  have hunit : Target.c.unitLines (Target.c.draft [] program) = Target.c.opening ++
      (Target.c.draft [] program).lines.map (Writer.indented 1) ++ Target.c.closing := by
    rw [Target.unitLines, h]
    rfl
  have hframe : ∀ text ∈ Target.c.opening ++ Target.c.closing,
      '\n' ∉ text.toList ∧ '\r' ∉ text.toList := by decide
  rw [hunit, Text.lines_unlines]
  intro text htext
  rw [List.mem_append, List.mem_append] at htext
  obtain (htext | htext) | htext := htext
  · exact hframe text (List.mem_append_left _ htext)
  · obtain ⟨i, hi⟩ := List.mem_iff_getElem?.1 htext
    obtain ⟨s, hs, hwritten⟩ := exists_statement_of_draft_ok h hi
    have hoperands := hlexed s (List.mem_of_getElem? hs)
    obtain ⟨hnewline, hreturn⟩ := s.lineEnds_notMem_marks
    exact ⟨hwritten.notMem hoperands (by decide) hnewline,
      hwritten.notMem hoperands (by decide) hreturn⟩
  · exact hframe text (List.mem_append_right _ htext)

/-- **The text of an accepted program has a line for each statement.** -/
lemma laysOut_of_draft_ok (h : (Target.c.draft [] program).result = .ok ())
    (hlexed : ∀ s ∈ program, ∀ leaf ∈ s.operands, leaf.IsLexed) :
    LaysOut (Text.lines (unlines (Target.c.unitLines (Target.c.draft [] program))).toList)
      program := by
  rw [lines_of_draft_ok h hlexed]
  set body := (Target.c.draft [] program).lines.map (Writer.indented 1)
  have hshift : ∀ i, (Target.c.opening ++ body ++ Target.c.closing)[i + 3]? =
      (body ++ Target.c.closing)[i]? := by
    intro i
    rw [List.append_assoc]
    exact List.getElem?_append_right (Nat.le_add_left 3 i : Target.c.opening.length ≤ i + 3)
  constructor
  · intro i s hs
    obtain ⟨text, htext, hwritten⟩ := exists_writtenAs_of_draft_ok h hs
    obtain ⟨hi, -⟩ := List.getElem?_eq_some_iff.1 htext
    refine ⟨text.toList, ?_, hwritten⟩
    rw [List.getElem?_map, hshift, List.getElem?_append_left hi, htext]
    rfl
  · intro k line hline
    rw [List.getElem?_map, Option.map_eq_some_iff] at hline
    obtain ⟨text, htext, rfl⟩ := hline
    rcases Nat.lt_or_ge k 3 with hk | hk
    · -- a line of the opening
      left
      rw [List.append_assoc,
        List.getElem?_append_left (hk : k < Target.c.opening.length)] at htext
      exact List.mem_map_of_mem (List.mem_append_left _ (List.mem_of_getElem? htext))
    · obtain ⟨i, rfl⟩ := Nat.exists_eq_add_of_le' hk
      rw [hshift] at htext
      rcases Nat.lt_or_ge i body.length with hi | hi
      · right
        rw [List.getElem?_append_left hi] at htext
        obtain ⟨s, hs, hwritten⟩ := exists_statement_of_draft_ok h htext
        exact ⟨i, s, rfl, hs, hwritten⟩
      · -- a line of the closing
        left
        rw [List.getElem?_append_right hi] at htext
        exact List.mem_map_of_mem (List.mem_append_right _ (List.mem_of_getElem? htext))

/-! ## Scoping -/

/-- What is printed has been declared. -/
lemma scoped_prints_of_draft_ok (h : (Target.c.draft [] program).result = .ok ()) :
    Scoped Statement.Prints Statement.Introduces program := by
  rintro i word hword ⟨s, hs, callee, args, rfl, leaf, hleaf, rfl⟩
  obtain ⟨-, hprintable⟩ := Target.draft_c_eq_ok_iff.1 h i _ hs
  have hleaf := hprintable leaf hleaf
  cases leaf with
  | identifier id =>
    obtain ⟨type, target, hmem, hname⟩ := hleaf
    obtain ⟨j, hj⟩ := List.mem_iff_getElem?.1 hmem
    have hji : j < i := by
      by_contra hji
      simp [hji] at hj
    rw [List.getElem?_take, if_pos hji] at hj
    refine ⟨j, hji, _, hj, type, target, rfl, ?_⟩
    show (sanitize target.name).toList = (sanitize id.name).toList
    rw [hname]
  | number n =>
    rw [show isIdentifier (Leaf.number n).word.toList = false from
      Binary64.isIdentifier_text_of_isFinite hleaf.1] at hword
    cases hword

end

/-- Three lines further down the lines have what the statements have. -/
def Mirrors (ofLine : List Char → List Char → Prop) (ofStatement : Statement → List Char → Prop)
    (lines : List (List Char)) (program : Program) : Prop :=
  ∀ k word, isIdentifier word →
    (HasAt ofLine lines k word ↔ ∃ i, k = i + 3 ∧ HasAt ofStatement program i word)

section

variable {lines : List (List Char)} {program : Program}
  {uses introduces : List Char → List Char → Prop}
  {uses' introduces' : Statement → List Char → Prop}

lemma LaysOut.mirrors (h : LaysOut lines program)
    (hframe : ∀ line ∈ CLine.frame, ∀ word, ¬ uses line word)
    (hstatement : ∀ s ∈ program, ∀ line word, s.WrittenAs line → isIdentifier word →
      (uses line word ↔ uses' s word)) : Mirrors uses uses' lines program := by
  intro k word hword
  constructor
  · rintro ⟨line, hline, huses⟩
    obtain hline | ⟨i, s, rfl, hs, hwritten⟩ := h.statement_of_line hline
    · exact absurd huses (hframe line hline word)
    · refine ⟨i, rfl, s, hs, ?_⟩
      exact (hstatement s (List.mem_of_getElem? hs) line word hwritten hword).1 huses
  · rintro ⟨i, rfl, s, hs, huses⟩
    obtain ⟨line, hline, hwritten⟩ := h.line_of_statement hs
    refine ⟨line, hline, ?_⟩
    exact (hstatement s (List.mem_of_getElem? hs) line word hwritten hword).2 huses

lemma scoped_iff (huses : Mirrors uses uses' lines program)
    (hintroduces : Mirrors introduces introduces' lines program) :
    Scoped uses introduces lines ↔ Scoped uses' introduces' program := by
  constructor
  · intro h i word hword hi
    obtain ⟨k, hk, hat⟩ := h (i + 3) word hword ((huses _ word hword).2 ⟨i, rfl, hi⟩)
    obtain ⟨j, rfl, hj⟩ := (hintroduces k word hword).1 hat
    exact ⟨j, by omega, hj⟩
  · intro h k word hword hk
    obtain ⟨i, rfl, hi⟩ := (huses k word hword).1 hk
    obtain ⟨j, hj, hat⟩ := h i word hword hi
    exact ⟨j + 3, by omega, (hintroduces _ word hword).2 ⟨j, rfl, hat⟩⟩

lemma introducedOnce_iff (hintroduces : Mirrors introduces introduces' lines program) :
    IntroducedOnce introduces lines ↔ IntroducedOnce introduces' program := by
  constructor
  · intro h i j word hword hi hj
    have hshift := h (i + 3) (j + 3) word hword ((hintroduces _ word hword).2 ⟨i, rfl, hi⟩)
      ((hintroduces _ word hword).2 ⟨j, rfl, hj⟩)
    omega
  · intro h k l word hword hk hl
    obtain ⟨i, rfl, hi⟩ := (hintroduces k word hword).1 hk
    obtain ⟨j, rfl, hj⟩ := (hintroduces l word hword).1 hl
    rw [h i j word hword hi hj]

end

/-- **How far C programs are scoped.**  What a program prints has been introduced before.  What it
adds has been introduced before exactly if the source declares it before, and a variable is
introduced once exactly if the source declares once what is written alike. -/
theorem scoped_of_compile {source output : String} {settings : Settings}
    (h : compile source settings = .ok output) (hc : settings.target = .c) :
    ∃ program, programOf source settings = .ok program ∧
      Scoped CLine.Prints CLine.Introduces (Text.lines output.toList) ∧
      (Scoped CLine.Accumulates CLine.Introduces (Text.lines output.toList) ↔
        Scoped Statement.Accumulates Statement.Introduces program) ∧
      (IntroducedOnce CLine.Introduces (Text.lines output.toList) ↔
        IntroducedOnce Statement.Introduces program) := by
  obtain ⟨program, hprogram, hresult, rfl⟩ := compile_eq_ok_iff.1 h
  rw [hc] at hresult ⊢
  have hlexed : ∀ s ∈ program, ∀ leaf ∈ s.operands, leaf.IsLexed :=
    fun s hs leaf hleaf => Leaf.isLexed_of_mem_programOf hprogram hs hleaf
  have hlays := laysOut_of_draft_ok hresult hlexed
  have hintroduces : Mirrors CLine.Introduces Statement.Introduces _ program :=
    hlays.mirrors (fun _ => CLine.not_introduces_of_mem_frame)
      fun s _ line word hwritten hword => hwritten.introduces_iff hword
  have haccumulates : Mirrors CLine.Accumulates Statement.Accumulates _ program :=
    hlays.mirrors (fun _ => CLine.not_accumulates_of_mem_frame)
      fun s hs line word hwritten _ => hwritten.accumulates_iff (hlexed s hs)
  have hprints : Mirrors CLine.Prints Statement.Prints _ program :=
    hlays.mirrors (fun _ => CLine.not_prints_of_mem_frame)
      fun s hs line word hwritten _ => hwritten.prints_iff (hlexed s hs)
  refine ⟨program, hprogram, ?_, ?_, ?_⟩
  · exact (scoped_iff hprints hintroduces).2 (scoped_prints_of_draft_ok hresult)
  · exact scoped_iff haccumulates hintroduces
  · exact introducedOnce_iff hintroduces

/-- A variable that is declared, changed and printed. -/
theorem scoped_of_compile_declared :
    ∃ output, compile "O.O x\n:v x x\nUwU x\n" ⟨.inMemory, .c⟩ = .ok output ∧
      ∃ program, programOf "O.O x\n:v x x\nUwU x\n" ⟨.inMemory, .c⟩ = .ok program ∧
        Scoped CLine.Prints CLine.Introduces (Text.lines output.toList) ∧
        (Scoped CLine.Accumulates CLine.Introduces (Text.lines output.toList) ↔
          Scoped Statement.Accumulates Statement.Introduces program) ∧
        (IntroducedOnce CLine.Introduces (Text.lines output.toList) ↔
          IntroducedOnce Statement.Introduces program) := by
  have h : compile "O.O x\n:v x x\nUwU x\n" ⟨.inMemory, .c⟩ =
      .ok (unlines (Target.c.opening ++
        ["    int x = 0;", "    x += x;", "    printf(\"%d\\n\", x);"] ++ Target.c.closing)) := by
    decide +kernel
  exact ⟨_, h, scoped_of_compile h rfl⟩

/-- Neither additions nor introductions are checked: a program adds to a variable before it is
introduced, and introduces it twice. -/
theorem not_scoped_of_compile_early_sum :
    ∃ output, compile ":v x x\nO.O x\nO.O x\n" ⟨.inMemory, .c⟩ = .ok output ∧
      ¬ Scoped CLine.Accumulates CLine.Introduces (Text.lines output.toList) ∧
      ¬ IntroducedOnce CLine.Introduces (Text.lines output.toList) := by
  have h : compile ":v x x\nO.O x\nO.O x\n" ⟨.inMemory, .c⟩ =
      .ok (unlines (Target.c.opening ++
        ["    x += x;", "    int x = 0;", "    int x = 0;"] ++ Target.c.closing)) := by
    decide +kernel
  have hlines : Text.lines (unlines (Target.c.opening ++
        ["    x += x;", "    int x = 0;", "    int x = 0;"] ++ Target.c.closing)).toList =
      (Target.c.opening ++ ["    x += x;", "    int x = 0;", "    int x = 0;"] ++
        Target.c.closing).map String.toList :=
    Text.lines_unlines (by decide)
  refine ⟨_, h, ?_, ?_⟩
  · rw [hlines]
    intro hscoped
    obtain ⟨j, hj, line, hline, rfl⟩ := hscoped 3 "x".toList (by decide)
      ⟨"    x += x;".toList, rfl, Or.inl ⟨"x".toList, by decide⟩⟩
    revert j
    decide
  · rw [hlines]
    intro honce
    have hsame := honce 4 5 "x".toList (by decide) ⟨_, rfl, rfl⟩ ⟨_, rfl, rfl⟩
    exact absurd hsame (by decide)

end Kaomoji
