import Kaomoji.Proofs.ErrorPlaces

/-!
# Errors that no text causes

Each phase guards against input that the phase before it never produces: a parser that meets the
name of a type, lines that are empty or begin with a number, calls that are no built-in, numerals
that denote no number.  For trees and statements built by hand these guards matter.  This module
says that a text never reaches them, and that the errors it can cause have one shape each.

Every guard rests on an agreement between two phases, and each agreement is one lemma here: what
ends a stream (`TokenStream.endsIn_ofText`), how the lines of a text without offence begin
(`exists_identifier_of_mem_tree`), that the keyword of a call is a built-in of both targets
(`Target.line_ne_unknownCall`), and that the characters gathered for a number are a numeral
(`Scanner.numberBy_eq_error_iff`).
-/

namespace Kaomoji

/-! ## What ends a stream -/

/-- A fault without a character is found at the end of the text, behind a point. -/
lemma eq_append_point_of_faulty {rest read : List Char}
    (h : longestLexeme rest = .faulty read (.missingDecimalDigit none)) :
    rest = read ∧ read.getLast? = some '.' := by
  rcases rest with _ | ⟨c, rest⟩
  · cases h
  · rw [longestLexeme] at h
    split_ifs at h with hnewline hblank hname hdigit
    · -- only a number can be at fault without a character
      unfold numberLexeme at h
      split at h
      · rename_i hdrop
        cases h
        constructor
        · rw [List.cons_append, ← hdrop, List.takeWhile_append_dropWhile]
        · exact List.getLast?_concat
      · split_ifs at h
        cases h
      · cases h
    · cases h

namespace TokenStream

/-- The end of the stream is that of the text: the end-of-file token, or an error which, if it
misses a character, misses it behind a point at the end of the text. -/
structure EndsIn (source : List Char) (stream : TokenStream) : Prop where
  last : ∀ last, stream.ending = .ok last → last.tag = .endOfFile
  point : ∀ e, stream.ending = .error e → e.fault = .missingDecimalDigit none →
    e.position = .behind source ∧ source.getLast? = some '.'

lemma endsIn_ofText (origin : Origin) (afterLineEnd : Bool) (before rest : List Char) :
    (ofText origin afterLineEnd before rest).EndsIn (before ++ rest) := by
  fun_induction ofText origin afterLineEnd before rest with
  | case1 afterLineEnd before rest hend =>
    constructor
    · intro last hlast
      cases hlast
      rfl
    · intro e he
      cases he
  | case2 afterLineEnd before rest c hblank ih =>
    have hsplit : before ++ [c] ++ rest.drop 1 = before ++ rest := append_extent_drop hblank before
    rwa [hsplit] at ih
  | case3 before rest hlineEnd later ih =>
    have hsplit : before ++ ['\n'] ++ rest.drop 1 = before ++ rest :=
      append_extent_drop hlineEnd before
    rwa [hsplit] at ih
  | case4 afterLineEnd before rest hlineEnd later _ ih =>
    have hsplit : before ++ ['\n'] ++ rest.drop 1 = before ++ rest :=
      append_extent_drop hlineEnd before
    rw [hsplit] at ih
    exact ⟨ih.last, ih.point⟩
  | case5 afterLineEnd before rest text hname ih =>
    have hsplit : before ++ text ++ rest.drop text.length = before ++ rest :=
      append_extent_drop hname before
    rw [hsplit] at ih
    exact ⟨ih.last, ih.point⟩
  | case6 afterLineEnd before rest text hnumber ih =>
    have hsplit : before ++ text ++ rest.drop text.length = before ++ rest :=
      append_extent_drop hnumber before
    rw [hsplit] at ih
    exact ⟨ih.last, ih.point⟩
  | case7 afterLineEnd before rest read fault hfaulty =>
    constructor
    · intro last hlast
      cases hlast
    · intro e he hfault
      cases he
      obtain rfl : fault = .missingDecimalDigit none := hfault
      obtain ⟨rfl, hpoint⟩ := eq_append_point_of_faulty hfaulty
      exact ⟨rfl, by rw [List.getLast?_append, hpoint]; rfl⟩

end TokenStream

lemma endsIn_streamOf (source : String) (settings : Settings) :
    (streamOf source settings).EndsIn source.toList := by
  rw [streamOf_eq_ofText]
  exact TokenStream.endsIn_ofText settings.origin false [] source.toList

/-! ## How the lines of a text begin -/

section

variable {source : String} {settings : Settings}

/-- A text whose lines are asked for their meaning has been read without offence. -/
lemma offence?_eq_none_of_meaning {e : MeaningError}
    (h : compile source settings = .error (.meaning e)) :
    (streamOf source settings).offence? = none := by
  rcases hoffence : (streamOf source settings).offence? with _ | e'
  · rfl
  · rw [compile, compileTo, programOf_of_offence? hoffence] at h
    cases e' with
    | lexical _ => cases h
    | structural _ => cases h

/-- Each line of a text without offence begins with a name. -/
lemma exists_identifier_of_mem_tree (hoffence : (streamOf source settings).offence? = none)
    {line : Line} (hline : line ∈ (streamOf source settings).tree) :
    ∃ head args, line.leaves = .identifier head :: args := by
  have htags := Scanner.stream_tags (Scanner.coherent_ofText source.toList settings.origin)
  have hreading : (streamOf source settings).reading = .ok (streamOf source settings).tree := by
    rw [TokenStream.reading, hoffence]
  have hheads := ((TokenStream.exists_reading_eq_ok htags).1 ⟨_, hreading⟩).2.1
  obtain ⟨words, hwords, rfl⟩ := List.mem_map.1 hline
  obtain ⟨head, hhead, htag⟩ := hheads words hwords
  obtain ⟨more, rfl⟩ := List.head?_eq_some_iff.1 hhead
  obtain ⟨text, hkind⟩ : ∃ text, head.kind = .name text := by
    rw [Token.tag] at htag
    cases hkind : head.kind <;> simp_all [TokenKind.tag]
  exact ⟨⟨text, head.position⟩, more.filterMap Token.leaf?, by simp [Token.leaf?, hkind]⟩

end

lemma Statement.ofLine_ne_notAnIdentifier {line : Line} {head : Identifier} {args : List Leaf}
    (hline : line.leaves = .identifier head :: args) (found : String) (position : Position) :
    Statement.ofLine line ≠ .error (.notAnIdentifier found position) := by
  intro h
  rw [Statement.ofLine, hline] at h
  dsimp only at h
  split at h
  · cases h
  · rw [Statement.ofDeclaration.eq_def] at h
    split at h <;> cases h
  · cases h
  · cases h

/-! ## What is called -/

/-- The keyword of a call is a built-in of both targets. -/
lemma Keyword.eq_of_ofName?_eq_call {name : String} (h : Keyword.ofName? name = some .call) :
    name = "UwU" := by
  rw [Keyword.ofName?, Keyword.table] at h
  simp only [List.lookup_cons, List.lookup_nil] at h
  split at h
  · rename_i hname
    exact eq_of_beq hname
  · split at h
    · cases h
    · split at h
      · cases h
      · cases h

lemma Target.placeholder_ne_unknownCall (scope : Scope) (arg : Leaf) (name : String)
    (position : Position) : Target.placeholder scope arg ≠ .error (.unknownCall name position) := by
  intro h
  rw [Target.placeholder] at h
  obtain htype | ⟨type, -, hplaceholder⟩ := bind_eq_error_iff.1 h
  · unfold Target.typeOf at htype
    split at htype
    · split at htype <;> cases htype
    · cases htype
  · split at hplaceholder <;> cases hplaceholder

/-- A statement that a line means calls nothing that the target lacks. -/
lemma Target.line_ne_unknownCall {target : Target} {line : Line} {s : Statement}
    (hmeaning : Statement.ofLine line = .ok s) (scope : Scope) (name : String)
    (position : Position) : target.line scope s ≠ .error (.unknownCall name position) := by
  intro h
  rcases Statement.ofLine_cases hmeaning with
    ⟨head, args, -, hkeyword, rfl⟩ | ⟨head, type, declared, -, -, rfl⟩ |
      ⟨head, form, args, -, -, rfl⟩
  · have hname := Keyword.eq_of_ofName?_eq_call hkeyword
    cases target with
    | c =>
      rw [Target.line, Target.cLine, hname] at h
      obtain hplaceholders | ⟨_, -, hline⟩ := bind_eq_error_iff.1 h
      · obtain ⟨arg, -, harg⟩ := exists_of_mapM_eq_error hplaceholders
        exact Target.placeholder_ne_unknownCall scope arg name position harg
      · cases hline
    | python =>
      rw [Target.line, Target.pythonLine, hname] at h
      cases h
  · cases target <;> cases h
  · cases form with
    | sum =>
      have hoperands := Target.line_sum_eq_error h
      unfold sumOperands at hoperands
      split at hoperands <;> cases hoperands

/-! ## Numbers are always numerals -/

/-- One or more digits, and possibly a point with any number of digits behind it. -/
def isNumeral (text : List Char) : Bool :=
  text.head?.any Char.isDigit &&
    match text.dropWhile Char.isDigit with
    | [] => true
    | c :: fraction => c = '.' && fraction.all Char.isDigit

lemma isNumeral_whole {whole : List Char} (hne : whole ≠ []) (hwhole : ∀ c ∈ whole, c.isDigit) :
    isNumeral whole := by
  obtain ⟨c, more, rfl⟩ := List.exists_cons_of_ne_nil hne
  have hc : c.isDigit := hwhole c List.mem_cons_self
  rw [isNumeral, List.dropWhile_eq_nil_iff.2 hwhole]
  simp [hc]

lemma isNumeral_point {whole fraction : List Char} (hne : whole ≠ [])
    (hwhole : ∀ c ∈ whole, c.isDigit) (hfraction : ∀ c ∈ fraction, c.isDigit) :
    isNumeral (whole ++ '.' :: fraction) := by
  obtain ⟨c, more, rfl⟩ := List.exists_cons_of_ne_nil hne
  have hc : c.isDigit := hwhole c List.mem_cons_self
  rw [isNumeral, List.dropWhile_append_of_pos hwhole, List.dropWhile_cons_of_neg (by decide)]
  simpa [hc] using hfraction

/-- The conversion gives every numeral a value. -/
def AcceptsNumerals (convert : List Char → Option Binary64) : Prop :=
  ∀ text, isNumeral text → (convert text).isSome

namespace Scanner

/-- The number token for a gathered text, or a complaint where the text converts to no value. -/
def convertNumber (convert : List Char → Option Binary64) (s : Scanner) (text : List Char)
    (start : Position) : Except LexicalError Token × Scanner :=
  match convert text with
  | some value => s.make (.number value) start (s.spanFrom start)
  | none => s.fail (.missingDecimalDigit none) start

/-- The number that begins with the drawn digit `first`, gathered as text and then converted.  In
contrast to `number` the conversion may fail. -/
def numberBy (convert : List Char → Option Binary64) (s : Scanner) (first : Char)
    (start : Position) : Except LexicalError Token × Scanner :=
  let run := s.drawRun isDigitOrSeparator
  let whole := first :: withoutSeparators run.accepted
  if run.stop.any (·.1 = '.') then
    match run.rest.draw with
    | none => run.rest.fail (.missingDecimalDigit none) run.rest.cursor
    | some ((c, place), s) =>
      if isDigitOrSeparator c then
        let decimals := s.drawRun isDigitOrSeparator
        (decimals.rest.holdAny decimals.stop).convertNumber convert
          (whole ++ '.' :: withoutSeparators (c :: decimals.accepted)) start
      else s.fail (.missingDecimalDigit (some c)) place
  else (run.rest.holdAny run.stop).convertNumber convert whole start

lemma accepts_of_mem_drawRun (accepts : Char → Bool) (s : Scanner) :
    ∀ c ∈ (s.drawRun accepts).accepted, accepts c := by
  fun_induction drawRun accepts s with
  | case1 => simp
  | case2 s found s' h hacc _ run ih => exact List.forall_mem_cons.2 ⟨hacc, ih⟩
  | case3 => simp

/-- What is left of digits and separators is digits. -/
lemma isDigit_of_mem_withoutSeparators {row : List Char} (hrow : ∀ c ∈ row, isDigitOrSeparator c) :
    ∀ c ∈ withoutSeparators row, c.isDigit := by
  intro c hc
  obtain ⟨hmem, hne⟩ := List.mem_filter.1 hc
  have hdigit := hrow c hmem
  simp only [isDigitOrSeparator, Bool.or_eq_true, decide_eq_true_eq] at hdigit
  exact hdigit.resolve_right (by simpa using hne)

lemma convertNumber_ne_error {convert : List Char → Option Binary64}
    (hconvert : AcceptsNumerals convert) (s : Scanner) {text : List Char} (htext : isNumeral text)
    (start : Position) (e : LexicalError) : (s.convertNumber convert text start).1 ≠ .error e := by
  obtain ⟨value, hvalue⟩ := Option.isSome_iff_exists.1 (hconvert text htext)
  rw [convertNumber, hvalue]
  intro h
  cases h

lemma makeNumber_ne_error (s : Scanner) (whole fraction : List Char) (start : Position)
    (e : LexicalError) : (s.makeNumber whole fraction start).1 ≠ .error e := by
  intro h
  cases h

/-- **The conversion of a number never fails.**  With a conversion that accepts numerals the errors
are those of `number`, which converts without asking. -/
lemma numberBy_eq_error_iff {convert : List Char → Option Binary64}
    (hconvert : AcceptsNumerals convert) (s : Scanner) {first : Char} (hfirst : first.isDigit)
    (start : Position) (e : LexicalError) :
    (s.numberBy convert first start).1 = .error e ↔ (s.number first start).1 = .error e := by
  have hwhole : ∀ c ∈ first :: withoutSeparators (s.drawRun isDigitOrSeparator).accepted,
      c.isDigit :=
    List.forall_mem_cons.2 ⟨hfirst,
      isDigit_of_mem_withoutSeparators (accepts_of_mem_drawRun isDigitOrSeparator s)⟩
  unfold numberBy number
  dsimp only
  by_cases hpoint : (s.drawRun isDigitOrSeparator).stop.any (·.1 = '.')
  · rw [if_pos hpoint, if_pos hpoint]
    rcases hdraw : (s.drawRun isDigitOrSeparator).rest.draw with _ | ⟨⟨c, place⟩, t⟩
    · rfl
    · dsimp only
      by_cases hc : isDigitOrSeparator c
      · -- a point, and digits or separators behind it
        have hfraction : ∀ d ∈ withoutSeparators (c :: (t.drawRun isDigitOrSeparator).accepted),
            d.isDigit :=
          isDigit_of_mem_withoutSeparators
            (List.forall_mem_cons.2 ⟨hc, accepts_of_mem_drawRun isDigitOrSeparator t⟩)
        have htext := isNumeral_point (List.cons_ne_nil _ _) hwhole hfraction
        rw [if_pos hc, if_pos hc]
        exact iff_of_false (convertNumber_ne_error hconvert _ htext start e)
          (makeNumber_ne_error _ _ _ start e)
      · rw [if_neg hc, if_neg hc]
  · have htext := isNumeral_whole (List.cons_ne_nil _ _) hwhole
    rw [if_neg hpoint, if_neg hpoint]
    exact iff_of_false (convertNumber_ne_error hconvert _ htext start e)
      (makeNumber_ne_error _ _ _ start e)

end Scanner

/-! ## All errors of a text -/

/-- **What an error of a compilation can be.** -/
def CompileError.Reachable (source : String) : CompileError → Prop
  /- A point without anything behind it is the last character of the text. -/
  | .lexical e => e.fault = .missingDecimalDigit none →
      e.position = .behind source.toList ∧ source.toList.getLast? = some '.'
  | .structural e => e.fault = .unexpectedToken .name .number ∨ e.fault = .missingNewLine .endOfFile
  | .meaning e => e ≠ .emptyLine ∧ ∀ found position, e ≠ .notAnIdentifier found position
  | .emission e => e ≠ .refusedWrite ∧ ∀ name position, e ≠ .unknownCall name position

/-- **The errors of a compilation.**  Of the guards of the phases a text reaches only those that are
`Reachable`; and in no state of the scanner does the conversion of a number fail, provided that it
accepts numerals. -/
theorem reachable_of_compile_eq_error {source : String} {settings : Settings} {e : CompileError}
    (h : compile source settings = .error e) {convert : List Char → Option Binary64}
    (hconvert : AcceptsNumerals convert) :
    e.Reachable source ∧
      ∀ (s : Scanner) (first : Char) (start : Position) (fault : LexicalError), first.isDigit →
        ((s.numberBy convert first start).1 = .error fault ↔
          (s.number first start).1 = .error fault) := by
  have hends := endsIn_streamOf source settings
  refine ⟨?_, fun s first start fault hfirst =>
    Scanner.numberBy_eq_error_iff hconvert s hfirst start fault⟩
  cases arises_of_compile_eq_error h with
  | lexical hending => exact hends.point _ hending
  | @misplaced token htoken hnumber =>
    left
    show SyntaxFault.unexpectedToken .name token.tag = _
    rw [hnumber]
  | @unclosed last hending hclosed =>
    right
    show SyntaxFault.missingNewLine last.tag = _
    rw [hends.last _ hending]
  | meaningless hline hmeaning =>
    obtain ⟨head, args, hleaves⟩ :=
      exists_identifier_of_mem_tree (offence?_eq_none_of_meaning h) hline
    constructor
    · rintro rfl
      obtain ⟨leaf, -, hconcerns⟩ :=
        Statement.exists_concerns_of_ofLine (by simp [hleaves]) hmeaning
      exact hconcerns
    · rintro found position rfl
      exact Statement.ofLine_ne_notAnIdentifier hleaves found position hmeaning
  | inexpressible hline hmeaning hexpress =>
    constructor
    · rintro rfl
      obtain ⟨leaf, -, hconcerns⟩ := Target.exists_concerns_of_line hmeaning hexpress
      exact hconcerns
    · rintro name position rfl
      exact Target.line_ne_unknownCall hmeaning _ name position hexpress

/-- A text that ends with a point, and a conversion that knows nothing but numerals. -/
theorem reachable_of_compile_open_point :
    compile "UwU 1." .inMemory =
        .error (.lexical ⟨.missingDecimalDigit none, ⟨0, 6, 6⟩, .inMemory⟩) ∧
      AcceptsNumerals (fun text => if isNumeral text then some (numeralValue text) else none) ∧
      CompileError.Reachable "UwU 1."
        (.lexical ⟨.missingDecimalDigit none, ⟨0, 6, 6⟩, .inMemory⟩) := by
  have h : compile "UwU 1." .inMemory =
      .error (.lexical ⟨.missingDecimalDigit none, ⟨0, 6, 6⟩, .inMemory⟩) := by decide +kernel
  have hconvert :
      AcceptsNumerals (fun text => if isNumeral text then some (numeralValue text) else none) := by
    intro text htext
    simp [htext]
  exact ⟨h, hconvert, (reachable_of_compile_eq_error h hconvert).1⟩

end Kaomoji
