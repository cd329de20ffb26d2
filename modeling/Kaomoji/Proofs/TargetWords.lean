import Kaomoji.Proofs.Causes
import Kaomoji.Proofs.TokenPlaces

/-!
# The words of a target

Names of the source hold marks that C and Python do not know, and numbers may be too large for any
numeral.  Here is what the words look like that targets write for them: a name becomes an identifier
(`isIdentifier_sanitize`), a finite number never looks like one
(`isIdentifier_text_of_isFinite`), and no word holds a blank, a line end or any of the marks that
stand between words (`Leaf.isWordChar_of_mem_word`).

The first of these rests on the lexer: names are what it cuts out as names, so they begin with a
letter or a mark.  This is carried from lexemes to the leaves of statements in
`Leaf.isLexed_of_mem_programOf`.
-/

namespace Kaomoji

/-! ## Names and identifiers -/

/-- Whether a word begins with a character of one kind and goes on with those of another. -/
def Text.isFormed (first further : Char → Bool) : List Char → Bool
  | [] => false
  | c :: rest => first c && rest.all further

/-- Whether a word is a name of the source. -/
def isName : List Char → Bool := Text.isFormed isNameStart isNameContinue

/-- What can begin an identifier of a target. -/
def isIdentifierStart (c : Char) : Bool := Text.isAlphabetic c || c = '_'

/-- What can continue an identifier of a target. -/
def isIdentifierContinue (c : Char) : Bool := isIdentifierStart c || Text.isNumeric c

/-- Whether a word is an identifier of a target. -/
def isIdentifier : List Char → Bool := Text.isFormed isIdentifierStart isIdentifierContinue

lemma Text.isFormed_append {first further : Char → Bool} {word more : List Char}
    (hword : isFormed first further word) (hmore : ∀ c ∈ more, further c) :
    isFormed first further (word ++ more) := by
  rcases word with _ | ⟨c, rest⟩
  · cases hword
  · simp only [isFormed, List.cons_append, Bool.and_eq_true, List.all_eq_true,
      List.mem_append] at hword ⊢
    refine ⟨hword.1, ?_⟩
    rintro d (hd | hd)
    · exact hword.2 d hd
    · exact hmore d hd

lemma isIdentifierContinue_of_mem {word : List Char} (h : isIdentifier word) :
    ∀ c ∈ word, isIdentifierContinue c := by
  rcases word with _ | ⟨c, rest⟩
  · cases h
  · rw [isIdentifier, Text.isFormed, Bool.and_eq_true, List.all_eq_true] at h
    intro d hd
    rcases List.mem_cons.1 hd with rfl | hd
    · simp [isIdentifierContinue, h.1]
    · exact h.2 d hd

/-- A mark is replaced by an identifier, and any other character stays. -/
lemma sanitizeChar_cases (c : Char) :
    isIdentifier (sanitizeChar c) ∨ (c ∉ nameMarks ∧ sanitizeChar c = [c]) := by
  by_cases hc : c ∈ nameMarks
  · left
    have hmarks : nameMarks.all fun mark => isIdentifier (sanitizeChar mark) := by decide
    exact List.all_eq_true.1 hmarks c hc
  · right
    refine ⟨hc, ?_⟩
    have hmarks : ∀ entry ∈ markWords, entry.1 ∈ nameMarks := by decide
    have hlookup : markWords.lookup c = none := by
      refine List.lookup_eq_none_iff.2 fun entry hentry => ?_
      rw [bne_iff_ne]
      rintro rfl
      exact hc (hmarks entry hentry)
    rw [sanitizeChar, hlookup]

lemma isIdentifier_sanitizeChar {c : Char} (h : isNameStart c) : isIdentifier (sanitizeChar c) := by
  obtain hword | ⟨hc, hchar⟩ := sanitizeChar_cases c
  · exact hword
  · have halphabetic : Text.isAlphabetic c := by
      rw [isNameStart, Bool.or_eq_true, List.contains_iff_mem] at h
      exact h.resolve_right hc
    rw [hchar]
    simp [isIdentifier, Text.isFormed, isIdentifierStart, halphabetic]

lemma isIdentifierContinue_of_mem_sanitizeChar {c : Char} (h : isNameContinue c) :
    ∀ d ∈ sanitizeChar c, isIdentifierContinue d := by
  rw [isNameContinue, Bool.or_eq_true] at h
  obtain h | h := h
  · exact isIdentifierContinue_of_mem (isIdentifier_sanitizeChar h)
  · obtain hword | ⟨-, hchar⟩ := sanitizeChar_cases c
    · exact isIdentifierContinue_of_mem hword
    · rw [hchar]
      simp [isIdentifierContinue, h]

/-- **Targets write names as identifiers.** -/
lemma isIdentifier_sanitize {name : String} (h : isName name.toList) :
    isIdentifier (sanitize name).toList := by
  rw [sanitize, String.toList_ofList]
  rcases hname : name.toList with _ | ⟨c, rest⟩
  · rw [hname] at h
    cases h
  · rw [hname, isName, Text.isFormed, Bool.and_eq_true, List.all_eq_true] at h
    rw [List.flatMap_cons]
    refine Text.isFormed_append (isIdentifier_sanitizeChar h.1) fun d hd => ?_
    obtain ⟨c', hc', hd⟩ := List.mem_flatMap.1 hd
    exact isIdentifierContinue_of_mem_sanitizeChar (h.2 c' hc') d hd

/-! ## Numerals -/

namespace Decimal

lemma isDigit_of_mem_digits {n : Nat} {c : Char} (h : c ∈ digits n) : c.isDigit :=
  Nat.isDigit_of_mem_toDigits (by decide) (by decide) h

lemma isDigit_of_mem_fractionDigits {d : Decimal} {c : Char} (h : c ∈ d.fractionDigits) :
    c.isDigit := by
  rw [fractionDigits, paddedDigits] at h
  split at h
  · cases h
  · rcases List.mem_append.1 h with h | h
    · rw [List.eq_of_mem_replicate h]
      decide
    · exact isDigit_of_mem_digits h

/-- Positional layout has digits and at most a point. -/
lemma isDigit_or_of_mem_positional {d : Decimal} {c : Char} (h : c ∈ d.positional) :
    c.isDigit ∨ c = '.' := by
  rw [positional] at h
  split at h
  · exact Or.inl (isDigit_of_mem_digits h)
  · rcases List.mem_append.1 h with h | h
    · exact Or.inl (isDigit_of_mem_digits h)
    · rcases List.mem_cons.1 h with h | h
      · exact Or.inr h
      · exact Or.inl (isDigit_of_mem_fractionDigits h)

/-- Positional layout begins with a digit. -/
lemma exists_positional_eq_cons (d : Decimal) :
    ∃ c rest, d.positional = c :: rest ∧ c.isDigit := by
  obtain ⟨c, rest, hdigits⟩ : ∃ c rest, d.wholeDigits = c :: rest :=
    List.exists_cons_of_ne_nil Nat.toDigits_ne_nil
  have hc : c.isDigit := isDigit_of_mem_digits (by rw [← wholeDigits, hdigits]; simp)
  rw [positional, hdigits]
  split
  · exact ⟨c, rest, rfl, hc⟩
  · exact ⟨c, _, rfl, hc⟩

end Decimal

lemma isDigit_iff_toNat {c : Char} : c.isDigit ↔ 48 ≤ c.toNat ∧ c.toNat ≤ 57 := by
  simp [Char.isDigit, UInt32.le_iff_toNat_le, ← Char.toNat_val]

lemma isAscii_of_isDigit {c : Char} (h : c.isDigit) : Text.isAscii c := by
  rw [isDigit_iff_toNat] at h
  rw [Text.isAscii, decide_eq_true_eq]
  omega

lemma isIdentifierStart_of_isDigit {c : Char} (h : c.isDigit) : isIdentifierStart c = false := by
  have halpha : c.isAlpha = false := by
    rw [isDigit_iff_toNat] at h
    rw [← Bool.not_eq_true]
    delta Char.isAlpha Char.isUpper Char.isLower
    simp only [Bool.or_eq_true, Bool.and_eq_true, decide_eq_true_eq, UInt32.le_iff_toNat_le,
      ge_iff_le]
    show ¬ ((65 ≤ c.toNat ∧ c.toNat ≤ 90) ∨ (97 ≤ c.toNat ∧ c.toNat ≤ 122))
    omega
  have hne : c ≠ '_' := by
    rintro rfl
    exact absurd h (by decide)
  simp [isIdentifierStart, Text.isAlphabetic, isAscii_of_isDigit h, halpha, hne]

/-- What a word of a target can consist of. -/
def isWordChar (c : Char) : Bool := isIdentifierContinue c || c = '.' || c = '-'

lemma isWordChar_of_isDigit {c : Char} (h : c.isDigit) : isWordChar c := by
  simp [isWordChar, isIdentifierContinue, Text.isNumeric, isAscii_of_isDigit h, h]

namespace Binary64

lemma isWordChar_of_mem_text {x : Binary64} {c : Char} (h : c ∈ x.text.toList) : isWordChar c := by
  rw [text, numeral] at h
  split at h
  · have hnan : "NaN".toList.all isWordChar := by decide
    exact List.all_eq_true.1 hnan c h
  · rw [String.toList_ofList] at h
    rcases List.mem_append.1 h with h | h
    · split at h
      · rw [List.mem_singleton.1 h]
        decide
      · cases h
    · split at h
      · rcases Decimal.isDigit_or_of_mem_positional h with h | rfl
        · exact isWordChar_of_isDigit h
        · decide
      · have hinf : ['i', 'n', 'f'].all isWordChar := by decide
        exact List.all_eq_true.1 hinf c h

/-- The numeral of a finite number does not look like an identifier. -/
lemma isIdentifier_text_of_isFinite {x : Binary64} (h : x.isFinite) :
    isIdentifier x.text.toList = false := by
  have hnan : x.isNaN = false := by
    simp only [isNaN, isFinite, decide_eq_true_eq, decide_eq_false_iff_not] at h ⊢
    omega
  obtain ⟨c, rest, hpositional, hc⟩ := x.shortest.exists_positional_eq_cons
  rw [text, numeral, hnan, h, if_pos rfl, hpositional]
  cases x.isNegative with
  | true => simp [isIdentifier, Text.isFormed, show isIdentifierStart '-' = false by decide]
  | false => simp [isIdentifier, Text.isFormed, isIdentifierStart_of_isDigit hc]

end Binary64

/-! ## What comes from a source -/

/-- A name is one that the lexer cuts out. -/
def Leaf.IsLexed : Leaf → Prop
  | .identifier id => isName id.name.toList
  | .number _ => True

lemma isName_of_longestLexeme {rest text : List Char} (h : longestLexeme rest = .name text) :
    isName text := by
  rcases rest with _ | ⟨c, rest⟩
  · cases h
  · rw [longestLexeme] at h
    split_ifs at h with hnewline hblank hname hdigit
    · cases h
      rw [isName, Text.isFormed, Bool.and_eq_true, List.all_eq_true]
      exact ⟨hname, fun d => List.mem_takeWhile_imp⟩
    · unfold numberLexeme at h
      split at h
      · cases h
      · split at h <;> cases h
      · cases h

lemma TokenStream.isName_of_mem_ofText (origin : Origin) (afterLineEnd : Bool)
    (before rest : List Char) :
    ∀ token ∈ (ofText origin afterLineEnd before rest).tokens, ∀ text, token.kind = .name text →
      isName text.toList := by
  fun_induction ofText origin afterLineEnd before rest with
  | case1 => simp
  | case2 afterLineEnd before rest c hblank ih => exact ih
  | case3 before rest hlineEnd later ih => exact ih
  | case4 afterLineEnd before rest hlineEnd later _ ih =>
    exact List.forall_mem_cons.2 ⟨by simp, ih⟩
  | case5 afterLineEnd before rest text hname ih =>
    refine List.forall_mem_cons.2 ⟨?_, ih⟩
    rintro _ ⟨⟩
    rw [String.toList_ofList]
    exact isName_of_longestLexeme hname
  | case6 afterLineEnd before rest text hnumber ih =>
    exact List.forall_mem_cons.2 ⟨by simp, ih⟩
  | case7 => simp

/-- The leaves that a target writes of a statement. -/
def Statement.operands : Statement → List Leaf
  | call _ args => args
  | declaration _ target => [.identifier target]
  | extended _ args _ => args

/-- What a target writes of a statement stands in the line that the statement comes from. -/
lemma Statement.mem_leaves_of_mem_operands {line : Line} {s : Statement}
    (h : Statement.ofLine line = .ok s) {leaf : Leaf} (hleaf : leaf ∈ s.operands) :
    leaf ∈ line.leaves := by
  rcases Statement.ofLine_cases h with
    ⟨head, args, hleaves, -, rfl⟩ | ⟨head, type, target, hleaves, -, rfl⟩ |
      ⟨head, form, args, hleaves, -, rfl⟩
  · rw [hleaves]
    exact List.mem_cons_of_mem _ hleaf
  · rw [hleaves]
    exact List.mem_cons_of_mem _ hleaf
  · rw [hleaves]
    exact List.mem_cons_of_mem _ hleaf

namespace Leaf

variable {source : String} {settings : Settings}

lemma isLexed_of_mem_tree {line : Line} (hline : line ∈ (streamOf source settings).tree)
    {leaf : Leaf} (hleaf : leaf ∈ line.leaves) : leaf.IsLexed := by
  obtain ⟨token, htoken, hleaf⟩ := exists_token_of_mem_tree hline hleaf
  have hname := TokenStream.isName_of_mem_ofText _ _ _ _ token htoken
  rw [Token.leaf?] at hleaf
  split at hleaf
  · rename_i text hkind
    cases hleaf
    exact hname text hkind
  · cases hleaf
    trivial
  all_goals cases hleaf

/-- The statements of a source hold lexed leaves. -/
lemma isLexed_of_mem_programOf {program : Program} (h : programOf source settings = .ok program)
    {s : Statement} (hs : s ∈ program) {leaf : Leaf} (hleaf : leaf ∈ s.operands) :
    leaf.IsLexed := by
  obtain ⟨line, hline, hmeaning⟩ := exists_line_of_mem_programOf h hs
  exact isLexed_of_mem_tree hline (Statement.mem_leaves_of_mem_operands hmeaning hleaf)

lemma isWordChar_of_mem_word {leaf : Leaf} (h : leaf.IsLexed) :
    ∀ c ∈ leaf.word.toList, isWordChar c := by
  intro c hc
  cases leaf with
  | identifier id =>
    have hc := isIdentifierContinue_of_mem (isIdentifier_sanitize h) c hc
    simp [isWordChar, hc]
  | number n => exact Binary64.isWordChar_of_mem_text hc

end Leaf

end Kaomoji
