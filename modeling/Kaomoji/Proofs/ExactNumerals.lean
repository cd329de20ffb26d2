import Kaomoji.Proofs.NumberSpelling
import Kaomoji.Proofs.Seams

/-!
# Exact numerals

A literal is rounded when it is read, and a number is written as the shortest fraction that is
rounded to it.  Up to `2⁵³` neither step does anything to a whole number.  That it is read exactly
is `weight_nearestPattern`.  That it is written exactly takes more than reading back, for a fraction
that reads back may still be another one: `2⁵³ + 1` lies halfway between two values and is rounded
to `2⁵³`, so it reads back as `2⁵³` just as well.  It is the only exception
(`eq_or_eq_of_nearestPattern_eq`), and the search passes it by: on the grid of the whole numbers it
finds the value itself, and on the coarser grids, where the value may be none of the points, it only
looks at multiples of ten.

So a literal of digits and separators that stands for at most `2⁵³` keeps its value all the way, and
it is written as the numeral of that value, whatever zeros and separators were in it
(`isExactly_of_le`).
-/

namespace Kaomoji

namespace Binary64

/-! ## Reading -/

variable {n : Nat}

lemma nearestPattern_le {k : Nat} (hk : (k + 2) * 2 ^ 52 ≤ infinityPattern) (hn : n ≤ 2 ^ 53) :
    nearestPattern (n * 2 ^ k) 1 ≤ (k + 2) * 2 ^ 52 := by
  obtain ⟨pattern, hle, hpattern⟩ := exists_weight_of_le hn k
  rw [← hpattern, nearestPattern_weight (hle.trans hk)]
  exact hle

lemma weight_pattern_whole (hn : n ≤ 2 ^ 53) :
    weight (ofDecimal ⟨n, 0⟩).pattern = n * Nat.pow 2 1074 := by
  have hfine : (1074 + 2) * 2 ^ 52 ≤ infinityPattern := by decide
  rw [pattern_ofDecimal]
  dsimp only
  generalize 1074 = fine at hfine ⊢
  exact weight_nearestPattern hfine hn

lemma isFinite_whole (hn : n ≤ 2 ^ 53) : (ofDecimal ⟨n, 0⟩).isFinite := by
  have hfine : (1074 + 2) * 2 ^ 52 < infinityPattern := by decide
  rw [isFinite, decide_eq_true_eq, pattern_ofDecimal]
  dsimp only
  generalize 1074 = fine at hfine ⊢
  exact lt_of_le_of_lt (nearestPattern_le hfine.le hn) hfine

lemma magnitude_whole (hn : n ≤ 2 ^ 53) : (ofDecimal ⟨n, 0⟩).magnitude = n := by
  rw [magnitude, weight_pattern_whole hn]
  generalize 1074 = fine
  rw [Nat.pow_eq, Nat.cast_mul, Nat.cast_pow, Nat.cast_ofNat]
  exact mul_div_cancel_right₀ _ (pow_ne_zero _ two_ne_zero)

lemma isIntegral_whole (hn : n ≤ 2 ^ 53) : (ofDecimal ⟨n, 0⟩).isIntegral := by
  rw [isIntegral_iff]
  exact ⟨isFinite_whole hn, n, magnitude_whole hn⟩

/-! ## Writing -/

/-- **What is rounded alike is the same**, up to `2⁵³`, but for the number that comes next. -/
lemma eq_or_eq_of_nearestPattern_eq {k m : Nat} (hk : (k + 3) * 2 ^ 52 ≤ infinityPattern)
    (hn : n ≤ 2 ^ 53) (h : nearestPattern (m * 2 ^ k) 1 = nearestPattern (n * 2 ^ k) 1) :
    m = n ∨ m = 2 ^ 53 + 1 := by
  have hunit : 0 < 2 ^ k := Nat.pow_pos Nat.two_pos
  have hk' : (k + 2) * 2 ^ 52 ≤ infinityPattern :=
    (Nat.mul_le_mul_right _ (by omega)).trans hk
  have hvalue := weight_nearestPattern hk' hn
  by_cases hm : m ≤ 2 ^ 53
  · left
    have hvalue' := weight_nearestPattern hk' hm
    rw [h, hvalue] at hvalue'
    exact (Nat.mul_right_cancel hunit hvalue').symm
  · right
    by_contra hne
    -- the next value but one is not above `m`, so `m` is not rounded to less
    obtain ⟨pattern, hle, hpattern⟩ :=
      exists_weight_of_le (show 2 ^ 52 + 1 ≤ 2 ^ 53 by decide) (k + 1)
    have hnext : (2 ^ 52 + 1) * 2 ^ (k + 1) = (2 ^ 53 + 2) * 2 ^ k := by ring
    rw [hnext] at hpattern
    have hbelow : weight pattern ≤ m * 2 ^ k := by
      rw [hpattern]
      exact Nat.mul_le_mul_right _ (by omega)
    have hround := weight_strictMono.monotone (le_nearestPattern (hle.trans hk) hbelow)
    rw [h, hvalue, hpattern] at hround
    have hlarge := Nat.le_of_mul_le_mul_right hround hunit
    omega

/-- The shortest fraction is found among the whole numbers, where it is the value, or among the
multiples of ten. -/
lemma exists_shortest_whole_eq (hn : n ≤ 2 ^ 53) :
    ∃ m, (ofDecimal ⟨n, 0⟩).shortest = ⟨m, 0⟩ ∧ (m = n ∨ 10 ∣ m) := by
  have hweight := weight_pattern_whole hn
  by_cases hpattern : (ofDecimal ⟨n, 0⟩).pattern = 0
  · exact ⟨0, by rw [shortest, if_pos hpattern], Or.inr (Nat.dvd_zero 10)⟩
  · have hvalue := congrArg (· * decimalUnits) hweight
    rw [mul_decimalUnits] at hvalue
    obtain ⟨m, hit, hhit, hown, hsearch⟩ :=
      exists_searchGrids_of_eq_mul hpattern (by omega) hvalue
    rw [shortest_of_ne_zero hpattern, hsearch, gridFraction, Nat.sub_eq_zero_of_le hhit]
    refine ⟨_, rfl, ?_⟩
    rcases hhit.eq_or_lt with heq | hlt
    · left
      rw [hown heq.symm, ← heq, Nat.sub_self]
      exact Nat.mul_one n
    · right
      obtain ⟨coarser, rfl⟩ := Nat.exists_eq_add_of_lt hlt
      rw [Nat.add_assoc, Nat.add_sub_cancel_left]
      exact Nat.dvd_mul_left_of_dvd (Dvd.intro_left (Nat.pow 10 coarser) rfl) m

/-- **A whole number up to `2⁵³` is its own shortest fraction.** -/
lemma shortest_whole (hn : n ≤ 2 ^ 53) : (ofDecimal ⟨n, 0⟩).shortest = ⟨n, 0⟩ := by
  obtain ⟨m, hshortest, hm⟩ := exists_shortest_whole_eq hn
  have hfine : (1074 + 3) * 2 ^ 52 ≤ infinityPattern := by decide
  have hreads := ofDecimal_shortest (isFinite_whole hn) (isNegative_ofDecimal _)
  rw [hshortest] at hreads
  have hround := congrArg pattern hreads
  rw [pattern_ofDecimal, pattern_ofDecimal] at hround
  dsimp only at hround
  generalize 1074 = fine at hfine hround
  obtain rfl | hnext := eq_or_eq_of_nearestPattern_eq hfine hn hround
  · exact hshortest
  · obtain rfl | hten := hm
    · exact hshortest
    · rw [hnext] at hten
      exact absurd hten (by decide)

lemma text_whole (hn : n ≤ 2 ^ 53) : (ofDecimal ⟨n, 0⟩).text = toString n := by
  have htext := toList_text (isFinite_whole hn) (isNegative_ofDecimal ⟨n, 0⟩)
  rw [← String.toList_inj, htext, shortest_whole hn, Nat.toString_eq_repr, Nat.toList_repr,
    Decimal.positional, if_pos rfl, Decimal.wholeDigits, Decimal.digits]
  exact congrArg (Nat.toDigits 10) (Nat.div_one n)

/-- **The number is the natural number, and shown and written as such.** -/
structure IsExactly (x : Binary64) (n : Nat) : Prop where
  isFinite : x.isFinite
  isNegative : x.isNegative = false
  magnitude : x.magnitude = n
  isIntegral : ∀ position, (NumberLiteral.mk x position).isIntegral
  text : ∀ position, (NumberLiteral.mk x position).text = toString n
  word : ∀ position, (Leaf.number ⟨x, position⟩).word = toString n

lemma isExactly_ofDecimal (hn : n ≤ 2 ^ 53) : (ofDecimal ⟨n, 0⟩).IsExactly n where
  isFinite := isFinite_whole hn
  isNegative := isNegative_ofDecimal _
  magnitude := magnitude_whole hn
  isIntegral position := by
    rw [NumberLiteral.isIntegral]
    exact isIntegral_whole hn
  text position := by
    rw [NumberLiteral.text]
    exact text_whole hn
  word position := by
    rw [Leaf.word, NumberLiteral.text]
    exact text_whole hn

end Binary64

/-! ## Literals -/

/-- A literal without point: digits and separators, of which a digit comes first. -/
def isWholeLiteral : List Char → Bool := Text.isFormed Char.isDigit isDigitOrSeparator

lemma exists_of_isWholeLiteral {word : List Char} (h : isWholeLiteral word) :
    ∃ c row, word = c :: row ∧ c.isDigit ∧ ∀ d ∈ row, isDigitOrSeparator d := by
  rcases word with _ | ⟨c, row⟩
  · cases h
  · rw [isWholeLiteral, Text.isFormed, Bool.and_eq_true, List.all_eq_true] at h
    exact ⟨c, row, rfl, h.1, h.2⟩

/-- The value of a literal without point is the natural number that its digits denote, rounded. -/
lemma numeralValue_of_isWholeLiteral {word : List Char} (h : isWholeLiteral word) :
    numeralValue (withoutSeparators word) =
      .ofDecimal ⟨Nat.ofDigitChars 10 (withoutSeparators word) 0, 0⟩ := by
  obtain ⟨c, row, rfl, hc, hrow⟩ := exists_of_isWholeLiteral h
  rw [numeralValue_whole (isDigitOrSeparator_of_mem_cons hc hrow), Decimal.ofDigits,
    Decimal.natOfDigits_eq_ofDigitChars, List.append_nil, List.length_nil]

/-- The number of a leaf is the value of the numeral at its place. -/
lemma Leaf.exists_numeral_of_mem_tree {source : String} {settings : Settings} {line : Line}
    (hline : line ∈ (streamOf source settings).tree) {num : NumberLiteral}
    (hnum : .number num ∈ line.leaves) :
    ∃ word, longestLexeme (source.toList.drop num.position.index) = .number word ∧
      num.value = numeralValue (withoutSeparators word) := by
  obtain ⟨token, htoken, hleaf⟩ := exists_token_of_mem_tree hline hnum
  obtain ⟨hkind, hposition⟩ := Token.kind_of_leaf?_eq_number hleaf
  obtain ⟨earlier, later, hsplit⟩ := List.append_of_mem htoken
  obtain ⟨start, lexeme, back, atLineEnd, hsource, hlexeme, -, hmade, -, -⟩ :=
    TokenStream.exists_cut_at_token hsplit
  have htag : token.tag = .number := by
    rw [Token.tag, hkind]
    rfl
  obtain ⟨word, rfl, rfl⟩ := Lexeme.eq_number_of_token? hmade htag
  refine ⟨word, ?_, (TokenKind.number.inj hkind).symm⟩
  rw [hsource, ← hposition, List.nil_append, Position.behind_index, List.drop_left]
  exact hlexeme

/-- Where a literal without point ends, a token is made of it. -/
lemma Scanner.nextToken_whole {s : Scanner} (hs : s.Coherent) {word back : List Char}
    (h : isWholeLiteral word) (hremaining : s.remaining = word ++ back)
    (hback : Text.Stops isDigitOrSeparator back) (hpoint : Text.Stops (· = '.') back) :
    s.nextToken.1 =
      .ok ⟨.number (numeralValue (withoutSeparators word)), s.position, word.length, s.origin⟩ := by
  obtain ⟨c, row, rfl, hc, hrow⟩ := exists_of_isWholeLiteral h
  have hlexeme := longestLexeme_eq_number_iff.2 (.whole hc hrow hback hpoint)
  rw [nextToken_eq hs, hremaining, hlexeme, respond, make, (peeked_frame _).1]
  rfl

/-- **Whole numbers survive up to `2⁵³`.**  A literal without point that denotes such a number, with
whatever zeros and separators, has exactly this number for its value: wherever the literal is read,
and wherever it has come to be an operand of a statement.  So it is shown as the numeral of the
number, and is written so for either target. -/
theorem isExactly_of_le {literal : String} {n : Nat} (hliteral : isWholeLiteral literal.toList)
    (hdigits : Nat.ofDigitChars 10 (withoutSeparators literal.toList) 0 = n) (hn : n ≤ 2 ^ 53) :
    ∃ x : Binary64, x.IsExactly n ∧
      (∀ (s : Scanner) (back : List Char), s.Coherent → s.remaining = literal.toList ++ back →
        Text.Stops isDigitOrSeparator back → Text.Stops (· = '.') back →
        s.nextToken.1 = .ok ⟨.number x, s.position, literal.length, s.origin⟩) ∧
      ∀ source settings program, programOf source settings = .ok program →
        WritesWords source settings program ∧
        ∀ s ∈ program, ∀ num, .number num ∈ s.operands →
          longestLexeme (source.toList.drop num.position.index) = .number literal.toList →
          num.value = x ∧ (Leaf.number num).word = toString n := by
  have hvalue := numeralValue_of_isWholeLiteral hliteral
  rw [hdigits] at hvalue
  refine ⟨.ofDecimal ⟨n, 0⟩, Binary64.isExactly_ofDecimal hn, ?_, ?_⟩
  · intro s back hs hremaining hback hpoint
    rw [← hvalue, ← String.length_toList]
    exact Scanner.nextToken_whole hs hliteral hremaining hback hpoint
  · intro source settings program hprogram
    refine ⟨writesWords_of_programOf hprogram, ?_⟩
    intro s hs num hnum hplace
    obtain ⟨line, hline, hmeaning⟩ := exists_line_of_mem_programOf hprogram hs
    obtain ⟨word, hword, hnumber⟩ := Leaf.exists_numeral_of_mem_tree hline
      (Statement.mem_leaves_of_mem_operands hmeaning hnum)
    obtain rfl := Lexeme.number.inj (hword.symm.trans hplace)
    rw [hvalue] at hnumber
    refine ⟨hnumber, ?_⟩
    rw [Leaf.word, NumberLiteral.text, hnumber]
    exact Binary64.text_whole hn

/-- The largest of these numbers, with zeros and separators that are dropped. -/
theorem isExactly_of_le_largest :
    isWholeLiteral "0_09007199254740992_".toList ∧
      Nat.ofDigitChars 10 (withoutSeparators "0_09007199254740992_".toList) 0 = 2 ^ 53 ∧
      (∃ x : Binary64, x.IsExactly (2 ^ 53) ∧
        (Scanner.ofText ("0_09007199254740992_".toList ++ [' ']) .inMemory).nextToken.1 =
          .ok ⟨.number x, .start, 20, .inMemory⟩) ∧
      compile "UwU 0_09007199254740992_\n" ⟨.inMemory, .python⟩ =
        .ok "print(9007199254740992)\n" := by
  have hliteral : isWholeLiteral "0_09007199254740992_".toList := by decide
  have hdigits : Nat.ofDigitChars 10 (withoutSeparators "0_09007199254740992_".toList) 0 =
      2 ^ 53 := by decide
  obtain ⟨x, hx, htoken, -⟩ := isExactly_of_le hliteral hdigits le_rfl
  refine ⟨hliteral, hdigits, ⟨x, hx, ?_⟩, by decide +kernel⟩
  have hblank : ∀ c ∈ [' '].head?, Text.isSeparator c := by
    rintro c ⟨⟩
    decide
  exact htoken _ [' '] (Scanner.coherent_ofText _ _) rfl
    (.of_separators (fun _ => isDigitOrSeparator_of_isSeparator) hblank) (by simp [Text.Stops])

end Kaomoji
