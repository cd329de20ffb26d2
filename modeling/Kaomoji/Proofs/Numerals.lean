import Kaomoji.Proofs.TargetWords
import Mathlib.Algebra.Order.Ring.Nat
import Mathlib.Order.Monotone.Basic
import Mathlib.Tactic.Ring

/-!
# Numerals read back

A number is written with the shortest digits that are read as the same number.  That they are read
so is what this module proves: the plain numeral of a finite number without sign has that number for
its value (`Binary64.numeralValue_text`), and hence no two such numbers share a numeral
(`Binary64.text_inj`).

The argument goes through three layers.  Digits: laying a decimal fraction out and reading its
digits gives the fraction back, `Decimal.ofDigits_layout`.  Rounding: weights grow with patterns, so
`settles` is monotone and the binary search for the nearest pattern ends at the one pattern that
accepts a fraction while its predecessor does not, `nearestPattern_eq`.  Shortness: whichever grid
the search for the shortest fraction stops at, the point it stops at was seen to read back, and the
finest grid holds the value itself, `ofDecimal_searchGrids`.

Numbers of a source never have a sign, since rounding yields none; so all of this applies to every
finite number that a source mentions (`Leaf.isPlain_of_mem_tree`).
-/

namespace Kaomoji

/-! ## Digits -/

namespace Decimal

lemma natOfDigits_eq_ofDigitChars (row : List Char) :
    natOfDigits row = Nat.ofDigitChars 10 row 0 := rfl

lemma natOfDigits_digits (n : Nat) : natOfDigits (digits n) = n :=
  Nat.ofDigitChars_ten_toDigits

lemma natOfDigits_append (front back : List Char) :
    natOfDigits (front ++ back) = 10 ^ back.length * natOfDigits front + natOfDigits back := by
  simp only [natOfDigits_eq_ofDigitChars]
  rw [Nat.ofDigitChars_append, Nat.ofDigitChars_eq_ofDigitChars_zero]

/-- Leading zeros add nothing. -/
lemma natOfDigits_paddedDigits (width n : Nat) : natOfDigits (paddedDigits width n) = n := by
  have hzeros (k : Nat) : natOfDigits (List.replicate k '0') = 0 := by
    rw [natOfDigits_eq_ofDigitChars, Nat.ofDigitChars_replicate_zero, Nat.mul_zero]
  rw [paddedDigits, natOfDigits_append, hzeros, natOfDigits_digits]
  omega

lemma length_paddedDigits {width n : Nat} (hwidth : 0 < width) (hn : n < 10 ^ width) :
    (paddedDigits width n).length = width := by
  have hdigits : (digits n).length ≤ width :=
    (Nat.length_toDigits_le_iff (by omega) hwidth).2 hn
  rw [paddedDigits, List.length_append, List.length_replicate]
  omega

/-- There is a digit behind the point for each place. -/
lemma length_fractionDigits (d : Decimal) : d.fractionDigits.length = d.places := by
  rw [fractionDigits]
  split
  · rename_i hplaces
    exact hplaces.symm
  · rename_i hplaces
    apply length_paddedDigits (by omega)
    exact Nat.mod_lt _ (Nat.pow_pos (by omega))

lemma natOfDigits_fractionDigits (d : Decimal) :
    natOfDigits d.fractionDigits = d.coefficient % 10 ^ d.places := by
  rw [fractionDigits]
  split
  · rename_i hplaces
    rw [hplaces, Nat.pow_zero, Nat.mod_one]
    rfl
  · exact natOfDigits_paddedDigits _ _

/-- **The digits of a fraction denote the fraction.** -/
lemma ofDigits_layout (d : Decimal) : ofDigits d.wholeDigits d.fractionDigits = d := by
  have hwhole : natOfDigits d.wholeDigits = d.coefficient / 10 ^ d.places := natOfDigits_digits _
  have hcoefficient : natOfDigits (d.wholeDigits ++ d.fractionDigits) = d.coefficient := by
    rw [natOfDigits_append, hwhole, natOfDigits_fractionDigits, length_fractionDigits]
    exact Nat.div_add_mod _ _
  rw [ofDigits, hcoefficient, length_fractionDigits]

lemma isDigit_of_mem_wholeDigits {d : Decimal} {c : Char} (h : c ∈ d.wholeDigits) : c.isDigit :=
  isDigit_of_mem_digits h

/-- **The numeral of a fraction denotes the fraction**, rounded as any numeral is. -/
lemma numeralValue_positional (d : Decimal) : numeralValue d.positional = .ofDecimal d := by
  have hpoint : ∀ c ∈ d.wholeDigits, decide (c ≠ '.') = true := by
    intro c hc
    rw [decide_eq_true_eq]
    rintro rfl
    exact absurd (isDigit_of_mem_wholeDigits hc) (by decide)
  rw [numeralValue, positional]
  split
  · rename_i hplaces
    have hfraction : d.fractionDigits = [] := by rw [fractionDigits, if_pos hplaces]
    have hlayout := ofDigits_layout d
    rw [hfraction] at hlayout
    rw [List.takeWhile_eq_self_iff.2 hpoint, List.dropWhile_eq_nil_iff.2 hpoint, List.tail_nil,
      hlayout]
  · rw [List.takeWhile_append_of_pos hpoint, List.dropWhile_append_of_pos hpoint,
      List.takeWhile_cons_of_neg (by simp), List.dropWhile_cons_of_neg (by simp), List.append_nil,
      List.tail_cons, ofDigits_layout]

end Decimal

namespace Binary64

/-! ## Rounding -/

/-- Within a binade the weight grows by a unit of the binade, and the next binade begins where it
ends. -/
lemma weight_lt_weight_succ (pattern : Nat) : weight pattern < weight (pattern + 1) := by
  unfold weight
  generalize hunit : Nat.pow 2 52 = unit
  have hpos : 0 < unit := hunit ▸ Nat.pow_pos (by omega)
  have hdivision := Nat.div_add_mod pattern unit
  have hmod := Nat.mod_lt pattern hpos
  generalize hexponent : pattern / unit = exponent at hdivision
  generalize hfraction : pattern % unit = fraction at hdivision hmod
  by_cases hlast : fraction + 1 < unit
  · -- the next pattern lies in the same binade
    have hdiv : (pattern + 1) / unit = exponent := by
      rw [← hdivision, Nat.add_assoc, Nat.mul_add_div hpos, Nat.div_eq_of_lt hlast, Nat.add_zero]
    have hrest : (pattern + 1) % unit = fraction + 1 := by
      rw [← hdivision, Nat.add_assoc, Nat.mul_add_mod, Nat.mod_eq_of_lt hlast]
    simp only [hdiv, hrest]
    split
    · omega
    · apply Nat.mul_lt_mul_of_pos_right (by omega)
      exact Nat.pow_pos (by omega)
  · -- the next pattern begins a binade
    have hsucc : pattern + 1 = unit * (exponent + 1) := by
      rw [Nat.mul_add, Nat.mul_one]
      omega
    have hdiv : (pattern + 1) / unit = exponent + 1 := by
      rw [hsucc, Nat.mul_div_cancel_left _ hpos]
    have hrest : (pattern + 1) % unit = 0 := by
      rw [hsucc, Nat.mul_mod_right]
    simp only [hdiv, hrest, Nat.add_zero, Nat.add_sub_cancel, Nat.succ_ne_zero, if_false]
    split
    · rename_i hzero
      rw [hzero]
      simpa using hmod
    · rename_i hne
      obtain ⟨k, rfl⟩ := Nat.exists_eq_succ_of_ne_zero hne
      have hdouble : unit * Nat.pow 2 (k + 1) = (unit + unit) * Nat.pow 2 k := by
        simp only [Nat.pow_eq]
        ring
      rw [Nat.succ_eq_add_one, Nat.add_sub_cancel, hdouble]
      apply Nat.mul_lt_mul_of_pos_right (by omega)
      exact Nat.pow_pos (by omega)

lemma weight_strictMono : StrictMono weight := strictMono_nat_of_lt_succ weight_lt_weight_succ

lemma settles_iff {num den pattern : Nat} :
    settles num den pattern ↔
      2 * num < (weight pattern + weight (pattern + 1)) * den ∨
        2 * num = (weight pattern + weight (pattern + 1)) * den ∧ pattern % 2 = 0 := by
  simp [settles]

/-- What lies below a boundary lies below all later ones. -/
lemma settles_mono {num den pattern later : Nat} (hden : 0 < den) (hle : pattern ≤ later)
    (h : settles num den pattern) : settles num den later := by
  rcases Nat.eq_or_lt_of_le hle with rfl | hlt
  · exact h
  · have hweight := weight_strictMono hlt
    have hweight' : weight (pattern + 1) < weight (later + 1) := weight_strictMono (by omega)
    have hboundary : (weight pattern + weight (pattern + 1)) * den <
        (weight later + weight (later + 1)) * den :=
      Nat.mul_lt_mul_of_pos_right (by omega) hden
    rw [settles_iff] at h ⊢
    left
    omega

/-- Only the quotient matters for rounding. -/
lemma settles_mul_left {factor : Nat} (hfactor : 0 < factor) (num den pattern : Nat) :
    settles (factor * num) (factor * den) pattern = settles num den pattern := by
  have hnum : 2 * (factor * num) = factor * (2 * num) := by ring
  have hden : (weight pattern + weight (pattern + 1)) * (factor * den) =
      factor * ((weight pattern + weight (pattern + 1)) * den) := by ring
  rw [Bool.eq_iff_iff, settles_iff, settles_iff, hnum, hden, Nat.mul_lt_mul_left hfactor,
    Nat.mul_right_inj (by omega)]

/-- The search ends at the first number that is accepted. -/
lemma least_eq {accepts : Nat → Bool} {first : Nat} (hbelow : ∀ n < first, accepts n = false)
    (hfrom : ∀ n, first ≤ n → accepts n = true) {k low : Nat} (hlow : low ≤ first)
    (hhigh : first < low + Nat.pow 2 k) : least accepts k low = first := by
  induction k generalizing low with
  | zero =>
    rw [least]
    have hone : Nat.pow 2 0 = 1 := rfl
    omega
  | succ k ih =>
    have hpos : 0 < Nat.pow 2 k := Nat.pow_pos (by omega)
    have hdouble : Nat.pow 2 (k + 1) = Nat.pow 2 k + Nat.pow 2 k := by
      rw [← Nat.mul_two]
      rfl
    rw [least]
    by_cases hmiddle : first ≤ low + Nat.pow 2 k - 1
    · rw [if_pos (hfrom _ hmiddle)]
      apply ih hlow
      omega
    · rw [hbelow _ (not_le.1 hmiddle), if_neg Bool.false_ne_true]
      apply ih
      · omega
      · omega

lemma infinityPattern_lt : infinityPattern < Nat.pow 2 63 := by decide

/-- **A fraction is rounded to the pattern that accepts it while the one before does not.** -/
lemma nearestPattern_eq {num den pattern : Nat} (hden : 0 < den)
    (hpattern : pattern ≤ infinityPattern) (hsettles : settles num den pattern)
    (hbefore : pattern ≠ 0 → settles num den (pattern - 1) = false) :
    nearestPattern num den = pattern := by
  have hbelow : ∀ n < pattern, settles num den n = false := by
    intro n hn
    by_contra h
    rw [Bool.not_eq_false] at h
    have hmono := settles_mono hden (by omega : n ≤ pattern - 1) h
    rw [hbefore (by omega)] at hmono
    cases hmono
  have hfrom : ∀ n, pattern ≤ n → settles num den n = true := by
    intro n hn
    exact settles_mono hden hn hsettles
  have hhigh : pattern < 0 + Nat.pow 2 63 := by
    rw [Nat.zero_add]
    exact lt_of_le_of_lt hpattern infinityPattern_lt
  rw [nearestPattern, least_eq hbelow hfrom (Nat.zero_le _) hhigh, Nat.min_eq_right hpattern]

/-! ## The shortest fraction -/

/-- The point of a grid that is found reads back. -/
lemma readsBack_of_gridPoint? {pattern value step n : Nat}
    (h : gridPoint? pattern value step = some n) : readsBack pattern (n * step) := by
  unfold gridPoint? at h
  dsimp only at h
  split at h
  · rename_i hbelow
    split at h
    · rename_i habove
      cases h
      exact habove.1
    · cases h
      exact hbelow
  · split at h
    · rename_i habove
      cases h
      exact habove
    · cases h

lemma decimalUnits_pos : 0 < decimalUnits := by
  unfold decimalUnits
  generalize 1074 = fine
  exact Nat.pow_pos (by omega)

/-- A value reads back as itself. -/
lemma readsBack_weight {pattern : Nat} (hpattern : pattern ≠ 0) :
    readsBack pattern (weight pattern * decimalUnits) := by
  have hsucc := weight_lt_weight_succ pattern
  have hpred := weight_lt_weight_succ (pattern - 1)
  rw [Nat.sub_add_cancel (by omega)] at hpred
  have habove : 2 * (weight pattern * decimalUnits) <
      (weight pattern + weight (pattern + 1)) * decimalUnits := by
    rw [← Nat.mul_assoc]
    exact Nat.mul_lt_mul_of_pos_right (by omega) decimalUnits_pos
  have hbelow : (weight (pattern - 1) + weight pattern) * decimalUnits <
      2 * (weight pattern * decimalUnits) := by
    rw [← Nat.mul_assoc]
    exact Nat.mul_lt_mul_of_pos_right (by omega) decimalUnits_pos
  rw [readsBack, Bool.and_eq_true, Bool.not_eq_true', ← Bool.not_eq_true, settles_iff, settles_iff,
    Nat.sub_add_cancel (by omega)]
  constructor
  · exact Or.inl habove
  · rintro (h | ⟨h, -⟩)
    · omega
    · omega

/-- A multiple of a power of ten, counted in the finest units or written as a fraction, rounds
alike. -/
lemma settles_gridFraction (n grid pattern : Nat) :
    settles ((gridFraction n grid).coefficient * Nat.pow 2 1074)
        (Nat.pow 10 (gridFraction n grid).places) pattern =
      settles (n * Nat.pow 10 grid) decimalUnits pattern := by
  unfold gridFraction decimalUnits
  dsimp only
  simp only [Nat.pow_eq]
  generalize hfine : 1074 = fine
  -- both quotients are expanded, by the power of ten that the fraction lacks and by that of two
  have hten : 0 < 10 ^ min grid fine := Nat.pow_pos (by omega)
  have htwo : 0 < 2 ^ fine := Nat.pow_pos (by omega)
  have hgrid : 10 ^ min grid fine * 10 ^ (grid - fine) = 10 ^ grid := by
    rw [← pow_add]
    congr 1
    omega
  have hplaces : 10 ^ min grid fine * 10 ^ (fine - grid) = 2 ^ fine * 5 ^ fine := by
    rw [← pow_add, ← mul_pow]
    congr 1
    omega
  have hnum : 10 ^ min grid fine * (n * 10 ^ (grid - fine) * 2 ^ fine) =
      2 ^ fine * (n * 10 ^ grid) := by
    rw [← hgrid]
    ring
  rw [← settles_mul_left hten, hnum, hplaces, settles_mul_left htwo]

/-- A grid point that reads back as a pattern is rounded to it. -/
lemma ofDecimal_gridFraction {pattern n grid : Nat} (hpattern : pattern ≤ infinityPattern)
    (h : readsBack pattern (n * Nat.pow 10 grid)) :
    ofDecimal (gridFraction n grid) = ofPattern pattern := by
  rw [readsBack, Bool.and_eq_true, Bool.not_eq_true'] at h
  have hplaces : 0 < Nat.pow 10 (gridFraction n grid).places := Nat.pow_pos (by omega)
  rw [ofDecimal, nearestPattern_eq hplaces hpattern]
  · rw [settles_gridFraction]
    exact h.1
  · intro _
    rw [settles_gridFraction]
    exact h.2

/-- **Wherever the search for the shortest fraction stops**, it has found one that reads back. -/
lemma ofDecimal_searchGrids {pattern value : Nat} (hpattern : pattern ≤ infinityPattern)
    (hvalue : readsBack pattern value) (grid : Nat) :
    ofDecimal (searchGrids pattern value grid) = ofPattern pattern := by
  induction grid with
  | zero =>
    apply ofDecimal_gridFraction hpattern
    rw [Nat.pow_eq, Nat.pow_zero, Nat.mul_one]
    exact hvalue
  | succ grid ih =>
    rw [searchGrids]
    cases hpoint : gridPoint? pattern value (Nat.pow 10 (grid + 1)) with
    | none => exact ih
    | some n => exact ofDecimal_gridFraction hpattern (readsBack_of_gridPoint? hpoint)

/-- A number without sign is given by its pattern. -/
lemma ofPattern_pattern {x : Binary64} (h : x.isNegative = false) : ofPattern x.pattern = x := by
  have hbits : x.bits.toNat < Nat.pow 2 63 := by
    rw [isNegative, decide_eq_false_iff_not] at h
    exact not_le.1 h
  rw [ofPattern, pattern, Nat.mod_eq_of_lt hbits, UInt64.ofNat_toNat]

/-- **The shortest fraction of a finite number is read as the number.** -/
theorem ofDecimal_shortest {x : Binary64} (hfinite : x.isFinite) (hsign : x.isNegative = false) :
    ofDecimal x.shortest = x := by
  have hpattern : x.pattern ≤ infinityPattern := by
    rw [isFinite, decide_eq_true_eq] at hfinite
    exact hfinite.le
  rw [shortest]
  split
  · rename_i hzero
    have hround : ofDecimal ⟨0, 0⟩ = ofPattern 0 := by decide +kernel
    rw [hround, ← hzero, ofPattern_pattern hsign]
  · rename_i hne
    rw [ofDecimal_searchGrids hpattern (readsBack_weight hne), ofPattern_pattern hsign]

/-! ## The text of a number -/

/-- A finite number without sign is written as its shortest fraction. -/
lemma toList_text {x : Binary64} (hfinite : x.isFinite) (hsign : x.isNegative = false) :
    x.text.toList = x.shortest.positional := by
  have hnan : x.isNaN = false := by
    rw [isFinite, decide_eq_true_eq] at hfinite
    rw [isNaN, decide_eq_false_iff_not]
    omega
  rw [text, numeral, hnan, hfinite, hsign]
  simp

/-- **The numeral of a finite number has the number for its value.** -/
theorem numeralValue_text {x : Binary64} (hfinite : x.isFinite) (hsign : x.isNegative = false) :
    numeralValue x.text.toList = x := by
  rw [toList_text hfinite hsign, Decimal.numeralValue_positional, ofDecimal_shortest hfinite hsign]

/-- Different numbers have different numerals. -/
lemma text_inj {x y : Binary64} (hx : x.isFinite) (hx' : x.isNegative = false) (hy : y.isFinite)
    (hy' : y.isNegative = false) (h : x.text = y.text) : x = y := by
  rw [← numeralValue_text hx hx', h, numeralValue_text hy hy']

/-! ## Numbers of a source -/

/-- Rounding yields no sign. -/
lemma isNegative_ofDecimal (d : Decimal) : (ofDecimal d).isNegative = false := by
  have hpattern : nearestPattern (d.coefficient * Nat.pow 2 1074) (Nat.pow 10 d.places) ≤
      infinityPattern := Nat.min_le_left _ _
  rw [ofDecimal, ofPattern, isNegative, decide_eq_false_iff_not, not_le, UInt64.toNat_ofNat']
  apply lt_of_le_of_lt (Nat.mod_le _ _)
  exact lt_of_le_of_lt hpattern infinityPattern_lt

end Binary64

/-- The numbers of a text are rounded decimal fractions. -/
lemma TokenStream.exists_ofDecimal_of_mem_ofText (origin : Origin) (afterLineEnd : Bool)
    (before rest : List Char) :
    ∀ token ∈ (ofText origin afterLineEnd before rest).tokens, ∀ value,
      token.kind = .number value → ∃ d, value = .ofDecimal d := by
  fun_induction ofText origin afterLineEnd before rest with
  | case1 => simp
  | case2 afterLineEnd before rest c hblank ih => exact ih
  | case3 before rest hlineEnd later ih => exact ih
  | case4 afterLineEnd before rest hlineEnd later _ ih =>
    exact List.forall_mem_cons.2 ⟨by simp, ih⟩
  | case5 afterLineEnd before rest text hname ih =>
    exact List.forall_mem_cons.2 ⟨by simp, ih⟩
  | case6 afterLineEnd before rest text hnumber ih =>
    refine List.forall_mem_cons.2 ⟨?_, ih⟩
    intro value hvalue
    rw [← TokenKind.number.inj hvalue]
    exact ⟨_, rfl⟩
  | case7 => simp

lemma Leaf.exists_ofDecimal_of_mem_tree {source : String} {settings : Settings} {line : Line}
    (hline : line ∈ (streamOf source settings).tree) {n : NumberLiteral}
    (hn : .number n ∈ line.leaves) : ∃ d, n.value = .ofDecimal d := by
  obtain ⟨token, htoken, hleaf⟩ := exists_token_of_mem_tree hline hn
  exact TokenStream.exists_ofDecimal_of_mem_ofText _ _ _ _ token htoken _
    (Token.kind_of_leaf?_eq_number hleaf).1

namespace Leaf

/-- Whether a leaf is a name or a finite number. -/
def isFinite : Leaf → Bool
  | .identifier _ => true
  | .number n => n.value.isFinite

/-- **A leaf whose text tells what it is**: a name that the lexer cuts out, or a finite number
without sign. -/
def IsPlain : Leaf → Prop
  | .identifier id => isName id.name.toList
  | .number n => n.value.isFinite ∧ n.value.isNegative = false

lemma IsPlain.isLexed {leaf : Leaf} (h : leaf.IsPlain) : leaf.IsLexed := by
  cases leaf with
  | identifier id => exact h
  | number n => trivial

end Leaf

/-- All numbers of the lines are finite. -/
def Tree.IsFinite (tree : Tree) : Prop := ∀ line ∈ tree, ∀ leaf ∈ line.leaves, leaf.isFinite

instance (tree : Tree) : Decidable (Tree.IsFinite tree) :=
  inferInstanceAs (Decidable (∀ line ∈ tree, ∀ leaf ∈ line.leaves, leaf.isFinite))

/-- **The leaves of a source with finite numbers are plain.** -/
lemma Leaf.isPlain_of_mem_tree {source : String} {settings : Settings} {tree : Tree}
    (h : treeOf source settings = .ok tree) (hfinite : Tree.IsFinite tree) {line : Line}
    (hline : line ∈ tree) {leaf : Leaf} (hleaf : leaf ∈ line.leaves) : leaf.IsPlain := by
  have hleafFinite := hfinite line hline leaf hleaf
  rw [TokenStream.eq_tree_of_reading (treeOf_eq_ok_iff.1 h)] at hline
  cases leaf with
  | identifier id => exact isLexed_of_mem_tree hline hleaf
  | number n =>
    obtain ⟨d, hd⟩ := exists_ofDecimal_of_mem_tree hline hleaf
    refine ⟨hleafFinite, ?_⟩
    rw [hd]
    exact Binary64.isNegative_ofDecimal d

end Kaomoji
