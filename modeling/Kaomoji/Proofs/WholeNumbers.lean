import Kaomoji.Proofs.Numerals
import Mathlib.Algebra.Order.Ring.Nat
import Mathlib.Tactic.Ring

/-!
# Whole numbers

A finite number is written without a fraction exactly if it is whole
(`Binary64.places_shortest_iff`).  One half is about rounding.  What has no fraction denotes a whole
number, and a whole number is rounded to a whole number: below `2⁵³` it is a value of its own
(`exists_weight`), and from `2⁵²` on there are no values but whole ones (`dvd_weight`).  The other
half is about the search for the shortest fraction.  The grid of the whole numbers holds a whole
value itself, so the search does not get past it (`exists_searchGrids_eq`).

From this come the spellings of the numbers of a source, `Binary64.spelledAs_text_ofDecimal`.
-/

namespace Kaomoji.Binary64

/-! ## Values -/

lemma weight_of_lt {pattern : Nat} (h : pattern < 2 ^ 52) : weight pattern = pattern := by
  rw [weight, Nat.pow_eq]
  simp only [Nat.div_eq_of_lt h, Nat.mod_eq_of_lt h, if_true]

lemma weight_binade (exponent : Nat) {fraction : Nat} (h : fraction < 2 ^ 52) :
    weight ((exponent + 1) * 2 ^ 52 + fraction) = (2 ^ 52 + fraction) * 2 ^ exponent := by
  have hpos : 0 < 2 ^ 52 := Nat.pow_pos (by omega)
  have hdiv : ((exponent + 1) * 2 ^ 52 + fraction) / 2 ^ 52 = exponent + 1 := by
    rw [Nat.mul_comm, Nat.mul_add_div hpos, Nat.div_eq_of_lt h, Nat.add_zero]
  have hmod : ((exponent + 1) * 2 ^ 52 + fraction) % 2 ^ 52 = fraction := by
    rw [Nat.mul_comm, Nat.mul_add_mod, Nat.mod_eq_of_lt h]
  rw [weight]
  simp only [Nat.pow_eq, hdiv, hmod, Nat.succ_ne_zero, if_false, Nat.add_sub_cancel]

lemma weight_binade_start (exponent : Nat) :
    weight ((exponent + 1) * 2 ^ 52) = 2 ^ 52 * 2 ^ exponent := by
  have hstart := weight_binade exponent (Nat.pow_pos Nat.two_pos)
  rwa [Nat.add_zero, Nat.add_zero] at hstart

/-- A pattern with a leading one is given by its exponent and its fraction. -/
lemma exists_binade {pattern : Nat} (h : 2 ^ 52 ≤ pattern) :
    ∃ exponent fraction, fraction < 2 ^ 52 ∧ pattern = (exponent + 1) * 2 ^ 52 + fraction := by
  have hdivision := Nat.div_add_mod pattern (2 ^ 52)
  have hfraction := Nat.mod_lt pattern (show 2 ^ 52 > 0 by omega)
  have hexponent : 1 ≤ pattern / 2 ^ 52 := (Nat.one_le_div_iff (by omega)).2 h
  refine ⟨pattern / 2 ^ 52 - 1, pattern % 2 ^ 52, hfraction, ?_⟩
  rw [Nat.sub_add_cancel hexponent, Nat.mul_comm, hdivision]

/-- Far enough up, all values are multiples of a power of two. -/
lemma dvd_weight {k pattern : Nat} (h : (k + 1) * 2 ^ 52 ≤ pattern) : 2 ^ k ∣ weight pattern := by
  obtain ⟨exponent, fraction, hfraction, rfl⟩ := exists_binade (show 2 ^ 52 ≤ pattern by omega)
  rw [weight_binade exponent hfraction]
  apply Nat.dvd_mul_left_of_dvd
  exact Nat.pow_dvd_pow 2 (by omega)

/-- With a value there is also its double. -/
lemma exists_weight_double (pattern : Nat) : ∃ double, weight double = 2 * weight pattern := by
  by_cases h : pattern < 2 ^ 52
  · rw [weight_of_lt h]
    by_cases hdouble : 2 * pattern < 2 ^ 52
    · exact ⟨2 * pattern, weight_of_lt hdouble⟩
    · refine ⟨(0 + 1) * 2 ^ 52 + (2 * pattern - 2 ^ 52), ?_⟩
      rw [weight_binade 0 (by omega)]
      omega
  · obtain ⟨exponent, fraction, hfraction, rfl⟩ := exists_binade (not_lt.1 h)
    refine ⟨(exponent + 1 + 1) * 2 ^ 52 + fraction, ?_⟩
    rw [weight_binade _ hfraction, weight_binade _ hfraction]
    ring

/-- **Whatever fits into the significand is a value**, times any power of two. -/
lemma exists_weight {m : Nat} (h : m < 2 ^ 53) (k : Nat) :
    ∃ pattern, weight pattern = m * 2 ^ k := by
  induction k with
  | zero =>
    rw [Nat.pow_zero, Nat.mul_one]
    by_cases hm : m < 2 ^ 52
    · exact ⟨m, weight_of_lt hm⟩
    · refine ⟨(0 + 1) * 2 ^ 52 + (m - 2 ^ 52), ?_⟩
      rw [weight_binade 0 (by omega)]
      omega
  | succ k ih =>
    obtain ⟨pattern, hpattern⟩ := ih
    obtain ⟨double, hdouble⟩ := exists_weight_double pattern
    refine ⟨double, ?_⟩
    rw [hdouble, hpattern]
    ring

/-- Up to `2⁵³` units, a number of units is a value. -/
lemma exists_weight_of_le {n : Nat} (h : n ≤ 2 ^ 53) (k : Nat) :
    ∃ pattern ≤ (k + 2) * 2 ^ 52, weight pattern = n * 2 ^ k := by
  have hbound : weight ((k + 1 + 1) * 2 ^ 52) = 2 ^ 53 * 2 ^ k := by
    rw [weight_binade_start]
    ring
  rcases h.lt_or_eq with hlt | rfl
  · obtain ⟨pattern, hpattern⟩ := exists_weight hlt k
    refine ⟨pattern, weight_strictMono.le_iff_le.1 ?_, hpattern⟩
    rw [hpattern, hbound]
    exact Nat.mul_le_mul_right _ h
  · exact ⟨_, le_rfl, hbound⟩

/-! ## Rounding of whole numbers -/

/-- A value is rounded to itself. -/
lemma nearestPattern_weight {pattern : Nat} (h : pattern ≤ infinityPattern) :
    nearestPattern (weight pattern) 1 = pattern := by
  have hsucc := weight_lt_weight_succ pattern
  apply nearestPattern_eq Nat.one_pos h
  · rw [settles_iff]
    omega
  · intro hne
    have hpred := weight_lt_weight_succ (pattern - 1)
    rw [Nat.sub_add_cancel (by omega)] at hpred
    rw [← Bool.not_eq_true, settles_iff, Nat.sub_add_cancel (by omega)]
    omega

lemma le_least {accepts : Nat → Bool} {first : Nat} (hbelow : ∀ n < first, accepts n = false)
    {k low : Nat} (hhigh : first < low + Nat.pow 2 k) : first ≤ least accepts k low := by
  induction k generalizing low with
  | zero =>
    have hone : Nat.pow 2 0 = 1 := rfl
    rw [least]
    omega
  | succ k ih =>
    have hdouble : Nat.pow 2 (k + 1) = Nat.pow 2 k + Nat.pow 2 k := by
      rw [← Nat.mul_two]
      rfl
    rw [least]
    split
    · rename_i haccepts
      apply ih
      by_contra hle
      rw [hbelow _ (by omega)] at haccepts
      cases haccepts
    · exact ih (by omega)

/-- What is no less than a value is rounded to no less. -/
lemma le_nearestPattern {num pattern : Nat} (hpattern : pattern ≤ infinityPattern)
    (h : weight pattern ≤ num) : pattern ≤ nearestPattern num 1 := by
  have hbelow : ∀ n < pattern, settles num 1 n = false := by
    intro n hn
    have hlt := weight_strictMono hn
    have hle : weight (n + 1) ≤ weight pattern := weight_strictMono.monotone hn
    rw [← Bool.not_eq_true, settles_iff]
    omega
  have hhigh : pattern < 0 + Nat.pow 2 63 := by
    rw [Nat.zero_add]
    exact lt_of_le_of_lt hpattern infinityPattern_lt
  exact Nat.le_min.2 ⟨hpattern, le_least hbelow hhigh⟩

/-- **A whole number up to `2⁵³` is not rounded**, whatever the unit. -/
lemma weight_nearestPattern {k n : Nat} (hk : (k + 2) * 2 ^ 52 ≤ infinityPattern)
    (hn : n ≤ 2 ^ 53) : weight (nearestPattern (n * 2 ^ k) 1) = n * 2 ^ k := by
  obtain ⟨pattern, hle, hpattern⟩ := exists_weight_of_le hn k
  rw [← hpattern, nearestPattern_weight (hle.trans hk)]

/-- **A whole number is rounded to a whole number**, whatever the unit. -/
lemma dvd_weight_nearestPattern {k : Nat} (hk : (k + 2) * 2 ^ 52 ≤ infinityPattern) (n : Nat) :
    2 ^ k ∣ weight (nearestPattern (n * 2 ^ k) 1) := by
  by_cases hn : n ≤ 2 ^ 53
  · rw [weight_nearestPattern hk hn]
    exact Nat.dvd_mul_left _ _
  · apply dvd_weight
    apply le_nearestPattern
    · exact (Nat.mul_le_mul_right _ (by omega)).trans hk
    · rw [weight_binade_start]
      exact Nat.mul_le_mul_right _ (by omega)

lemma pattern_ofPattern {pattern : Nat} (h : pattern ≤ infinityPattern) :
    (ofPattern pattern).pattern = pattern := by
  have hlt : pattern < 2 ^ 63 := lt_of_le_of_lt h infinityPattern_lt
  rw [Binary64.pattern, ofPattern, UInt64.toNat_ofNat', Nat.pow_eq,
    Nat.mod_eq_of_lt (show pattern < 2 ^ 64 by omega), Nat.mod_eq_of_lt hlt]

/-! ## The shortest fraction of a whole number -/

/-- **The search gets past no grid on which it finds a point.** -/
lemma exists_searchGrids_eq {pattern value grid start m : Nat} (hgrid : 0 < grid)
    (h : gridPoint? pattern value (Nat.pow 10 grid) = some m) (hstart : grid ≤ start) :
    ∃ n hit, grid ≤ hit ∧ (hit = grid → n = m) ∧
      searchGrids pattern value start = gridFraction n hit := by
  induction start, hstart using Nat.le_induction with
  | base =>
    obtain ⟨k, rfl⟩ := Nat.exists_eq_add_of_lt hgrid
    rw [Nat.zero_add] at h ⊢
    refine ⟨m, k + 1, le_rfl, fun _ => rfl, ?_⟩
    rw [searchGrids, h]
    rfl
  | succ start hle ih =>
    rw [searchGrids]
    rcases gridPoint? pattern value (Nat.pow 10 (start + 1)) with _ | n
    · exact ih
    · exact ⟨n, start + 1, by omega, by omega, rfl⟩

/-- On a grid with the value among its points, the value is found. -/
lemma gridPoint?_eq_some {pattern m step : Nat} (hpattern : pattern ≠ 0) (hstep : 0 < step)
    (h : weight pattern * decimalUnits = m * step) :
    gridPoint? pattern (weight pattern * decimalUnits) step = some m := by
  have hreads := readsBack_weight hpattern
  have habove : ¬ (m + 1) * step - m * step ≤ m * step - m * step := by
    rw [Nat.succ_mul]
    omega
  rw [h] at hreads
  rw [gridPoint?, h, Nat.mul_div_cancel _ hstep, if_pos hreads, if_neg fun hnear => habove hnear.2]

variable {x : Binary64}

lemma pattern_ofDecimal (d : Decimal) :
    (ofDecimal d).pattern =
      nearestPattern (d.coefficient * Nat.pow 2 1074) (Nat.pow 10 d.places) :=
  pattern_ofPattern (Nat.min_le_left _ _)

/-- Without places, the shortest fraction stands for a whole number. -/
lemma isIntegral_of_places (hfinite : x.isFinite) (hsign : x.isNegative = false)
    (hplaces : x.shortest.places = 0) : x.isIntegral := by
  have hround := pattern_ofDecimal x.shortest
  rw [ofDecimal_shortest hfinite hsign, hplaces] at hround
  have hfine : (1074 + 2) * 2 ^ 52 ≤ infinityPattern := by decide
  rw [isIntegral, hfinite, Bool.true_and, beq_iff_eq, hround]
  generalize 1074 = fine at hfine ⊢
  exact Nat.mod_eq_zero_of_dvd (dvd_weight_nearestPattern hfine _)

/-- The whole numbers are the points of a grid. -/
lemma mul_decimalUnits (m : Nat) : m * Nat.pow 2 1074 * decimalUnits = m * Nat.pow 10 1074 := by
  unfold decimalUnits
  generalize 1074 = fine
  rw [Nat.pow_eq, Nat.pow_eq, Nat.pow_eq, Nat.mul_assoc, ← Nat.mul_pow]

lemma exists_mul_decimalUnits_eq (h : x.isIntegral) :
    ∃ m, weight x.pattern * decimalUnits = m * Nat.pow 10 1074 := by
  rw [isIntegral, Bool.and_eq_true, beq_iff_eq] at h
  obtain ⟨m, hm⟩ := Nat.dvd_of_mod_eq_zero h.2
  refine ⟨m, ?_⟩
  rw [← mul_decimalUnits, hm, Nat.mul_comm m]

lemma le_length_digits {m k : Nat} (hm : m ≠ 0) (hk : 0 < k) :
    k ≤ (Decimal.digits (m * Nat.pow 10 k)).length := by
  by_contra hlt
  have hsmall : m * Nat.pow 10 k < 10 ^ k :=
    (Nat.length_toDigits_le_iff (by omega) hk).1 (not_le.1 hlt).le
  have hlarge : 10 ^ k ≤ m * Nat.pow 10 k := Nat.le_mul_of_pos_left _ (Nat.pos_of_ne_zero hm)
  omega

/-- A value among the points of a grid is found on this grid or on a coarser one. -/
lemma exists_searchGrids_of_eq_mul {pattern m grid : Nat} (hpattern : pattern ≠ 0)
    (hgrid : 0 < grid) (h : weight pattern * decimalUnits = m * Nat.pow 10 grid) :
    ∃ n hit, grid ≤ hit ∧ (hit = grid → n = m) ∧
      searchGrids pattern (weight pattern * decimalUnits)
        (Decimal.digits (weight pattern * decimalUnits)).length = gridFraction n hit := by
  have hm : m ≠ 0 := by
    rintro rfl
    have hweight : weight 0 < weight pattern := weight_strictMono (by omega)
    have hvalue := Nat.mul_pos (show 0 < weight pattern by omega) decimalUnits_pos
    omega
  have hpoint := gridPoint?_eq_some hpattern (Nat.pow_pos (by omega)) h
  have hstart := le_length_digits hm hgrid
  rw [← h] at hstart
  exact exists_searchGrids_eq hgrid hpoint hstart

lemma shortest_of_ne_zero (h : x.pattern ≠ 0) :
    x.shortest = searchGrids x.pattern (weight x.pattern * decimalUnits)
      (Decimal.digits (weight x.pattern * decimalUnits)).length := by
  rw [shortest, if_neg h]

/-- A whole number is written without places. -/
lemma places_of_isIntegral (h : x.isIntegral) : x.shortest.places = 0 := by
  by_cases hpattern : x.pattern = 0
  · rw [shortest, if_pos hpattern]
  · obtain ⟨m, hm⟩ := exists_mul_decimalUnits_eq h
    obtain ⟨n, hit, hhit, -, hsearch⟩ := exists_searchGrids_of_eq_mul hpattern (by omega) hm
    rw [shortest_of_ne_zero hpattern, hsearch]
    exact Nat.sub_eq_zero_of_le hhit

/-- **The shortest fraction has no places exactly if the number is whole.** -/
lemma places_shortest_iff (hfinite : x.isFinite) (hsign : x.isNegative = false) :
    x.shortest.places = 0 ↔ x.isIntegral :=
  ⟨isIntegral_of_places hfinite hsign, places_of_isIntegral⟩

end Kaomoji.Binary64
