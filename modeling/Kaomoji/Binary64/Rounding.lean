import Kaomoji.Binary64
import Kaomoji.Decimal

/-!
# Rounding a decimal fraction to the nearest number

The boundary between two neighbouring values is the middle between them; a fraction that lies on
the middle goes to the neighbour with the even pattern.  `settles` says of a fraction and a pattern
that the fraction lies on the pattern's side of the boundary to the next pattern, or further down.
It is monotone in the pattern, so the pattern that the fraction rounds to is the least one that
`settles` accepts, and sixty-three halvings find it among all patterns.

No case is special: denormal values are evenly spaced from zero on like all others, and a fraction
beyond the middle between the largest finite value and the value that infinity stands for here
rounds to infinity.
-/

namespace Kaomoji.Binary64

/-- Whether `num / den` units of `2⁻¹⁰⁷⁴` round to `pattern` or to a smaller pattern. -/
def settles (num den pattern : Nat) : Bool :=
  let middle := (weight pattern + weight (pattern + 1)) * den
  2 * num < middle || (2 * num == middle && pattern % 2 == 0)

/-- The least of the `2 ^ k` numbers from `low` on that `accepts` holds of, for a monotone
`accepts` that holds of the last of them. -/
def least (accepts : Nat → Bool) : Nat → Nat → Nat
  | 0, low => low
  | k + 1, low =>
    let middle := low + Nat.pow 2 k
    if accepts (middle - 1) then least accepts k low else least accepts k middle

/-- The pattern nearest to `num / den` units of `2⁻¹⁰⁷⁴`. -/
def nearestPattern (num den : Nat) : Nat :=
  min infinityPattern (least (settles num den) 63 0)

/-- The number nearest to a decimal fraction. -/
def ofDecimal (d : Decimal) : Binary64 :=
  ofPattern (nearestPattern (d.coefficient * Nat.pow 2 1074) (Nat.pow 10 d.places))

end Kaomoji.Binary64
