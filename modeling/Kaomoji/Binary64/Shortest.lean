import Kaomoji.Binary64.Rounding

/-!
# The shortest decimal fraction that reads back

A number is written with as few digits as will read back as the same number.  Its exact value is
a whole multiple of `10⁻¹⁰⁷⁴`, and the fractions with few digits are the points of a coarse
decimal grid.  So the grids are tried from coarse to fine, each at the two points around the value,
until one of the points reads back; the finest grid holds the value itself.  If both points of a
grid read back the nearer one is taken, and of two equally near ones the larger.

Only the two points around the value need be tried: the fractions that read back as a number form
an interval around its value, so if any point of a grid lies in it, one of these two does.
-/

namespace Kaomoji.Binary64

/-- Units of `10⁻¹⁰⁷⁴` in one unit of `2⁻¹⁰⁷⁴`. -/
def decimalUnits : Nat := Nat.pow 5 1074

/-- Whether `n` units of `10⁻¹⁰⁷⁴` read back as the positive `pattern`. -/
def readsBack (pattern n : Nat) : Bool :=
  settles n decimalUnits pattern && !settles n decimalUnits (pattern - 1)

/-- The better of the two grid points around `value`, as a multiple of the grid's `step`, if
either reads back as `pattern`. -/
def gridPoint? (pattern value step : Nat) : Option Nat :=
  let below := value / step
  let above := below + 1
  if readsBack pattern (below * step) then
    if readsBack pattern (above * step) ∧ above * step - value ≤ value - below * step then some above
    else some below
  else if readsBack pattern (above * step) then some above
  else none

/-- The multiple `n` of `10 ^ (grid - 1074)` as a decimal fraction. -/
def gridFraction (n grid : Nat) : Decimal := ⟨n * Nat.pow 10 (grid - 1074), 1074 - grid⟩

/-- The first hit on the grids of `10 ^ (grid - 1074)` and finer ones. -/
def searchGrids (pattern value : Nat) : Nat → Decimal
  | 0 => gridFraction value 0
  | grid + 1 =>
    (gridPoint? pattern value (Nat.pow 10 (grid + 1))).elim (searchGrids pattern value grid)
      (gridFraction · (grid + 1))

/-- The shortest decimal fraction that reads back as a finite number, its sign apart.  The search
begins with a grid so coarse that the whole value lies before its first point. -/
def shortest (x : Binary64) : Decimal :=
  if x.pattern = 0 then ⟨0, 0⟩
  else
    let value := weight x.pattern * decimalUnits
    searchGrids x.pattern value (Decimal.digits value).length

end Kaomoji.Binary64
