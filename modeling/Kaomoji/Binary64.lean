/-!
# Binary64 numbers

Number values are the 64-bit binary floating-point numbers.  A value is kept as its bit pattern and
everything is computed from the pattern in exact natural-number arithmetic, so that no statement
about a number rests on floating-point hardware.

The pattern without its sign bit is itself a number between `0` and `infinityPattern`, and three
facts make it the right handle on the value:

* `weight` gives the value that a pattern stands for, as a multiple of the smallest positive
  value `2⁻¹⁰⁷⁴`, hence without fractions;
* patterns are ordered as their values are, so neighbouring values have neighbouring patterns;
* a pattern is even exactly when its significand is, which is what rounding to even asks.
-/

namespace Kaomoji

/-- A binary floating-point number of 64 bits. -/
structure Binary64 where
  bits : UInt64
deriving DecidableEq, Inhabited

namespace Binary64

/-- The pattern of infinity; smaller patterns are finite values, larger ones are no numbers. -/
def infinityPattern : Nat := 0x7ff0000000000000

/-- The value with a given pattern and positive sign. -/
def ofPattern (pattern : Nat) : Binary64 := ⟨UInt64.ofNat pattern⟩

/-- The bits without the sign. -/
def pattern (x : Binary64) : Nat := x.bits.toNat % Nat.pow 2 63

/-- Whether the sign bit is set. -/
def isNegative (x : Binary64) : Bool := Nat.pow 2 63 ≤ x.bits.toNat

/-- Whether a pattern stands for no number. -/
def isNaN (x : Binary64) : Bool := infinityPattern < x.pattern

/-- Whether a pattern stands for a finite value. -/
def isFinite (x : Binary64) : Bool := x.pattern < infinityPattern

/-- The value of a pattern in units of `2⁻¹⁰⁷⁴`.  The lower 52 bits are the fraction of the
significand and the bits above them the exponent; with exponent zero the significand is the
fraction alone, otherwise a leading one stands before it and each further exponent doubles the
value.  The pattern of infinity gets the value that the format's next binade would begin with. -/
def weight (pattern : Nat) : Nat :=
  let exponent := pattern / Nat.pow 2 52
  let fraction := pattern % Nat.pow 2 52
  if exponent = 0 then fraction else (Nat.pow 2 52 + fraction) * Nat.pow 2 (exponent - 1)

/-- Whether a number is finite and has no fractional part. -/
def isIntegral (x : Binary64) : Bool :=
  x.isFinite && weight x.pattern % Nat.pow 2 1074 == 0

end Binary64

end Kaomoji
