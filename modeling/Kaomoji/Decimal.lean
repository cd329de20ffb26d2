/-!
# Decimal fractions

A decimal fraction is a natural number divided by a power of ten.  Number literals of the source
denote one, and every number that is written out is first turned into one.  This module reads
numerals and lays fractions out, both ways in which numbers are ever shown:

* *positional*: `1250`, `0.0125`, never with an exponent;
* *scientific*: `1.25e-7`, one digit before the point and no point after a lone digit.
-/

namespace Kaomoji

/-- The fraction `coefficient / 10 ^ places`. -/
structure Decimal where
  coefficient : Nat
  places : Nat
deriving DecidableEq, Inhabited

namespace Decimal

/-! ## Reading -/

/-- The number that a digit stands for. -/
def digitValue (c : Char) : Nat := c.toNat - '0'.toNat

/-- The number that a row of digits stands for. -/
def natOfDigits (digits : List Char) : Nat :=
  digits.foldl (fun n c => 10 * n + digitValue c) 0

/-- The fraction written with the digits `whole` before the point and `fraction` after it. -/
def ofDigits (whole fraction : List Char) : Decimal :=
  ⟨natOfDigits (whole ++ fraction), fraction.length⟩

/-! ## Writing -/

/-- The decimal digits of a number, without leading zeros; zero has one digit. -/
def digits (n : Nat) : List Char := Nat.toDigits 10 n

/-- The decimal digits of a number, filled up with leading zeros to a width. -/
def paddedDigits (width n : Nat) : List Char :=
  List.replicate (width - (digits n).length) '0' ++ digits n

/-- The digits before the point. -/
def wholeDigits (d : Decimal) : List Char := digits (d.coefficient / Nat.pow 10 d.places)

/-- The digits after the point, as many as there are places. -/
def fractionDigits (d : Decimal) : List Char :=
  if d.places = 0 then [] else paddedDigits d.places (d.coefficient % Nat.pow 10 d.places)

/-- Positional layout; a whole number has neither point nor fraction. -/
def positional (d : Decimal) : List Char :=
  if d.places = 0 then d.wholeDigits else d.wholeDigits ++ '.' :: d.fractionDigits

/-- Positional layout in which a whole number gets the fraction `.0`. -/
def positionalWithFraction (d : Decimal) : List Char :=
  if d.places = 0 then d.wholeDigits ++ ['.', '0'] else d.positional

/-- The power of ten at the first digit. -/
def exponent (d : Decimal) : Int :=
  (digits d.coefficient).length - 1 - d.places

/-- The digits of the coefficient up to the last one that is not zero. -/
def significantDigits (d : Decimal) : List Char :=
  ((digits d.coefficient).reverse.dropWhile (· = '0')).reverse

/-- An exponent as scientific layout writes it, with a sign only if it is negative. -/
def exponentDigits : Int → List Char
  | .ofNat n => digits n
  | .negSucc n => '-' :: digits (n + 1)

/-- Scientific layout. -/
def scientific (d : Decimal) : List Char :=
  let mantissa :=
    match d.significantDigits with
    | first :: rest => if rest.isEmpty then [first] else first :: '.' :: rest
    | [] => ['0']
  mantissa ++ 'e' :: exponentDigits d.exponent

end Decimal

end Kaomoji
