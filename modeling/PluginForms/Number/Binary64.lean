import PluginForms.Text.Basic

/-!
Double precision numbers by their bits, and the number that a decimal literal
stands for: the nearest one, of two equally near the one with an even last bit.
All of it is exact arithmetic on naturals.
-/

namespace PluginForms

/-- A number in the binary64 format. -/
structure Binary64 where
  bits : UInt64
  deriving DecidableEq, Repr

namespace Binary64

/-- The quotient `a / b` rounded to an integer, a half to the even neighbour. -/
def roundQuotient (a b : Nat) : Nat :=
  let q := a / b
  let r := a % b
  if 2 * r < b ∨ (2 * r = b ∧ q % 2 = 0) then q else q + 1

/-- `a / b * 2 ^ shift`, with a negative `shift` dividing, as a quotient. -/
def scaled (a b : Nat) (shift : Int) : Nat × Nat :=
  if 0 ≤ shift then (a * Nat.pow 2 shift.toNat, b) else (a, b * Nat.pow 2 (-shift).toNat)

/-- The exponent of the last bit of the number nearest to `a / b`, for `a` not zero:
it leaves 53 bits before the point, or is the least exponent there is. -/
def lastBit (a b : Nat) : Int :=
  let e := (a.log2 : Int) - (b.log2 : Int) - 52
  let s := scaled a b (-e)
  max (if s.1 / s.2 < Nat.pow 2 52 then e - 1 else e) (-1074)

def infinityBits : Nat := 0x7ff * Nat.pow 2 52

/-- The bits, without the sign, of the number nearest to `a / b`. Adding the
significand to the exponent field lets a carry out of it raise the exponent. -/
def magnitudeBits (a b : Nat) : Nat :=
  if a = 0 then 0
  else
    let e := lastBit a b
    let s := scaled a b (-e)
    min ((e + 1074).toNat * Nat.pow 2 52 + roundQuotient s.1 s.2) infinityBits

def ofRatio (negative : Bool) (a b : Nat) : Binary64 :=
  ⟨UInt64.ofNat (magnitudeBits a b + if negative then Nat.pow 2 63 else 0)⟩

def digitsValue (digits : Text) : Nat :=
  digits.foldl (fun n c => 10 * n + (c.toNat - '0'.toNat)) 0

/-- The number that a literal stands for: an optional hyphen, digits, and
possibly a point with digits after it. -/
def ofLiteral (literal : Text) : Binary64 :=
  let negative := literal.head? == some '-'
  let digits := if negative then literal.drop 1 else literal
  let whole := digits.takeWhile (· != '.')
  let fraction := (digits.dropWhile (· != '.')).drop 1
  ofRatio negative (digitsValue (whole ++ fraction)) (Nat.pow 10 fraction.length)

end Binary64

end PluginForms
