/-! Finite binary64 numbers in exact arithmetic. A magnitude counts units of the smallest positive
number, `2 ^ -1074`, so that every finite number is a natural number of units. -/
namespace SchemaBinding
namespace Decimal

/-- A sign and a magnitude in units of `2 ^ -1074`. -/
structure Binary64 where
  negative : Bool
  units : Nat
  deriving DecidableEq

namespace Binary64

def one : Nat := Nat.pow 2 1074

/-- The units of the largest finite number. -/
def largest : Nat := (Nat.pow 2 53 - 1) * Nat.pow 2 2045

/-- The natural number nearest to a quotient; a half goes to the even neighbour. -/
def roundHalfEven (n d : Nat) : Nat :=
  let q := n / d
  let twice := 2 * (n % d)
  if twice < d then q else if d < twice then q + 1 else q + q % 2

/-- The binary exponent of the last significant bit of a magnitude: 53 bits are kept. -/
def scale (units : Nat) : Nat := units.log2 + 1 - 53

/-- The magnitude nearest to a quotient of units, with 53 significant bits and no upper bound. -/
def nearest (n d : Nat) : Nat :=
  let s := scale (n / d)
  roundHalfEven n (d * Nat.pow 2 s) * Nat.pow 2 s

def ofNat (n : Nat) : Nat := nearest (n * one) 1

def mul (a b : Nat) : Nat := nearest (a * b) one

def div (a b : Nat) : Nat := nearest (a * one) b

/-- Powers of ten from the largest one that is finite on are applied in steps. -/
def maxPower : Nat := 308

def powerOfTen (k : Nat) : Nat := ofNat (Nat.pow 10 k)

/-- Divides by `10 ^ k`, in steps of at most `10 ^ 308` that are rounded one by one. -/
def shrink (units k : Nat) : Nat :=
  if k ≤ maxPower then div units (powerOfTen k)
  else if units = 0 then 0
  else shrink (div units (powerOfTen maxPower)) (k - maxPower)
termination_by k
decreasing_by simp only [maxPower] at *; omega

/-- Multiplies by `10 ^ k` where the product is finite. -/
def grow (units k : Nat) : Option Nat :=
  if k ≤ maxPower then
    let product := mul units (powerOfTen k)
    if product ≤ largest then some product else none
  else if units = 0 then some 0 else none

/-- The magnitude of `significand * 10 ^ exponent`: the significand is rounded first, then the
product or quotient with the power of ten. -/
def ofScientific (significand : Nat) : Int → Option Nat
  | .ofNat k => grow (ofNat significand) k
  | .negSucc k => some (shrink (ofNat significand) (k + 1))

end Binary64
end Decimal
end SchemaBinding
