import SchemaBinding.Decimal.Binary64

/-! The shortest decimal text of a binary64 number: the fewest digits that read back, and of those
the nearest. -/
namespace SchemaBinding
namespace Decimal
namespace Binary64

/-- A positive number in decimal: `digits * 10 ^ exponent`. -/
structure Scientific where
  digits : Nat
  exponent : Int
  deriving DecidableEq

/-- The numbers that round to one magnitude, in quarters of a unit. -/
structure Interval where
  low : Nat
  value : Nat
  high : Nat
  closed : Bool
  deriving DecidableEq

/-- Half the gap to either neighbour. The gap below a power of two is half as wide, and the ends
belong to the interval when the significand is even. -/
def interval (units : Nat) : Interval :=
  let s := scale units
  let gap := Nat.pow 2 s
  let below := if 0 < s ∧ units = Nat.pow 2 (s + 52) then gap else 2 * gap
  { low := 4 * units - below, value := 4 * units, high := 4 * units + 2 * gap,
    closed := units / gap % 2 == 0 }

def Interval.holds (i : Interval) (n d : Nat) : Bool :=
  if i.closed then i.low * d ≤ n && n ≤ i.high * d else i.low * d < n && n < i.high * d

def countDigits (n : Nat) : Nat := (Nat.toDigits 10 n).length

def leadingExponent (n d : Nat) : Int :=
  if d ≤ n then Int.ofNat (countDigits (n / d) - 1) else -Int.ofNat (countDigits ((d - 1) / n))

/-- The neighbours of the number on the grid of multiples of `10 ^ exponent`, of which the nearer
one in the interval is taken; a tie goes to the even one. -/
def onGrid (i : Interval) (exponent : Int) : Option Scientific :=
  let up := Nat.pow 10 exponent.toNat
  let down := Nat.pow 10 (-exponent).toNat
  let unit := 4 * one * up
  let n := i.value * down
  let lower := n / unit
  let remainder := n % unit
  let inside := fun k => i.holds (k * unit) down
  let upperFirst := unit < 2 * remainder || (unit == 2 * remainder && lower % 2 == 1)
  let candidates := if upperFirst then [lower + 1, lower] else [lower, lower + 1]
  (candidates.find? inside).map fun k => { digits := k, exponent := exponent }

/-- Tries grids that are finer and finer; seventeen digits always suffice. -/
def search (i : Interval) (leading : Int) : Nat → Scientific
  | 0 => { digits := 0, exponent := 0 }
  | more + 1 => (onGrid i (leading - (16 - more : Nat))).getD (search i leading more)

def dropZeros (x : Scientific) : Nat → Scientific
  | 0 => x
  | n + 1 =>
    if x.digits % 10 == 0 then dropZeros { digits := x.digits / 10, exponent := x.exponent + 1 } n
    else x

def shortest (units : Nat) : Scientific :=
  let i := interval units
  dropZeros (search i (leadingExponent i.value (4 * one)) 17) 17

def zeros (n : Nat) : String := String.ofList (List.replicate n '0')

/-- Positional from `10 ^ -5` to below `10 ^ 16`, always with a digit behind the point; otherwise
one digit in front of the point, and an exponent with its sign. -/
def Scientific.text (x : Scientific) : String :=
  let digits := Nat.toDigits 10 x.digits
  let point := digits.length + x.exponent
  if 0 ≤ x.exponent ∧ point ≤ 16 then String.ofList digits ++ zeros x.exponent.toNat ++ ".0"
  else if 0 < point ∧ point ≤ 16 then
    String.ofList (digits.take point.toNat) ++ "." ++ String.ofList (digits.drop point.toNat)
  else if -5 < point ∧ point ≤ 0 then "0." ++ zeros (-point).toNat ++ String.ofList digits
  else
    let mantissa := String.ofList (digits.take 1) ++
      (if digits.length = 1 then "" else "." ++ String.ofList (digits.drop 1))
    mantissa ++ (if 0 < point then "e+" else "e") ++ toString (point - 1)

def text (x : Binary64) : String :=
  (if x.negative then "-" else "") ++ if x.units = 0 then "0.0" else (shortest x.units).text

end Binary64
end Decimal
end SchemaBinding
