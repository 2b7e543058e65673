import SchemaBinding.Json.Fault

/-! Number tokens and the numbers that they stand for. -/
namespace SchemaBinding
namespace Json

/-- A number token: an empty fraction and a missing exponent were not written. -/
structure Numeral where
  negative : Bool
  whole : List Char
  fraction : List Char
  exponent : Option (Bool × List Char)
  deriving DecidableEq

namespace Numeral

def digitValue (c : Char) : Nat := c.toNat - '0'.toNat

/-- The digits at the head of a text, at least one, and what follows them. `atEnd` is the fault
of a text that ends where a digit has to stand. -/
def scanDigits (atEnd : Fault) (cs : List Char) : Except Fault (List Char × List Char) :=
  match cs with
  | [] => .error atEnd
  | c :: _ => if c.isDigit then .ok (cs.span Char.isDigit) else .error .malformed

/-- A whole part of several digits does not begin with zero. -/
def scanWhole (atEnd : Fault) (cs : List Char) : Except Fault (List Char × List Char) := do
  let (digits, rest) ← scanDigits atEnd cs
  if digits.head? == some '0' && 1 < digits.length then .error .malformed
  pure (digits, rest)

def scanFraction (atEnd : Fault) : List Char → Except Fault (List Char × List Char)
  | '.' :: cs => scanDigits atEnd cs
  | cs => .ok ([], cs)

def splitExponentSign : List Char → Bool × List Char
  | '-' :: cs => (true, cs)
  | '+' :: cs => (false, cs)
  | cs => (false, cs)

def scanExponent (atEnd : Fault) (cs : List Char) :
    Except Fault (Option (Bool × List Char) × List Char) :=
  match cs with
  | [] => .ok (none, [])
  | c :: rest =>
    if c == 'e' || c == 'E' then do
      let (negative, rest) := splitExponentSign rest
      let (digits, rest) ← scanDigits atEnd rest
      pure (some (negative, digits), rest)
    else .ok (none, cs)

def splitSign : List Char → Bool × List Char
  | '-' :: cs => (true, cs)
  | cs => (false, cs)

def scan (atEnd : Fault) (cs : List Char) : Except Fault (Numeral × List Char) := do
  let (negative, rest) := splitSign cs
  let (whole, rest) ← scanWhole atEnd rest
  let (fraction, rest) ← scanFraction atEnd rest
  let (exponent, rest) ← scanExponent atEnd rest
  pure (⟨negative, whole, fraction, exponent⟩, rest)

/-- Appends digits to a significand while it fits 64 bits; the digits after that are left over. -/
def absorb (significand : Nat) : List Char → Nat × List Char
  | [] => (significand, [])
  | c :: cs =>
    let next := significand * 10 + digitValue c
    if next < Nat.pow 2 64 then absorb next cs else (significand, c :: cs)

def decimalValue (digits : List Char) : Nat :=
  digits.foldl (fun n c => n * 10 + digitValue c) 0

/-- A written exponent that does not fit 32 bits takes the number to zero or out of range. -/
def scaled (significand : Nat) (places : Int) : Option (Bool × List Char) → Option Nat
  | none => Decimal.Binary64.ofScientific significand places
  | some (negative, digits) =>
    let n := decimalValue digits
    if n < Nat.pow 2 31 then
      Decimal.Binary64.ofScientific significand (if negative then places - n else places + n)
    else if negative || significand == 0 then some 0 else none

/-- The number of a token. An integer that does not fit 64 bits, and zero with a sign, are real
numbers; a number beyond the largest finite one is refused. -/
def value (x : Numeral) : Except Fault Number :=
  let (whole, lost) := absorb 0 x.whole
  if lost.isEmpty && x.fraction.isEmpty && x.exponent.isNone then
    if !x.negative then .ok (.integer whole)
    else if whole == 0 || Nat.pow 2 63 < whole then
      .ok (.real ⟨true, Decimal.Binary64.ofNat whole⟩)
    else .ok (.integer (-whole))
  else
    let (significand, ignored) := absorb whole x.fraction
    let places : Int := (lost.length : Int) - (x.fraction.length - ignored.length)
    match scaled significand places x.exponent with
    | some units => .ok (.real ⟨x.negative, units⟩)
    | none => .error .malformed

end Numeral
end Json
end SchemaBinding
