import SchemaBinding.Json.Numeral
import SchemaBinding.Json.Strings

/-! Reading JSON text from left to right, so that the first problem in the text is the one that
is reported. A reader for a type takes what it wants from the text as it comes by. -/
namespace SchemaBinding
namespace Json

/-- Takes a value from the head of a text and leaves the rest. -/
abbrev Reader := StateT (List Char) (Except Fault)

def isGap (c : Char) : Bool := c == ' ' || c == '\n' || c == '\t' || c == '\r'

def mismatch (cause : Mismatch) : Reader α := throw (.mismatch cause)

/-- How much of the grammar is enforced. Values that are read over are held to less. -/
structure Rigor where
  /-- Escaped surrogates have to come in pairs. -/
  paired : Bool
  /-- Numbers have to be finite. -/
  finite : Bool
  /-- The fault of a text that ends where a digit has to stand. -/
  missingDigit : Fault

namespace Rigor

def full : Rigor := { paired := true, finite := true, missingDigit := .truncated }

def relaxed : Rigor := { paired := false, finite := false, missingDigit := .malformed }

end Rigor

namespace Reader

/-- Passes over the gap in front of the next token and shows the character that begins it. -/
def peek : Reader (Option Char) := do
  modify fun cs => cs.dropWhile isGap
  return (← get).head?

def drop : Reader Unit := modify List.tail

def word : List Char → Reader Unit
  | [] => pure ()
  | c :: cs => do
    match ← get with
    | [] => throw .truncated
    | d :: rest =>
      if d = c then
        set rest
        word cs
      else throw .malformed

/-- A string whose opening quote is the next character. -/
def string (g : Rigor) : Reader String := do
  drop
  let (s, rest) ← scanString g.paired (← get)
  set rest
  pure (String.ofList s)

def number (g : Rigor) : Reader Number := do
  let (numeral, rest) ← Numeral.scan g.missingDigit (← get)
  set rest
  match numeral.value with
  | .ok n => pure n
  | .error fault => if g.finite then throw fault else pure (.integer 0)

def startsNumber (c : Char) : Bool := c == '-' || c.isDigit

/-- Whether another element follows, up to the bracket that closes the list, which is left in
place. Elements are parted by commas, and none follows the last. -/
def more (close : Char) (first : Bool) : Reader Bool := do
  match ← peek with
  | none => throw .truncated
  | some c =>
    if c = close then pure false
    else if first then pure true
    else if c = ',' then do
      drop
      match ← peek with
      | none => throw .truncated
      | some d => if d = close then throw .malformed else pure true
    else throw .malformed

def close (bracket : Char) : Reader Unit := do
  match ← peek with
  | none => throw .truncated
  | some c => if c = bracket then drop else throw .malformed

/-- The elements of a list up to its closing bracket, handed on one by one. -/
def foldElements (step : σ → Reader σ) : Nat → Bool → σ → Reader σ
  | 0, _, _ => throw .malformed
  | n + 1, first, s => do
    if ← more ']' first then foldElements step n false (← step s)
    else do
      drop
      pure s

def name (g : Rigor) : Reader String := do
  match ← peek with
  | none => throw .truncated
  | some '"' => string g
  | some _ => throw .malformed

/-- The members of an object up to its closing brace. A step gets the name of a member and reads
on from behind it. -/
def foldMembers (g : Rigor) (step : σ → String → Reader σ) : Nat → Bool → σ → Reader σ
  | 0, _, _ => throw .malformed
  | n + 1, first, s => do
    if ← more '}' first then foldMembers g step n false (← step s (← name g))
    else do
      drop
      pure s

/-- An element takes at least one character, which bounds their number. -/
def elements (step : σ → Reader σ) (s : σ) : Reader σ := do
  foldElements step ((← get).length + 1) true s

def members (g : Rigor) (step : σ → String → Reader σ) (s : σ) : Reader σ := do
  foldMembers g step ((← get).length + 1) true s

def colon : Reader Unit := do
  match ← peek with
  | none => throw .truncated
  | some c => if c = ':' then drop else throw .malformed

/-- Lists and objects may be nested so many deep. -/
def maxDepth : Nat := 127

/-- Goes into a list or object whose bracket is the next character. `room` counts the levels that
may still be opened. -/
def descend (room : Nat) (body : Reader α) : Reader α :=
  if room = 0 then throw .malformed
  else do
    drop
    body

/-- A value whose parts are read by `part`. -/
def valueOver (g : Rigor) (room : Nat) (part : Reader Json) : Reader Json := do
  match ← peek with
  | none => throw .truncated
  | some 'n' => word "null".toList *> pure .null
  | some 't' => word "true".toList *> pure (.bool true)
  | some 'f' => word "false".toList *> pure (.bool false)
  | some '"' => return .string (← string g)
  | some '[' =>
    descend room do
      return .array (← elements (fun items => return (← part) :: items) []).reverse
  | some '{' =>
    let step := fun ms name => do
      colon
      return (name, ← part) :: ms
    descend room do
      return .object (← members g step []).reverse
  | some c => if startsNumber c then return .number (← number g) else throw .malformed

def value (g : Rigor) : Nat → Reader Json
  | 0 => valueOver g 0 (throw .malformed)
  | room + 1 => fun cs => valueOver g (room + 1) (value g room) cs

/-- Reads over a value that nobody wants. The nesting of such a value is not limited. -/
def skip : Reader Unit := do
  discard (value .relaxed (← get).length)

/-- What stands here, read as far as a message tells of it. -/
def found : Reader Found := do
  match ← peek with
  | none => throw .truncated
  | some 'n' => word "null".toList *> pure .null
  | some 't' => word "true".toList *> pure (.bool true)
  | some 'f' => word "false".toList *> pure (.bool false)
  | some '"' => return .string (← string .full)
  | some '[' => pure .sequence
  | some '{' => pure .map
  | some c => if startsNumber c then return .number (← number .full) else throw .malformed

def wrongType (wanted : Wanted) : Reader α := do
  mismatch (.wrongType (← found) wanted)

/-- A whole text of one value, with nothing but gaps behind it. -/
def ofText (reader : Reader α) (text : String) : Except Fault α := do
  let (a, rest) ← reader.run text.toList
  if rest.all isGap then pure a else throw .malformed

end Reader

def ofText (text : String) : Except Fault Json :=
  (Reader.value .full Reader.maxDepth).ofText text

end Json
end SchemaBinding
