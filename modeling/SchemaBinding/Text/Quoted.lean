import SchemaBinding.Text.Visibility

/-! Quoted texts in messages: between double quotes, with escapes for what cannot be seen. -/
namespace SchemaBinding
namespace Text

/-- Whether a character shows as it is, wherever it stands. -/
def isVisible (c : Char) : Bool :=
  !within invisible c.toNat && !within extending c.toNat

def quoteChar (c : Char) : List Char :=
  match c with
  | '"' => ['\\', '"']
  | '\\' => ['\\', '\\']
  | '\n' => ['\\', 'n']
  | '\r' => ['\\', 'r']
  | '\t' => ['\\', 't']
  | '\x00' => ['\\', '0']
  | c =>
    if isVisible c then [c]
    else "\\u\x7b".toList ++ Nat.toDigits 16 c.toNat ++ "\x7d".toList

def quoted (s : String) : String :=
  String.ofList ('"' :: s.toList.flatMap quoteChar ++ ['"'])

end Text
end SchemaBinding
