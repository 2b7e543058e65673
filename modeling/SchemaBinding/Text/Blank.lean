/-! White space, by the Unicode property `White_Space`, and cutting it off both ends of a text. -/
namespace SchemaBinding
namespace Text

/-- The characters with the property `White_Space`. Invisible characters without it, such as the
zero width space or the byte order mark, are not blank. -/
def isBlank (c : Char) : Bool :=
  let n := c.toNat
  (0x09 ≤ n && n ≤ 0x0D) || n == 0x20 || n == 0x85 || n == 0xA0 || n == 0x1680 ||
    (0x2000 ≤ n && n ≤ 0x200A) || n == 0x2028 || n == 0x2029 || n == 0x202F || n == 0x205F ||
    n == 0x3000

def trimOf (p : Char → Bool) (cs : List Char) : List Char :=
  ((cs.dropWhile p).reverse.dropWhile p).reverse

@[simp] theorem trimOf_nil (p : Char → Bool) : trimOf p [] = [] := rfl

def trim (s : String) : String := String.ofList (trimOf isBlank s.toList)

/-- A text of white space only, the empty text included. -/
def blank (s : String) : Bool := s.toList.all isBlank

end Text
end SchemaBinding
