import SchemaBinding.Text.Script.Basic

/-! Characters that are ASCII characters in another shape. -/
namespace SchemaBinding
namespace Text
namespace Script

def digits : String := "0123456789"

def capitals : String := "ABCDEFGHIJKLMNOPQRSTUVWXYZ"

def smalls : String := "abcdefghijklmnopqrstuvwxyz"

/-- The visible ASCII characters, so far away from their own places. -/
def shifted (offset : Nat) : List (Nat × String) :=
  [(offset + 0x21, "!\"#$%&'()*+,-./"), (offset + 0x30, digits), (offset + 0x3A, ":;<=>?@"),
   (offset + 0x41, capitals), (offset + 0x5B, "[\\]^_\x60"), (offset + 0x61, smalls),
   (offset + 0x7B, "\x7b|\x7d~")]

def shaped : Script where
  lettered :=
    [(0x24B6, capitals), (0x24D0, smalls)] ++ shifted 0xFEE0 ++
    [(0x1F130, capitals), (0x1F150, capitals), (0x1F170, capitals), (0x1F1E6, capitals),
     (0xE0020, " ")] ++ shifted 0xE0000

/-- Thirteen alphabets and five sets of digits for mathematics. -/
def mathematical : Script where
  lettered :=
    ((List.range 26).map fun i => (0x1D400 + 26 * i, if i % 2 = 0 then capitals else smalls)) ++
    [(0x1D6A4, "ij")] ++ (List.range 5).map fun i => (0x1D7CE + 10 * i, digits)

/-- The first digits of scripts that have decimal digits of their own. -/
def firstDigits : List Nat :=
  [0x660, 0x6F0, 0x7C0, 0x966, 0xDE6, 0xE50, 0xED0, 0xF20, 0x1040, 0x1090, 0x17E0, 0x1810, 0x1946,
   0x19D0, 0x1A80, 0x1A90, 0x1B50, 0x1BB0, 0x1C40, 0x1C50, 0xA620,
   0xA8D0, 0xA900, 0xA9D0, 0xA9F0, 0xAA50, 0xABF0]

def decimal : Script where
  lettered := firstDigits.map fun first => (first, digits)

end Script
end Text
end SchemaBinding
