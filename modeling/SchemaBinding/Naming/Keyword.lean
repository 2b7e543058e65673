/-! The words that Rust reserves. -/
namespace SchemaBinding
namespace Naming

/-- The words in use and the words held back for later use. -/
def keywords : List String :=
  ["as", "break", "const", "continue", "crate", "else", "enum", "extern", "false", "fn", "for",
   "if", "impl", "in", "let", "loop", "match", "mod", "move", "mut", "pub", "ref", "return",
   "static", "struct", "super", "trait", "true", "type", "unsafe", "use", "where", "while",
   "async", "await", "dyn", "try", "abstract", "become", "box", "do", "final", "macro", "override",
   "priv", "typeof", "unsized", "virtual", "yield", "gen", "self", "Self"]

def isKeyword (s : String) : Bool := keywords.contains s

end Naming
end SchemaBinding
