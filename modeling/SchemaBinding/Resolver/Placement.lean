import SchemaBinding.Schema.Basic
import SchemaBinding.Text.Blank

/-! Placements: the package that a declaration is generated into. -/
namespace SchemaBinding

/-- Asked only for objects and for strings with enum values. -/
abbrev Placement := Schema → String

/-- Places a declaration where its hint says, without the white space around it, and in a default
package if the hint is missing or blank. -/
def Placement.byHint (defaultPackage : String) : Placement := fun s =>
  match (s.packageHint.map Text.trim).filter fun hint => !hint.isEmpty with
  | some hint => hint
  | none => defaultPackage

end SchemaBinding
