import SchemaBinding.Text.Sanitized
import SchemaBinding.Text.SnakeCase

/-! Packages, written with slashes, as module paths of the target languages. -/
namespace SchemaBinding
namespace Naming

open Text

/-- Replaces the occurrences of `pattern` from left to right, going on behind each of them;
`skip` counts the characters of the last one that are still to be passed over. -/
def substitute (pattern replacement : List Char) : Nat → List Char → List Char
  | _, [] => []
  | skip + 1, _ :: cs => substitute pattern replacement skip cs
  | 0, c :: cs =>
    if pattern.isPrefixOf (c :: cs) then
      replacement ++ substitute pattern replacement (pattern.length - 1) cs
    else c :: substitute pattern replacement 0 cs

variable [Transliteration] [SnakeCasing]

def snakeSegments (package : List Char) : List Char :=
  ['/'].intercalate ((package.splitOn '/').map fun segment => snakeCase (sanitize segment))

/-- Abbreviates `platform/` to `api_` and joins `models` to the segment behind it. -/
def shortenSegments (package : List Char) : List Char :=
  substitute "models/".toList "models_".toList 0
    (substitute "platform/".toList "api_".toList 0 package)

def moduleSegments (package : List Char) : List (List Char) :=
  ((collapseUnderscores (shortenSegments (snakeSegments package))).splitOn '/').filter
    fun segment => !segment.isEmpty

/-- The Rust module of a package: `com/acme/models/cart` is `com::acme::models_cart`. -/
def modulePath (package : String) : String :=
  String.ofList ([':', ':'].intercalate (moduleSegments package.toList))

/-- The Java package of a package: `platform/cart-discount` is `platform.cart_discount`. -/
def dottedPackage (package : String) : String :=
  let segments := (package.toList.splitOn '/').map fun segment => (sanitize segment).map Char.toLower
  String.ofList (['.'].intercalate (segments.filter fun segment => !segment.isEmpty))

/-- A name as one path segment: dots become underscores. -/
def exportedName (name : String) : String :=
  String.ofList (name.toList.map fun c => if c == '.' then '_' else c)

end Naming
end SchemaBinding
