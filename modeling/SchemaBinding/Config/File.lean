import SchemaBinding.Config.Json

/-! Settings from JSON text and from files, with what is reported when there are none. -/
namespace SchemaBinding
namespace Config

inductive ReadFailure
  | notFound
  | isDirectory
  | notDirectory
  | notUtf8
  deriving DecidableEq

inductive LoadError
  /-- The file at a path has no text. -/
  | unreadable (path : String) (reason : ReadFailure)
  /-- The text, which may come from a file, holds no settings. -/
  | invalid (path : Option String) (fault : Json.Fault)
  deriving DecidableEq

/-- What failed, from the outside in; a mismatch in the text comes last. -/
def LoadError.chain : LoadError → List String
  | .unreadable path _ => ["Failed to read " ++ path]
  | .invalid path fault =>
    (path.map ("Invalid resolver config in " ++ ·)).toList ++ ["Failed to parse resolver config"] ++
      match fault with
      | .mismatch cause => [cause.message]
      | _ => []

def LoadError.message (e : LoadError) : String := e.chain.headD ""

def load (text : String) : Except LoadError Config := (ofText text).mapError (.invalid none)

def loadFile (path : String) (contents : Except ReadFailure ByteArray) : Except LoadError Config :=
  match contents with
  | .error reason => .error (.unreadable path reason)
  | .ok bytes =>
    match String.fromUTF8? bytes with
    | none => .error (.unreadable path .notUtf8)
    | some text => (ofText text).mapError (.invalid (some path))

end Config
end SchemaBinding
