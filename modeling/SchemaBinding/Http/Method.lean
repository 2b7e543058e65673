import SchemaBinding.Http.Verb

/-! Request methods of HTTP: tokens, of which the verbs are the common ones. -/
namespace SchemaBinding

/-- Characters of a method token. -/
def isTokenChar (c : Char) : Bool :=
  c.isAlphanum || "!#$%&'*+-.^_\x60|~".toList.contains c

/-- A method token: the verbs are tokens, and anybody may add more. -/
structure Method where
  text : String
  nonempty : text.toList ≠ []
  token : text.toList.all isTokenChar = true
  deriving DecidableEq

structure UnsupportedMethod where
  method : Method
  deriving DecidableEq

namespace Method

def ofText? (text : String) : Option Method :=
  if h : text.toList ≠ [] ∧ text.toList.all isTokenChar = true then some ⟨text, h.1, h.2⟩
  else none

def get : Method := ⟨"GET", by decide, by decide⟩
def head : Method := ⟨"HEAD", by decide, by decide⟩
def post : Method := ⟨"POST", by decide, by decide⟩
def put : Method := ⟨"PUT", by decide, by decide⟩
def delete : Method := ⟨"DELETE", by decide, by decide⟩
def connect : Method := ⟨"CONNECT", by decide, by decide⟩
def options : Method := ⟨"OPTIONS", by decide, by decide⟩
def trace : Method := ⟨"TRACE", by decide, by decide⟩
def patch : Method := ⟨"PATCH", by decide, by decide⟩

/-- The verb that a method token spells, letter by letter. -/
def toVerb (m : Method) : Except UnsupportedMethod Verb :=
  match Verb.ofWord? m.text with
  | some v => .ok v
  | none => .error ⟨m⟩

end Method

def UnsupportedMethod.message (e : UnsupportedMethod) : String :=
  String.join ["unsupported HTTP method '", e.method.text, "'"]

def Verb.toMethod : Verb → Method
  | get => Method.get
  | head => Method.head
  | post => Method.post
  | put => Method.put
  | delete => Method.delete
  | connect => Method.connect
  | options => Method.options
  | trace => Method.trace
  | patch => Method.patch

end SchemaBinding
