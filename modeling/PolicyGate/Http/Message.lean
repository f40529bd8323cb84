import PolicyGate.Text.Blank

/-!
HTTP requests and responses. The names of header fields have no case.
-/
namespace PolicyGate.Http

abbrev Headers := List (String × String)

namespace Headers

def first? (headers : Headers) (name : String) : Option String :=
  (headers.find? fun (other, _) => Text.sameIgnoringCase other name).map Prod.snd

/-- The fields whose values can be read as text: those of ASCII without controls. -/
def legible (headers : Headers) : Headers :=
  headers.filter fun (_, value) =>
    value.toList.all fun c => c == '\t' || (0x20 ≤ c.toNat && c.toNat < 0x7F)

end Headers

structure Request where
  method : String := "GET"
  target : String
  headers : Headers := []
  body : List UInt8 := []

structure Response where
  status : Nat
  headers : Headers := []
  body : String := ""
deriving DecidableEq

/-- Letters, digits and the signs that may stand in a method or the name of a header field. -/
def isToken (s : String) : Bool :=
  !s.isEmpty && s.toList.all fun c => c.isAlphanum || "!#$%&'*+-.^_`|~".toList.contains c

/-- What the value of a header field may hold: tabs, and no other control characters. -/
def isFieldValue (s : List Char) : Bool :=
  s.all fun c => c == '\t' || (0x20 ≤ c.toNat && c.toNat != 0x7F)

namespace Response

def empty (status : Nat) (headers : Headers := []) : Response := { status, headers }

def plain (status : Nat) (text : String) : Response :=
  ⟨status, [("content-type", "text/plain; charset=utf-8")], text⟩

def json (status : Nat) (text : String) : Response :=
  ⟨status, [("content-type", "application/json")], text⟩

def withHeaders (r : Response) (headers : Headers) : Response :=
  { r with headers := r.headers ++ headers }

/-- What is left of a response when only its head was asked for. -/
def head (r : Response) : Response := { r with body := "" }

end Response
end PolicyGate.Http
