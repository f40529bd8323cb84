import PolicyGate.Text.Numeral
import PolicyGate.Text.Split
import PolicyGate.Text.Utf8

/-!
Request targets: a path with an optional query, a whole address, or an authority alone. Paths are cut
before they are decoded.
-/
namespace PolicyGate.Http

/-- The longest target, in bytes. -/
def greatestTarget : Nat := 65534

/-- What may stand in a path besides letters and digits; the last three stand for themselves though
they should not. Everything beyond ASCII may. -/
def isPathChar (c : Char) : Bool :=
  c.isAlphanum || 0x80 ≤ c.toNat || "!$%&'()*+,-./:;=@[\\]^_|~\"\x7b\x7d".toList.contains c

def isQueryChar (c : Char) : Bool :=
  (isPathChar c && c != '"') || "?`\x7b|\x7d".toList.contains c

def withoutFragment (s : List Char) : List Char := s.takeWhile (· != '#')

/-- The path of a path with an optional query; an empty one is the root. -/
def path? (s : List Char) : Option (List Char) :=
  let s := withoutFragment s
  let path := s.takeWhile (· != '?')
  let query := (s.drop path.length).drop 1
  if path.all isPathChar && query.all isQueryChar then some (if path.isEmpty then ['/'] else path) else none

/-! Authorities. -/

/-- What has been seen of an authority. -/
structure AuthoritySeen where
  colons : Nat := 0
  opened : Bool := false
  closed : Bool := false
  percent : Bool := false
  endsWithAt : Bool := false

def isAuthorityChar (c : Char) : Bool :=
  c.isAlphanum || "!$&'()*+,-.;=_~".toList.contains c

def authorityStep (seen : AuthoritySeen) (c : Char) : Option AuthoritySeen :=
  let seen := { seen with endsWithAt := false }
  if c = ':' then if 8 ≤ seen.colons then none else some { seen with colons := seen.colons + 1 }
  else if c = '[' then if seen.percent || seen.opened then none else some { seen with opened := true }
  else if c = ']' then
    if !seen.opened || seen.closed then none
    else some { seen with closed := true, colons := 0, percent := false }
  else if c = '@' then some { seen with colons := 0, percent := false, endsWithAt := true }
  else if c = '%' then some { seen with percent := true }
  else if isAuthorityChar c then some seen
  else none

/-- A host with an optional port, and perhaps a user before it. -/
def isAuthority (s : List Char) : Bool :=
  match s.foldlM authorityStep {} with
  | none => false
  | some seen => seen.opened == seen.closed && seen.colons ≤ 1 && !seen.percent && !seen.endsWithAt

/-- The authority that a text begins with, and what follows it. -/
def cutAuthority (s : List Char) : List Char × List Char :=
  let authority := s.takeWhile fun c => c != '/' && c != '?' && c != '#'
  (authority, s.drop authority.length)

/-! Targets. -/

def isSchemeChar (c : Char) : Bool :=
  c.isAlphanum || c == '+' || c == '-' || c == '.' || c == '~'

/-- What follows the scheme and its mark, if a target begins with them. -/
def afterScheme? (s : List Char) : Option (List Char) :=
  let scheme := s.takeWhile isSchemeChar
  match s.drop scheme.length with
  | ':' :: '/' :: '/' :: rest => if scheme.length ≤ 64 then some rest else none
  | _ => none

/-- The path of a target as it is spelt. An authority alone has an empty one. -/
def targetPath? (target : String) : Option (List Char) :=
  let s := target.toList
  if target.utf8ByteSize > greatestTarget then none
  else
    match s with
    | [] => none
    | ['*'] => some ['*']
    | '/' :: _ => path? s
    | _ =>
      match afterScheme? s with
      | some rest =>
        let (authority, rest) := cutAuthority rest
        if !authority.isEmpty && isAuthority authority then path? rest else none
      | none => if isAuthority s then some [] else none

/-- The bytes of a piece of a path. A percent sign that two digits do not follow stands for itself. -/
def percentDecode : List Char → List UInt8
  | [] => []
  | '%' :: a :: b :: rest =>
    match Text.hexValue? a, Text.hexValue? b with
    | some x, some y => UInt8.ofNat (x * 16 + y) :: percentDecode rest
    | _, _ => String.utf8EncodeChar '%' ++ percentDecode (a :: b :: rest)
  | c :: rest => String.utf8EncodeChar c ++ percentDecode rest

/-- The text that a piece of a path spells; there is none if its bytes are no text. -/
def decodePiece? (piece : List Char) : Option String :=
  ((Text.decodeUtf8 (percentDecode piece)).mapM id).map String.ofList

end PolicyGate.Http
