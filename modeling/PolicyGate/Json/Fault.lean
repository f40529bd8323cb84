import PolicyGate.Text.Numeral

/-!
Where and why a JSON text cannot be read. A fault keeps the rest of the text that was still unread;
its place is worked out from that rest when the fault is shown.
-/
namespace PolicyGate.Json

/-- Text to be read: characters, and `none` for each byte that belongs to no character. -/
abbrev Input := List (Option Char)

def Input.ofString (s : String) : Input := s.toList.map some

inductive Cause where
  | endOfValue
  | endOfString
  | endOfObject
  | endOfList
  | expectedValue
  | expectedIdent
  | expectedColon
  | expectedObjectCommaOrEnd
  | expectedListCommaOrEnd
  | trailingComma
  | trailingCharacters
  | keyMustBeString
  | invalidNumber
  | numberOutOfRange
  | invalidEscape
  | unexpectedEndOfHexEscape
  | loneLeadingSurrogate
  | controlCharacter
  | invalidCodePoint
  | recursionLimit
  /-- A value of one type stands where another is wanted. -/
  | wrongType (found expected : String)
  /-- A value of the right type is out of range. -/
  | wrongValue (found expected : String)
  | duplicateField (name : String)
deriving DecidableEq

def Cause.message : Cause → String
  | .endOfValue => "EOF while parsing a value"
  | .endOfString => "EOF while parsing a string"
  | .endOfObject => "EOF while parsing an object"
  | .endOfList => "EOF while parsing a list"
  | .expectedValue => "expected value"
  | .expectedIdent => "expected ident"
  | .expectedColon => "expected `:`"
  | .expectedObjectCommaOrEnd => "expected `,` or `\x7d`"
  | .expectedListCommaOrEnd => "expected `,` or `]`"
  | .trailingComma => "trailing comma"
  | .trailingCharacters => "trailing characters"
  | .keyMustBeString => "key must be a string"
  | .invalidNumber => "invalid number"
  | .numberOutOfRange => "number out of range"
  | .invalidEscape => "invalid escape"
  | .unexpectedEndOfHexEscape => "unexpected end of hex escape"
  | .loneLeadingSurrogate => "lone leading surrogate in hex escape"
  | .controlCharacter => "control character (\\u0000-\\u001F) found while parsing a string"
  | .invalidCodePoint => "invalid unicode code point"
  | .recursionLimit => "recursion limit exceeded"
  | .wrongType found expected => "invalid type: " ++ found ++ ", expected " ++ expected
  | .wrongValue found expected => "invalid value: " ++ found ++ ", expected " ++ expected
  | .duplicateField name => "duplicate field `" ++ name ++ "`"

/-- A cause with the text that was unread, and how many more bytes the place counts. -/
structure Fault where
  cause : Cause
  rest : Input
  ahead : Nat
deriving DecidableEq

/-- A line, and the bytes read on it. -/
structure Place where
  line : Nat
  column : Nat
deriving DecidableEq

/-- The bytes of a character, each told whether it ends a line. -/
def byteMarks : Option Char → List Bool
  | none => [false]
  | some c => (c == '\n') :: List.replicate (c.utf8Size - 1) false

def advance (p : Place) (endsLine : Bool) : Place :=
  if endsLine then ⟨p.line + 1, 0⟩ else ⟨p.line, p.column + 1⟩

/-- The place reached in `text` when the fault was found. -/
def Fault.place (text : Input) (f : Fault) : Place :=
  let read := (text.take (text.length - f.rest.length)).flatMap byteMarks
  (read ++ (f.rest.flatMap byteMarks).take f.ahead).foldl advance ⟨1, 0⟩

def Place.describe (p : Place) : String :=
  " at line " ++ String.ofList (Text.decimal p.line) ++ " column " ++ String.ofList (Text.decimal p.column)

/-- The message of a fault found in `text`. -/
def Fault.message (text : Input) (f : Fault) : String := f.cause.message ++ (f.place text).describe

end PolicyGate.Json
