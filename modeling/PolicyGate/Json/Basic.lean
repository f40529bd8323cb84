import PolicyGate.Decimal.Form
import PolicyGate.Fields

/-!
JSON trees and their text. Members keep their order. The text has no blanks; strings escape the
quote, the backslash and the control characters below U+0020, nothing else.
-/
namespace PolicyGate

/-- A JSON value. Integers and doubles are told apart by how they are written. -/
inductive Json where
  | null
  | bool (b : Bool)
  | int (n : Int)
  | double (x : Double)
  | string (s : String)
  | array (items : List Json)
  | object (members : List (String × Json))
deriving Inhabited

namespace Json

def hexDigit (n : Nat) : Char := Nat.digitChar n

def escapeChar (c : Char) : List Char :=
  if c = '"' then ['\\', '"']
  else if c = '\\' then ['\\', '\\']
  else if c = '\n' then ['\\', 'n']
  else if c = '\r' then ['\\', 'r']
  else if c = '\t' then ['\\', 't']
  else if c = '\x08' then ['\\', 'b']
  else if c = '\x0c' then ['\\', 'f']
  else if c.toNat < 0x20 then
    ['\\', 'u', '0', '0', hexDigit (c.toNat / 16), hexDigit (c.toNat % 16)]
  else [c]

def quote (s : String) : List Char := '"' :: s.toList.flatMap escapeChar ++ ['"']

mutual

/-- The text of a value. A double that is not finite has no JSON text and is shown as `null`. -/
def chars : Json → List Char
  | .null => ['n', 'u', 'l', 'l']
  | .bool true => ['t', 'r', 'u', 'e']
  | .bool false => ['f', 'a', 'l', 's', 'e']
  | .int n => Text.signedDecimal n
  | .double x => if x.isFinite then (NumberForm.json.render x).toList else ['n', 'u', 'l', 'l']
  | .string s => quote s
  | .array [] => ['[', ']']
  | .array (x :: rest) => '[' :: x.chars ++ itemChars rest
  | .object [] => ['{', '}']
  | .object ((name, x) :: rest) => '{' :: quote name ++ ':' :: x.chars ++ memberChars rest

/-- What follows the first item of an array. -/
def itemChars : List Json → List Char
  | [] => [']']
  | x :: rest => ',' :: x.chars ++ itemChars rest

/-- What follows the first member of an object. -/
def memberChars : List (String × Json) → List Char
  | [] => ['}']
  | (name, x) :: rest => ',' :: quote name ++ ':' :: x.chars ++ memberChars rest

end

def text (x : Json) : String := String.ofList x.chars

end Json
end PolicyGate
