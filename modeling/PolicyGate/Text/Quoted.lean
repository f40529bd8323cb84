import PolicyGate.Unicode.Additions

/-!
Text between quotes in messages. Quotes, backslashes and characters that cannot be seen on their own
are escaped.
-/
namespace PolicyGate.Text

/-- Marks that join the character before them, and characters without a shape: controls, unassigned
code points, fillers and blanks other than the space. -/
def hidden : CharSet :=
  Unicode.Additions.graphemeExtend ++ Unicode.Additions.shapeless ++ Unicode.defaultIgnorable

def quotedChar (c : Char) : List Char :=
  if c = ' ' then [c]
  else if c = '"' then ['\\', '"']
  else if c = '\\' then ['\\', '\\']
  else if c = '\t' then ['\\', 't']
  else if c = '\n' then ['\\', 'n']
  else if c = '\r' then ['\\', 'r']
  else if c = '\x00' then ['\\', '0']
  else if hidden.contains c.toNat then ['\\', 'u', '\x7b'] ++ Nat.toDigits 16 c.toNat ++ ['\x7d']
  else [c]

def quoted (s : String) : String := String.ofList ('"' :: s.toList.flatMap quotedChar ++ ['"'])

end PolicyGate.Text
