/-!
UTF-8. Decoding keeps each byte that belongs to no character apart.
-/
namespace PolicyGate.Text

def encodeUtf8 (s : List Char) : List UInt8 := s.flatMap String.utf8EncodeChar

def isContinuation (b : UInt8) : Bool := 0x80 ≤ b && b < 0xC0

def payload (b : UInt8) : Nat := b.toNat % 64

/-- The character that bytes begin with, and how many bytes of it follow the first. Encodings that are
longer than needed, surrogates and code points beyond U+10FFFF are no characters. -/
def leading? : List UInt8 → Option (Char × Nat)
  | [] => none
  | a :: rest =>
    if a < 0x80 then some (Char.ofNat a.toNat, 0)
    else if a < 0xC2 then none
    else if a < 0xE0 then
      match rest with
      | b :: _ =>
        if isContinuation b then some (Char.ofNat (a.toNat % 32 * 64 + payload b), 1) else none
      | _ => none
    else if a < 0xF0 then
      match rest with
      | b :: c :: _ =>
        let n := a.toNat % 16 * 4096 + payload b * 64 + payload c
        if isContinuation b ∧ isContinuation c ∧ 0x800 ≤ n ∧ n.isValidChar then
          some (Char.ofNat n, 2)
        else none
      | _ => none
    else if a < 0xF8 then
      match rest with
      | b :: c :: d :: _ =>
        let n := a.toNat % 8 * 262144 + payload b * 4096 + payload c * 64 + payload d
        if isContinuation b ∧ isContinuation c ∧ isContinuation d ∧ 0x10000 ≤ n ∧ n.isValidChar then
          some (Char.ofNat n, 3)
        else none
      | _ => none
    else none

/-- Decodes after `skip` bytes that belong to a character before. -/
def decodeAfter : (skip : Nat) → List UInt8 → List (Option Char)
  | _, [] => []
  | skip + 1, _ :: rest => decodeAfter skip rest
  | 0, a :: rest =>
    match leading? (a :: rest) with
    | some (c, more) => some c :: decodeAfter more rest
    | none => none :: decodeAfter 0 rest

/-- The characters of a text, and `none` for each byte that is part of none. -/
def decodeUtf8 (bytes : List UInt8) : List (Option Char) := decodeAfter 0 bytes

end PolicyGate.Text
