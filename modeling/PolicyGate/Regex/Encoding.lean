import PolicyGate.Unicode.CharSet

/-!
The bytes that the characters of a set are encoded as: sequences of byte ranges, each of them all
encodings that take one byte of each range.
-/
namespace PolicyGate

namespace CharSet

/-- A range of bytes in each place. -/
abbrev ByteRanges := List (Nat × Nat)

/-- Code points from `low` to `high` as sequences of byte ranges, with `tail` continuation bytes. Digits of
base 64 that are equal at both ends stand first; the parts that do not fill a block of the last
digits are apart. -/
def byteSequences (lead : Nat) : (tail : Nat) → (low high : Nat) → List ByteRanges
  | 0, low, high => [[(lead + low, lead + high)]]
  | tail + 1, low, high =>
    let block := 1 <<< (6 * (tail + 1))
    let one (digit low high : Nat) : List ByteRanges :=
      (byteSequences 0x80 tail low high).map ((lead + digit, lead + digit) :: ·)
    let first := low / block
    let last := high / block
    if first = last then one first (low % block) (high % block)
    else
      let cutLow := low % block != 0
      let cutHigh := high % block != block - 1
      let begins := if cutLow then first + 1 else first
      let upTo := if cutHigh then last else last + 1
      (if cutLow then one first (low % block) (block - 1) else []) ++
        (if begins < upTo then
          [(lead + begins, lead + upTo - 1) :: List.replicate (tail + 1) (0x80, 0xBF)]
        else []) ++
        (if cutHigh then one last 0 (high % block) else [])

/-- The code points of each length of encoding: first, last, leading byte, continuation bytes. The
surrogates have none. -/
def encodings : List (Nat × Nat × Nat × Nat) :=
  [(0, 0x7F, 0, 0), (0x80, 0x7FF, 0xC0, 1), (0x800, 0xD7FF, 0xE0, 2), (0xE000, 0xFFFF, 0xE0, 2),
    (0x10000, 0x10FFFF, 0xF0, 3)]

/-- The encodings of all members, in order. -/
def encoded (s : CharSet) : List ByteRanges :=
  s.normalize.flatMap fun (low, high) =>
    encodings.flatMap fun (first, last, lead, tail) =>
      if max low first ≤ min high last then
        byteSequences lead tail (max low first) (min high last)
      else []

end CharSet
end PolicyGate
