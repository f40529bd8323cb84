import PolicyGate.Text.Utf8

/-!
What is written in UTF-8 is read as the characters that were written.
-/
namespace PolicyGate.Text

theorem toNat_byte {n : Nat} (small : n < 256) : (UInt8.ofNat n).toNat = n :=
  UInt8.toNat_ofNat_of_lt' small

theorem isContinuation_ofNat (n : Nat) : isContinuation (UInt8.ofNat (n % 64 + 128)) = true := by
  have bounds : 128 ≤ n % 64 + 128 ∧ n % 64 + 128 < 192 := by omega
  rw [isContinuation, Bool.and_eq_true, decide_eq_true_eq, decide_eq_true_eq,
    UInt8.le_iff_toNat_le, UInt8.lt_iff_toNat_lt, toNat_byte (by omega)]
  exact bounds

theorem payload_ofNat (n : Nat) : payload (UInt8.ofNat (n % 64 + 128)) = n % 64 := by
  rw [payload, toNat_byte (by omega)]
  omega

theorem leading?_one {a : UInt8} (low : a.toNat < 0x80) (rest : List UInt8) :
    leading? (a :: rest) = some (Char.ofNat a.toNat, 0) := by
  simp only [leading?, UInt8.lt_iff_toNat_lt, UInt8.reduceToNat]
  rw [if_pos low]

theorem leading?_two {a b : UInt8} {n : Nat} (low : 0xC2 ≤ a.toNat) (high : a.toNat < 0xE0)
    (rest : List UInt8) (next : isContinuation b = true)
    (code : a.toNat % 32 * 64 + payload b = n) :
    leading? (a :: b :: rest) = some (Char.ofNat n, 1) := by
  simp only [leading?, UInt8.lt_iff_toNat_lt, UInt8.reduceToNat]
  rw [if_neg (by omega), if_neg (by omega), if_pos high, if_pos next, code]

theorem leading?_three {a b c : UInt8} {n : Nat} (low : 0xE0 ≤ a.toNat) (high : a.toNat < 0xF0)
    (rest : List UInt8) (next : isContinuation b = true) (last : isContinuation c = true)
    (code : a.toNat % 16 * 4096 + payload b * 64 + payload c = n)
    (large : 0x800 ≤ n) (valid : n.isValidChar) :
    leading? (a :: b :: c :: rest) = some (Char.ofNat n, 2) := by
  simp only [leading?, UInt8.lt_iff_toNat_lt, UInt8.reduceToNat]
  rw [if_neg (by omega), if_neg (by omega), if_neg (by omega), if_pos high, code,
    if_pos ⟨next, last, large, valid⟩]

theorem leading?_four {a b c d : UInt8} {n : Nat} (low : 0xF0 ≤ a.toNat) (high : a.toNat < 0xF8)
    (rest : List UInt8) (next : isContinuation b = true) (third : isContinuation c = true)
    (last : isContinuation d = true)
    (code : a.toNat % 8 * 262144 + payload b * 4096 + payload c * 64 + payload d = n)
    (large : 0x10000 ≤ n) (valid : n.isValidChar) :
    leading? (a :: b :: c :: d :: rest) = some (Char.ofNat n, 3) := by
  simp only [leading?, UInt8.lt_iff_toNat_lt, UInt8.reduceToNat]
  rw [if_neg (by omega), if_neg (by omega), if_neg (by omega), if_neg (by omega), if_pos high, code,
    if_pos ⟨next, third, last, large, valid⟩]

theorem leading?_encode (c : Char) (rest : List UInt8) :
    leading? (String.utf8EncodeChar c ++ rest) =
      some (c, (String.utf8EncodeChar c).length - 1) := by
  have valid : c.toNat.isValidChar := c.valid
  have top : c.toNat < 0x110000 := by
    rcases valid with low | ⟨_, high⟩ <;> omega
  have code : c.val.toNat = c.toNat := rfl
  rw [String.utf8EncodeChar, code]
  -- One case for each length that a character can have.
  by_cases one : c.toNat ≤ 127
  · have first := toNat_byte (n := c.toNat) (by omega)
    rw [if_pos one, List.singleton_append, leading?_one (by omega), first, Char.ofNat_toNat]
    rfl
  rw [if_neg one]
  by_cases two : c.toNat ≤ 2047
  · have first := toNat_byte (n := c.toNat / 64 % 32 + 192) (by omega)
    rw [if_pos two, List.cons_append, List.singleton_append,
      leading?_two (n := c.toNat) (by omega) (by omega) _ (isContinuation_ofNat _)
        (by rw [first, payload_ofNat]; omega), Char.ofNat_toNat]
    rfl
  rw [if_neg two]
  by_cases three : c.toNat ≤ 65535
  · have first := toNat_byte (n := c.toNat / 4096 % 16 + 224) (by omega)
    rw [if_pos three, List.cons_append, List.cons_append, List.singleton_append,
      leading?_three (n := c.toNat) (by omega) (by omega) _ (isContinuation_ofNat _)
        (isContinuation_ofNat _) (by rw [first, payload_ofNat, payload_ofNat]; omega) (by omega) valid,
      Char.ofNat_toNat]
    rfl
  · have first := toNat_byte (n := c.toNat / 262144 % 8 + 240) (by omega)
    rw [if_neg three, List.cons_append, List.cons_append, List.cons_append, List.singleton_append,
      leading?_four (n := c.toNat) (by omega) (by omega) _ (isContinuation_ofNat _)
        (isContinuation_ofNat _) (isContinuation_ofNat _)
        (by rw [first, payload_ofNat, payload_ofNat, payload_ofNat]; omega) (by omega) valid,
      Char.ofNat_toNat]
    rfl

theorem decodeAfter_skip (skipped rest : List UInt8) :
    decodeAfter skipped.length (skipped ++ rest) = decodeAfter 0 rest := by
  induction skipped with
  | nil => rfl
  | cons b more ih => exact ih

theorem decodeAfter_encode (c : Char) (rest : List UInt8) :
    decodeAfter 0 (String.utf8EncodeChar c ++ rest) = some c :: decodeAfter 0 rest := by
  have lead := leading?_encode c rest
  obtain ⟨b, more, bytes⟩ := List.exists_cons_of_ne_nil (String.utf8EncodeChar_ne_nil (c := c))
  rw [bytes, List.cons_append] at lead ⊢
  rw [decodeAfter, lead]
  exact congrArg (some c :: ·) (decodeAfter_skip more rest)

theorem decodeUtf8_encodeUtf8 (s : List Char) : decodeUtf8 (encodeUtf8 s) = s.map some := by
  induction s with
  | nil => rfl
  | cons c s ih =>
    rw [encodeUtf8, List.flatMap_cons, decodeUtf8, decodeAfter_encode, List.map_cons]
    exact congrArg (some c :: ·) ih

end PolicyGate.Text
