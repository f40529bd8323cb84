import PolicyGate.Proofs.Text.Utf8
import PolicyGate.Token.Base64

/-!
Base 64 is read exactly as it is written: every list of bytes has one text, and no other text is read.
-/
namespace PolicyGate.Base64

open Text (toNat_byte)

theorem value?_digit {n : Nat} (small : n < 64) : value? (digit n) = some n := by
  have each : ∀ n : Fin 64, value? (digit n) = some n.val := by decide
  exact each ⟨n, small⟩

theorem digit_of_value? {c : Char} {n : Nat} (read : value? c = some n) : n < 64 ∧ digit n = c := by
  have between {a b : Char} (h : a ≤ c ∧ c ≤ b) : a.toNat ≤ c.toNat ∧ c.toNat ≤ b.toNat :=
    ⟨UInt32.le_iff_toNat_le.mp h.1, UInt32.le_iff_toNat_le.mp h.2⟩
  unfold value? at read
  split at read
  · rename_i upper
    have bounds : 65 ≤ c.toNat ∧ c.toNat ≤ 90 := between upper
    cases read
    refine ⟨by omega, ?_⟩
    rw [digit, if_pos (by omega), show 65 + (c.toNat - 65) = c.toNat by omega, Char.ofNat_toNat]
  split at read
  · rename_i lower
    have bounds : 97 ≤ c.toNat ∧ c.toNat ≤ 122 := between lower
    cases read
    refine ⟨by omega, ?_⟩
    rw [digit, if_neg (by omega), if_pos (by omega), show 71 + (c.toNat - 71) = c.toNat by omega,
      Char.ofNat_toNat]
  split at read
  · rename_i numeral
    have bounds : 48 ≤ c.toNat ∧ c.toNat ≤ 57 := between numeral
    cases read
    refine ⟨by omega, ?_⟩
    rw [digit, if_neg (by omega), if_neg (by omega), if_pos (by omega),
      show c.toNat + 4 - 4 = c.toNat by omega, Char.ofNat_toNat]
  split at read
  · rename_i hyphen
    cases read
    exact ⟨by decide, hyphen.symm⟩
  split at read
  · rename_i underscore
    cases read
    exact ⟨by decide, underscore.symm⟩
  · cases read

theorem ofNat_eq {n : Nat} {b : UInt8} (same : n = b.toNat) : UInt8.ofNat n = b := by
  rw [same, UInt8.ofNat_toNat]

theorem decode?_encode (bytes : List UInt8) : decode? (encode bytes) = some bytes := by
  induction bytes using encode.induct with
  | case1 => rfl
  | case2 a =>
    have ha := a.toNat_lt
    rw [encode, decode?, value?_digit (by omega), value?_digit (by omega)]
    simp only [Option.bind_eq_bind, Option.bind_some]
    rw [if_pos (by omega), ofNat_eq (b := a) (by omega)]
  | case3 a b =>
    have ha := a.toNat_lt
    have hb := b.toNat_lt
    rw [encode, decode?, value?_digit (by omega), value?_digit (by omega), value?_digit (by omega)]
    simp only [Option.bind_eq_bind, Option.bind_some]
    rw [if_pos (by omega), ofNat_eq (b := a) (by omega), ofNat_eq (b := b) (by omega)]
  | case4 a b c rest ih =>
    have ha := a.toNat_lt
    have hb := b.toNat_lt
    have hc := c.toNat_lt
    rw [encode, decode?, value?_digit (by omega), value?_digit (by omega), value?_digit (by omega),
      value?_digit (by omega), ih]
    simp only [Option.bind_eq_bind, Option.bind_some]
    rw [ofNat_eq (b := a) (by omega), ofNat_eq (b := b) (by omega), ofNat_eq (b := c) (by omega)]

theorem encode_of_decode? {text : List Char} {bytes : List UInt8}
    (read : decode? text = some bytes) : encode bytes = text := by
  induction text using decode?.induct generalizing bytes with
  | case1 =>
    cases read
    rfl
  | case2 => cases read
  | case3 p q =>
    simp only [decode?, Option.bind_eq_bind, Option.bind_eq_some_iff] at read
    obtain ⟨a, hp, b, hq, h⟩ := read
    split at h
    · rename_i unused
      cases h
      obtain ⟨ha, rfl⟩ := digit_of_value? hp
      obtain ⟨hb, rfl⟩ := digit_of_value? hq
      rw [encode, toNat_byte (by omega), show (a * 4 + b / 16) / 4 = a by omega,
        show (a * 4 + b / 16) % 4 * 16 = b by omega]
    · cases h
  | case4 p q r =>
    simp only [decode?, Option.bind_eq_bind, Option.bind_eq_some_iff] at read
    obtain ⟨a, hp, b, hq, c, hr, h⟩ := read
    split at h
    · rename_i unused
      cases h
      obtain ⟨ha, rfl⟩ := digit_of_value? hp
      obtain ⟨hb, rfl⟩ := digit_of_value? hq
      obtain ⟨hc, rfl⟩ := digit_of_value? hr
      rw [encode, toNat_byte (by omega), toNat_byte (by omega),
        show (a * 4 + b / 16) / 4 = a by omega,
        show (a * 4 + b / 16) % 4 * 16 + (b % 16 * 16 + c / 4) / 16 = b by omega,
        show (b % 16 * 16 + c / 4) % 16 * 4 = c by omega]
    · cases h
  | case5 p q r s rest ih =>
    simp only [decode?, Option.bind_eq_bind, Option.bind_eq_some_iff] at read
    obtain ⟨a, hp, b, hq, c, hr, d, hs, more, hrest, h⟩ := read
    cases h
    obtain ⟨ha, rfl⟩ := digit_of_value? hp
    obtain ⟨hb, rfl⟩ := digit_of_value? hq
    obtain ⟨hc, rfl⟩ := digit_of_value? hr
    obtain ⟨hd, rfl⟩ := digit_of_value? hs
    rw [encode, ih hrest, toNat_byte (by omega), toNat_byte (by omega), toNat_byte (by omega),
      show (a * 4 + b / 16) / 4 = a by omega,
      show (a * 4 + b / 16) % 4 * 16 + (b % 16 * 16 + c / 4) / 16 = b by omega,
      show (b % 16 * 16 + c / 4) % 16 * 4 + (c % 4 * 64 + d) / 64 = c by omega,
      show (c % 4 * 64 + d) % 64 = d by omega]

/-- Bytes have one text, and no other text is read. -/
theorem decode?_eq_some_iff {text : List Char} {bytes : List UInt8} :
    decode? text = some bytes ↔ text = encode bytes := by
  constructor
  · intro read
    exact (encode_of_decode? read).symm
  · rintro rfl
    exact decode?_encode bytes

theorem mem_encode {c : Char} {bytes : List UInt8} (member : c ∈ encode bytes) :
    ∃ n < 64, c = digit n := by
  induction bytes using encode.induct with
  | case1 => cases member
  | case2 a =>
    have ha := a.toNat_lt
    simp only [encode, List.mem_cons, List.not_mem_nil, or_false] at member
    rcases member with rfl | rfl <;> exact ⟨_, by omega, rfl⟩
  | case3 a b =>
    have ha := a.toNat_lt
    have hb := b.toNat_lt
    simp only [encode, List.mem_cons, List.not_mem_nil, or_false] at member
    rcases member with rfl | rfl | rfl <;> exact ⟨_, by omega, rfl⟩
  | case4 a b c' rest ih =>
    have ha := a.toNat_lt
    have hb := b.toNat_lt
    have hc := c'.toNat_lt
    simp only [encode, List.mem_cons] at member
    rcases member with rfl | rfl | rfl | rfl | later
    · exact ⟨_, by omega, rfl⟩
    · exact ⟨_, by omega, rfl⟩
    · exact ⟨_, by omega, rfl⟩
    · exact ⟨_, by omega, rfl⟩
    · exact ih later

theorem point_not_mem_encode (bytes : List UInt8) : '.' ∉ encode bytes := by
  intro member
  obtain ⟨n, small, same⟩ := mem_encode member
  have each : ∀ n : Fin 64, '.' ≠ digit n := by decide
  exact each ⟨n, small⟩ same

end PolicyGate.Base64
