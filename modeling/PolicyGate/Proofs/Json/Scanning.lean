import PolicyGate.Json.Reader

/-!
Strings and integers are read as they are written.
-/
namespace PolicyGate.Json

theorem hexValue?_hexDigit {n : Nat} (small : n < 16) : Text.hexValue? (hexDigit n) = some n := by
  have each : ∀ n : Fin 16, Text.hexValue? (hexDigit n) = some n.val := by decide
  exact each ⟨n, small⟩

theorem length_byteMarks_pos (c : Option Char) : 0 < (byteMarks c).length := by
  cases c <;> exact Nat.succ_pos _

theorem hex4_digits {a b c d : Char} {w x y z : Nat} (first : Text.hexValue? a = some w)
    (second : Text.hexValue? b = some x) (third : Text.hexValue? c = some y)
    (fourth : Text.hexValue? d = some z) (rest : Input) :
    hex4 (some a :: some b :: some c :: some d :: rest) =
      .ok (((w * 16 + x) * 16 + y) * 16 + z) := by
  have taken : List.take 4 (some a :: some b :: some c :: some d :: rest) =
      [some a, some b, some c, some d] := rfl
  have marks : 4 ≤ ([some a, some b, some c, some d].flatMap byteMarks).length := by
    have ha := length_byteMarks_pos (some a)
    have hb := length_byteMarks_pos (some b)
    have hc := length_byteMarks_pos (some c)
    have hd := length_byteMarks_pos (some d)
    simp only [List.flatMap_cons, List.flatMap_nil, List.length_append, List.length_nil]
    omega
  have digits : [some a, some b, some c, some d].mapM (·.bind Text.hexValue?) =
      some [w, x, y, z] := by
    simp [first, second, third, fourth]
  rw [hex4, taken, if_neg (Nat.not_lt.mpr marks), digits]

theorem escape_control {c : Char} (control : c.toNat < 0x20) (rest : Input) :
    escape (some 'u' :: some '0' :: some '0' :: some (hexDigit (c.toNat / 16)) ::
      some (hexDigit (c.toNat % 16)) :: rest) = .ok (c, 5) := by
  have zero : Text.hexValue? '0' = some 0 := by decide
  have code : ((0 * 16 + 0) * 16 + c.toNat / 16) * 16 + c.toNat % 16 = c.toNat := by omega
  rw [escape, unicodeEscape, hex4_digits zero zero (hexValue?_hexDigit (by omega))
    (hexValue?_hexDigit (by omega)), code]
  change (if 0xDC00 ≤ c.toNat ∧ c.toNat ≤ 0xDFFF then _
    else if c.toNat < 0xD800 ∨ 0xDBFF < c.toNat then _ else _ : Except Fault (Char × Nat)).map _ = _
  rw [if_neg (by omega), if_pos (by omega), Char.ofNat_toNat]
  rfl

/-- What stands for a character in a literal is read as that character. -/
theorem literal_escapeChar (c : Char) (read : List Char) (rest : Input) :
    literal 0 read true ((escapeChar c).map some ++ rest) = literal 0 (c :: read) true rest := by
  unfold escapeChar
  -- Seven characters have an escape of their own.
  iterate 7
    split
    · subst_vars
      rfl
  rename_i notQuote notBackslash _ _ _ _ _
  split
  · rename_i control
    change literal 0 read true (some '\\' :: some 'u' :: some '0' :: some '0' ::
      some (hexDigit (c.toNat / 16)) :: some (hexDigit (c.toNat % 16)) :: rest) = _
    rw [literal, if_neg (by decide), if_pos rfl, escape_control control]
    rfl
  · rename_i visible
    change literal 0 read true (some c :: rest) = _
    rw [literal, if_neg notQuote, if_neg notBackslash, if_neg visible]

theorem literal_escaped (s read : List Char) (rest : Input) :
    literal 0 read true ((s.flatMap escapeChar).map some ++ some '"' :: rest) =
      .ok (String.ofList (read.reverse ++ s), rest) := by
  induction s generalizing read with
  | nil =>
    rw [List.append_nil]
    rfl
  | cons c s ih =>
    rw [List.flatMap_cons, List.map_append, List.append_assoc, literal_escapeChar, ih,
      List.reverse_cons, List.append_assoc]
    rfl

theorem stringBody_escaped (s : String) (rest : Input) :
    stringBody ((s.toList.flatMap escapeChar).map some ++ some '"' :: rest) = .ok (s, rest) := by
  rw [stringBody, literal_escaped, List.reverse_nil, List.nil_append, String.ofList_toList]

/-- What stands behind a value: nothing, a comma or a closing bracket. -/
def Ends (s : Input) : Prop :=
  s = [] ∨ ∃ c rest, s = some c :: rest ∧ (c = ',' ∨ c = ']' ∨ c = '}')

theorem Ends.startsWithDigit {s : Input} (ends : Ends s) : startsWithDigit s = false := by
  rcases ends with rfl | ⟨c, rest, rfl, rfl | rfl | rfl⟩ <;> rfl

theorem le_ofDigitChars (digits : List Char) (n : Nat) : n ≤ Nat.ofDigitChars 10 digits n := by
  induction digits generalizing n with
  | nil => exact Nat.le_refl n
  | cons c digits ih =>
    have later := ih (10 * n + (c.toNat - 48))
    change n ≤ Nat.ofDigitChars 10 digits (10 * n + (c.toNat - 48))
    omega

theorem takeDigits_stop {s : Input} (ended : startsWithDigit s = false) (n taken : Nat) :
    takeDigits n taken s = (n, taken, s) := by
  match s with
  | [] => rfl
  | none :: rest => rfl
  | some c :: rest =>
    have other : ¬ c.isDigit = true := by simpa [startsWithDigit, isDigit] using ended
    rw [takeDigits]
    exact if_neg fun digit => other digit.1

theorem takeDigits_append {digits : List Char} (all : ∀ c ∈ digits, c.isDigit = true) {n : Nat}
    (fits : Nat.ofDigitChars 10 digits n ≤ greatestSignificand) {s : Input}
    (ended : startsWithDigit s = false) (taken : Nat) :
    takeDigits n taken (digits.map some ++ s) =
      (Nat.ofDigitChars 10 digits n, taken + digits.length, s) := by
  induction digits generalizing n taken with
  | nil => exact takeDigits_stop ended n taken
  | cons c digits ih =>
    have step : Nat.ofDigitChars 10 (c :: digits) n =
        Nat.ofDigitChars 10 digits (10 * n + (c.toNat - 48)) := rfl
    rw [step] at fits ⊢
    have small := Nat.le_trans (le_ofDigitChars digits _) fits
    rw [List.map_cons, List.cons_append, takeDigits, if_pos ⟨all c List.mem_cons_self, small⟩,
      ih (fun d member => all d (List.mem_cons_of_mem c member)) fits, List.length_cons,
      Nat.add_right_comm, Nat.add_assoc]

/-- The numeral of a positive number does not begin with a zero. -/
theorem toDigits_eq_cons {n : Nat} (positive : 0 < n) :
    ∃ k digits, 0 < k ∧ k < 10 ∧ Nat.toDigits 10 n = Nat.digitChar k :: digits := by
  induction n using Nat.strongRecOn with
  | ind n ih =>
    by_cases small : n < 10
    · exact ⟨n, [], positive, small, Nat.toDigits_of_lt_base small⟩
    · obtain ⟨k, digits, low, high, shown⟩ := ih (n / 10) (by omega) (by omega)
      refine ⟨k, digits ++ [Nat.digitChar (n % 10)], low, high, ?_⟩
      rw [Nat.toDigits_of_base_le (by decide) (by omega), shown, List.cons_append]

theorem number_digit (positive : Bool) {k : Nat} (low : 0 < k) (high : k < 10) (s : Input) :
    number positive (some (Nat.digitChar k) :: s) =
      let (n, _, rest) := takeDigits 0 0 (some (Nat.digitChar k) :: s)
      let further := skipDigits rest
      if startsWithDigit rest then
        let exponent : Int := (rest.length - further.length : Nat)
        match further with
        | some '.' :: rest => fractionPart positive n exponent rest
        | _ => exponentOrEnd positive n exponent further
      else integerEnd positive n rest := by
  have each : k = 1 ∨ k = 2 ∨ k = 3 ∨ k = 4 ∨ k = 5 ∨ k = 6 ∨ k = 7 ∨ k = 8 ∨ k = 9 := by omega
  rcases each with rfl | rfl | rfl | rfl | rfl | rfl | rfl | rfl | rfl <;> rfl

theorem number_decimal (positive : Bool) {n : Nat} (fits : n ≤ greatestSignificand) {s : Input}
    (ended : startsWithDigit s = false) :
    number positive ((Text.decimal n).map some ++ s) = integerEnd positive n s := by
  by_cases zero : n = 0
  · subst zero
    change (if startsWithDigit s then _ else integerEnd positive 0 s) = _
    rw [ended]
    rfl
  · obtain ⟨k, digits, low, high, shown⟩ := toDigits_eq_cons (Nat.pos_of_ne_zero zero)
    have value : Nat.ofDigitChars 10 (Nat.toDigits 10 n) 0 = n := Nat.ofDigitChars_ten_toDigits
    have all : ∀ c ∈ Nat.toDigits 10 n, c.isDigit = true := by
      intro c member
      exact Nat.isDigit_of_mem_toDigits (by decide) (by decide) member
    have taken := takeDigits_append all (value.symm ▸ fits) ended 0
    rw [value] at taken
    rw [Text.decimal, shown] at *
    rw [List.map_cons, List.cons_append] at *
    rw [number_digit positive low high, taken]
    dsimp only
    rw [ended]
    rfl

theorem integerEnd_ends {s : Input} (ends : Ends s) (positive : Bool) (n : Nat) :
    integerEnd positive n s =
      if positive then .ok (.int n, s)
      else if n = 0 ∨ Int64.minValue.toInt.natAbs < n then .ok (.double (Double.ofInt n).neg, s)
      else .ok (.int (-n), s) := by
  rcases ends with rfl | ⟨c, rest, rfl, rfl | rfl | rfl⟩ <;> rfl

theorem valueWith_digit (inner : Option (Input → Outcome Json)) {k : Nat} (small : k < 10)
    (s : Input) :
    valueWith inner (some (Nat.digitChar k) :: s) = number true (some (Nat.digitChar k) :: s) := by
  have each : k = 0 ∨ k = 1 ∨ k = 2 ∨ k = 3 ∨ k = 4 ∨ k = 5 ∨ k = 6 ∨ k = 7 ∨ k = 8 ∨ k = 9 := by
    omega
  rcases each with rfl | rfl | rfl | rfl | rfl | rfl | rfl | rfl | rfl | rfl <;> rfl

theorem decimal_eq_cons (n : Nat) :
    ∃ k digits, k < 10 ∧ Text.decimal n = Nat.digitChar k :: digits := by
  by_cases zero : n = 0
  · subst zero
    exact ⟨0, [], by decide, rfl⟩
  · obtain ⟨k, digits, _, small, shown⟩ := toDigits_eq_cons (Nat.pos_of_ne_zero zero)
    exact ⟨k, digits, small, shown⟩

theorem valueWith_signedDecimal (inner : Option (Input → Outcome Json)) {n : Int}
    (low : Int64.minValue.toInt ≤ n) (high : n ≤ greatestSignificand) {s : Input} (ends : Ends s) :
    valueWith inner ((Text.signedDecimal n).map some ++ s) = .ok (.int n, s) := by
  have least : Int64.minValue.toInt = -9223372036854775808 := by decide
  have greatest : greatestSignificand = 18446744073709551615 := rfl
  have fits : n.natAbs ≤ greatestSignificand := by omega
  unfold Text.signedDecimal
  split
  · rename_i negative
    have kept : ¬ (n.natAbs = 0 ∨ Int64.minValue.toInt.natAbs < n.natAbs) := by omega
    change number false ((Text.decimal n.natAbs).map some ++ s) = _
    rw [number_decimal false fits ends.startsWithDigit, integerEnd_ends ends, if_neg (by decide),
      if_neg kept, show -(n.natAbs : Int) = n by omega]
  · rename_i nonneg
    have read := number_decimal true fits ends.startsWithDigit
    obtain ⟨k, digits, small, shown⟩ := decimal_eq_cons n.natAbs
    rw [shown, List.map_cons, List.cons_append] at read ⊢
    rw [valueWith_digit inner small, read, integerEnd_ends ends, if_pos rfl,
      show (n.natAbs : Int) = n by omega]

end PolicyGate.Json
