/-!
White space: the Unicode property `White_Space` and the blanks of ASCII, with trimming for each.
-/
namespace PolicyGate.Text

/-- The characters of the Unicode property `White_Space`. -/
def isWhiteSpace (c : Char) : Bool :=
  let n := c.toNat
  (9 ≤ n && n ≤ 13) || n == 0x20 || n == 0x85 || n == 0xA0 || n == 0x1680 ||
    (0x2000 ≤ n && n ≤ 0x200A) || n == 0x2028 || n == 0x2029 || n == 0x202F || n == 0x205F ||
    n == 0x3000

/-- Space, tab, line feed, form feed and carriage return. -/
def isAsciiBlank (n : Nat) : Bool := n == 0x20 || n == 9 || n == 10 || n == 12 || n == 13

/-- Drops what `drop` accepts from both ends. -/
def trimBy (drop : Char → Bool) (s : List Char) : List Char :=
  ((s.dropWhile drop).reverse.dropWhile drop).reverse

def trim (s : String) : String := String.ofList (trimBy isWhiteSpace s.toList)

/-- ASCII letters compare without case. -/
def sameIgnoringCase (s t : String) : Bool := s.toList.map Char.toLower == t.toList.map Char.toLower

theorem isWhiteSpace_of_isDigit {c : Char} (digit : c.isDigit = true) : isWhiteSpace c = false := by
  have code : 48 ≤ c.toNat ∧ c.toNat ≤ 57 := by
    simpa [Char.isDigit, UInt32.le_iff_toNat_le] using digit
  simp [isWhiteSpace]
  omega

theorem isWhiteSpace_of_isAsciiBlank {c : Char} (blank : isAsciiBlank c.toNat = true) :
    isWhiteSpace c = true := by
  simp only [isAsciiBlank, Bool.or_eq_true, beq_iff_eq] at blank
  simp only [isWhiteSpace, Bool.or_eq_true, Bool.and_eq_true, decide_eq_true_eq, beq_iff_eq]
  omega

theorem trimBy_of_solid {drop : Char → Bool} {s : List Char} (solid : ∀ c ∈ s, drop c = false) :
    trimBy drop s = s := by
  have kept : ∀ t : List Char, (∀ c ∈ t, drop c = false) → t.dropWhile drop = t := by
    intro t solid
    cases t with
    | nil => rfl
    | cons c rest => exact List.dropWhile_cons_of_neg (by simp [solid])
  rw [trimBy, kept s solid, kept s.reverse (by simpa using solid), List.reverse_reverse]

end PolicyGate.Text
