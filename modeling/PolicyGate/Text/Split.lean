/-!
Cutting a text at a separator character, and putting the pieces together again.
-/
namespace PolicyGate.Text

/-- The pieces between separators. There is always one piece more than there are separators. -/
def splitOn (sep : Char) : List Char → List (List Char)
  | [] => [[]]
  | c :: rest =>
    if c = sep then [] :: splitOn sep rest
    else
      match splitOn sep rest with
      | [] => [[c]]
      | piece :: pieces => (c :: piece) :: pieces

def joinWith (sep : Char) : List (List Char) → List Char
  | [] => []
  | [piece] => piece
  | piece :: pieces => piece ++ sep :: joinWith sep pieces

/-- The parts before and after the first separator, if there is one. -/
def cut? (sep : Char) : List Char → Option (List Char × List Char)
  | [] => none
  | c :: rest =>
    if c = sep then some ([], rest) else (cut? sep rest).map fun (a, b) => (c :: a, b)

theorem splitOn_ne_nil (sep : Char) (s : List Char) : splitOn sep s ≠ [] := by
  cases s with
  | nil => simp [splitOn]
  | cons c rest =>
    unfold splitOn
    split
    · simp
    · split <;> simp

/-- The first piece ends at the first separator. -/
theorem splitOn_eq_cons (sep : Char) (s : List Char) :
    ∃ rest, splitOn sep s = s.takeWhile (· ≠ sep) :: rest := by
  induction s with
  | nil => exact ⟨[], rfl⟩
  | cons c rest ih =>
    obtain ⟨pieces, first⟩ := ih
    by_cases h : c = sep
    · exact ⟨splitOn sep rest, by simp [splitOn, h]⟩
    · exact ⟨pieces, by simp [splitOn, h, first]⟩

theorem joinWith_splitOn (sep : Char) (s : List Char) : joinWith sep (splitOn sep s) = s := by
  induction s with
  | nil => rfl
  | cons c rest ih =>
    have ne := splitOn_ne_nil sep rest
    unfold splitOn
    generalize splitOn sep rest = pieces at ih ne
    split
    · next h =>
      cases pieces with
      | nil => exact absurd rfl ne
      | cons p ps => simp [joinWith, ih, h]
    · cases pieces with
      | nil => exact absurd rfl ne
      | cons p ps => cases ps <;> simp_all [joinWith]

theorem splitOn_of_not_mem {sep : Char} {s : List Char} (h : sep ∉ s) : splitOn sep s = [s] := by
  induction s with
  | nil => rfl
  | cons c rest ih =>
    simp only [List.mem_cons, not_or] at h
    rw [splitOn, if_neg (Ne.symm h.1), ih h.2]

theorem splitOn_append {sep : Char} {s : List Char} (h : sep ∉ s) (t : List Char) :
    splitOn sep (s ++ sep :: t) = s :: splitOn sep t := by
  induction s with
  | nil => simp [splitOn]
  | cons c rest ih =>
    simp only [List.mem_cons, not_or] at h
    rw [List.cons_append, splitOn, if_neg (Ne.symm h.1), ih h.2]

/-- Cutting undoes joining when no piece holds the separator. -/
theorem splitOn_joinWith {sep : Char} {pieces : List (List Char)} (ne : pieces ≠ [])
    (clean : ∀ p ∈ pieces, sep ∉ p) : splitOn sep (joinWith sep pieces) = pieces := by
  induction pieces with
  | nil => exact absurd rfl ne
  | cons p ps ih =>
    have hp := clean p List.mem_cons_self
    cases ps with
    | nil => exact splitOn_of_not_mem hp
    | cons q qs =>
      have tail := ih (by simp) fun r hr => clean r (List.mem_cons_of_mem _ hr)
      simp only [joinWith, splitOn_append hp, tail]

end PolicyGate.Text
