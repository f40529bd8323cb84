import PolicyGate.Calendar.Format
import PolicyGate.Proofs.Outcomes

/-!
How formats are read, specifier by specifier. All that a format of instants can ask for has a written
form, but for one offset.
-/
namespace PolicyGate

namespace DateItem

variable {cs : List Char} {read : List DateItem} {used : Nat}

theorem specifier?_letter {c : Char} (letter : ofLetter? c = some read) (rest : List Char) :
    specifier? (c :: rest) = some (read, 1) := by
  unfold specifier?
  split <;> rename_i same <;> cases same
  case h_15 =>
    rw [letter]
    rfl
  -- No letter is a mark that longer specifiers begin with.
  all_goals cases letter

theorem filled_ok {fill : Fill} (found : specifier?.filled fill cs = some (read, used)) :
    ∃ c rest n, cs = c :: rest ∧ read = [.number n fill] ∧ used = 2 := by
  unfold specifier?.filled at found
  split at found
  · cases found
  · split at found
    · rename_i c rest _ n _ _
      cases found
      exact ⟨c, rest, n, rfl, rfl, rfl⟩
    · cases found

/-- A specifier is told by the characters that it uses, whatever follows them. -/
theorem specifier?_used (found : specifier? cs = some (read, used)) :
    used ≤ cs.length ∧ ∀ rest, specifier? (cs.take used ++ rest) = some (read, used) := by
  unfold specifier? at found
  split at found
  case h_12 | h_13 | h_14 =>
    obtain ⟨c, rest, n, rfl, rfl, rfl⟩ := filled_ok found
    exact ⟨by simp, fun _ => found⟩
  case h_15 =>
    obtain ⟨items, letter, same⟩ := Option.map_eq_some_iff.mp found
    cases same
    exact ⟨by simp, fun rest => specifier?_letter letter rest⟩
  case h_16 => cases found
  all_goals
    cases found
    exact ⟨by simp, fun _ => rfl⟩

theorem ofLetter?_writable {c : Char} (letter : ofLetter? c = some read) :
    .permissiveOffset ∉ read := by
  unfold ofLetter? at letter
  split at letter <;> cases letter <;> decide

theorem permissiveOffset_spelt (found : specifier? cs = some (read, used))
    (member : .permissiveOffset ∈ read) : ∃ rest, cs = '#' :: 'z' :: rest ∧ used = 2 := by
  unfold specifier? at found
  split at found
  case h_11 rest =>
    cases found
    exact ⟨rest, rfl, rfl⟩
  case h_12 | h_13 | h_14 =>
    obtain ⟨c, rest, n, rfl, rfl, rfl⟩ := filled_ok found
    simp at member
  case h_15 =>
    obtain ⟨items, letter, same⟩ := Option.map_eq_some_iff.mp found
    cases same
    exact absurd member (ofLetter?_writable letter)
  case h_16 => cases found
  all_goals
    cases found
    simp at member

theorem render?_isSome (t : Timestamp) (item : DateItem) :
    (item.render? t).isSome = true ↔ item ≠ .permissiveOffset := by
  cases item <;> simp [render?]

end DateItem

namespace DateFormat

open DateItem

/-- Characters that spell items: each of them stands for itself or begins a specifier. -/
inductive Reads : List Char → List DateItem → Prop where
  | done : Reads [] []
  | text {c : Char} {rest : List Char} {later : List DateItem} (plain : c ≠ '%')
      (behind : Reads rest later) : Reads (c :: rest) (.text [c] :: later)
  | specifier {rest : List Char} {read later : List DateItem} {used : Nat}
      (found : specifier? rest = some (read, used)) (behind : Reads (rest.drop used) later) :
      Reads ('%' :: rest) (read ++ later)

theorem items_skip (skip : Nat) (cs : List Char) : items skip cs = items 0 (cs.drop skip) := by
  induction cs generalizing skip with
  | nil => simp [items]
  | cons c rest ih =>
    cases skip with
    | zero => rfl
    | succ skip => exact ih skip

theorem items_specifier {rest : List Char} {read : List DateItem} {used : Nat}
    (found : specifier? rest = some (read, used)) :
    items 0 ('%' :: rest) = (items 0 (rest.drop used)).map (read ++ ·) := by
  rw [items, if_pos rfl, found, ← items_skip]

theorem items_text {c : Char} (plain : c ≠ '%') (rest : List Char) :
    items 0 (c :: rest) = (items 0 rest).map (.text [c] :: ·) := by
  rw [items, if_neg plain]

theorem Reads.of_items {cs : List Char} {made : List DateItem} (read : items 0 cs = some made) :
    Reads cs made := by
  -- A specifier is passed over as a whole, so the induction is on the length.
  induction size : cs.length using Nat.strongRecOn generalizing cs made with
  | ind n ih =>
    subst size
    cases cs with
    | nil =>
      cases read
      exact .done
    | cons c rest =>
      by_cases mark : c = '%'
      · subst mark
        cases found : specifier? rest with
        | none =>
          rw [items, if_pos rfl, found] at read
          cases read
        | some answer =>
          obtain ⟨first, used⟩ := answer
          rw [items_specifier found] at read
          obtain ⟨later, behind, rfl⟩ := Option.map_eq_some_iff.mp read
          have shorter : (rest.drop used).length < ('%' :: rest).length := by
            rw [List.length_drop, List.length_cons]
            omega
          exact .specifier found (ih _ shorter behind rfl)
      · rw [items_text mark] at read
        obtain ⟨later, behind, rfl⟩ := Option.map_eq_some_iff.mp read
        exact .text mark (ih _ (Nat.lt_succ_self _) behind rfl)

/-- What was read stays as it is when more follows. -/
theorem Reads.items_append {front : List Char} {read : List DateItem} (reads : Reads front read)
    (rest : List Char) : items 0 (front ++ rest) = (items 0 rest).map (read ++ ·) := by
  induction reads with
  | done => simp
  | text plain _ ih =>
    rw [List.cons_append, items_text plain, ih, Option.map_map]
    rfl
  | @specifier cs first later used found _ ih =>
    obtain ⟨within, same⟩ := specifier?_used found
    have again : specifier? (cs ++ rest) = some (first, used) := by
      have split := same (cs.drop used ++ rest)
      rwa [← List.append_assoc, List.take_append_drop] at split
    rw [List.cons_append, items_specifier again, List.drop_append_of_le_length within, ih,
      Option.map_map]
    congr 1
    funext made
    exact (List.append_assoc _ _ _).symm

/-- The format asks for an offset in a way that is only for reading offsets. -/
def Unwritable (format : String) : Prop :=
  ∃ front rest, format = front ++ "%#z" ++ rest ∧ (read? front).isSome = true

theorem Reads.of_permissiveOffset {cs : List Char} {made : List DateItem} (reads : Reads cs made)
    (member : .permissiveOffset ∈ made) :
    ∃ front rest, cs = front ++ '%' :: '#' :: 'z' :: rest ∧ (items 0 front).isSome = true := by
  induction reads with
  | done => cases member
  | text plain _ ih =>
    obtain ⟨front, rest, rfl, read⟩ := ih (by simpa using member)
    exact ⟨_ :: front, rest, rfl, by rwa [items_text plain, Option.isSome_map]⟩
  | @specifier cs first later used found _ ih =>
    rcases List.mem_append.mp member with here | later
    · obtain ⟨rest, rfl, _⟩ := permissiveOffset_spelt found here
      exact ⟨[], rest, rfl, rfl⟩
    · obtain ⟨front, rest, place, read⟩ := ih later
      obtain ⟨within, same⟩ := specifier?_used found
      refine ⟨'%' :: (cs.take used ++ front), rest, ?_, ?_⟩
      · rw [List.cons_append, List.append_assoc, ← place, List.take_append_drop]
      · have length : (cs.take used).length = used := by rw [List.length_take, Nat.min_eq_left within]
        rw [items_specifier (same front), Option.isSome_map, List.drop_left' length, read]

theorem unwritable_iff {format : String} {made : List DateItem} (read : read? format = some made) :
    Unwritable format ↔ .permissiveOffset ∈ made := by
  constructor
  · rintro ⟨front, rest, rfl, readable⟩
    obtain ⟨first, ahead⟩ := Option.isSome_iff_exists.mp readable
    have whole := (Reads.of_items ahead).items_append ("%#z".toList ++ rest.toList)
    have offset : specifier? ('#' :: 'z' :: rest.toList) = some ([.permissiveOffset], 2) := rfl
    have loose : items 0 ("%#z".toList ++ rest.toList) =
      (items 0 rest.toList).map ([.permissiveOffset] ++ ·) := items_specifier offset
    rw [read?, String.toList_append, String.toList_append, List.append_assoc, whole, loose,
      Option.map_map] at read
    obtain ⟨later, _, rfl⟩ := Option.map_eq_some_iff.mp read
    simp
  · intro member
    obtain ⟨front, rest, place, read⟩ := (Reads.of_items read).of_permissiveOffset member
    refine ⟨String.ofList front, String.ofList rest, ?_, ?_⟩
    · apply String.toList_injective
      simp [place]
    · rw [read?, String.toList_ofList, read]

/-- A format that can be read renders all instants, or none. -/
theorem render?_isSome {format : String} (readable : (read? format).isSome = true) (t : Timestamp) :
    (render? format t).isSome = true ↔ ¬ Unwritable format := by
  obtain ⟨made, read⟩ := Option.isSome_iff_exists.mp readable
  have texts : (render? format t).isSome = (made.mapM (DateItem.render? t)).isSome := by
    rw [render?, read]
    exact Outcomes.isSome_return
  simp only [texts, Outcomes.isSome_mapM, List.all_eq_true, DateItem.render?_isSome,
    unwritable_iff read]
  exact ⟨fun all member => all _ member rfl, fun none item member same => none (same ▸ member)⟩

end DateFormat
end PolicyGate
