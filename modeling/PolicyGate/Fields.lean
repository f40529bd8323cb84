/-!
Insertion-ordered mappings from names to values. A mapping is the list of its entries; inserting,
erasing and building from entries keep the names distinct (`Distinct`).
-/
namespace PolicyGate

/-- Entries in order of first insertion. -/
abbrev Fields (α : Type u) := List (String × α)

namespace Fields

/-- Replaces the value of a name in place, or appends a new entry. -/
def insert (name : String) (value : α) : Fields α → Fields α
  | [] => [(name, value)]
  | (n, v) :: rest => if n = name then (n, value) :: rest else (n, v) :: insert name value rest

def get? (fields : Fields α) (name : String) : Option α :=
  match fields with
  | [] => none
  | (n, v) :: rest => if n = name then some v else get? rest name

def contains (fields : Fields α) (name : String) : Bool := (fields.get? name).isSome

/-- Drops the entry of a name and keeps the order of the others. -/
def erase (fields : Fields α) (name : String) : Fields α :=
  match fields with
  | [] => []
  | (n, v) :: rest => if n = name then rest else (n, v) :: erase rest name

def keys (fields : Fields α) : List String := fields.map Prod.fst

/-- Inserts the entries from left to right: a repeated name keeps its first place and last value. -/
def ofEntries (entries : List (String × α)) : Fields α :=
  entries.foldl (fun fields (n, v) => fields.insert n v) []

/-- No name occurs twice. -/
def Distinct (fields : Fields α) : Prop := fields.keys.Nodup

@[simp] theorem keys_nil : keys ([] : Fields α) = [] := rfl

@[simp] theorem keys_cons (n : String) (v : α) (rest : Fields α) :
    keys ((n, v) :: rest) = n :: keys rest := rfl

theorem get?_eq_none {fields : Fields α} {name : String} :
    fields.get? name = none ↔ name ∉ fields.keys := by
  induction fields with
  | nil => simp [get?]
  | cons e rest ih =>
    obtain ⟨n, v⟩ := e
    rw [get?, keys_cons, List.mem_cons, not_or]
    split
    · rename_i same
      simp [same]
    · rename_i other
      rw [ih, and_iff_right (Ne.symm other)]

theorem contains_iff {fields : Fields α} {name : String} :
    fields.contains name = true ↔ name ∈ fields.keys := by
  rw [contains, Option.isSome_iff_ne_none, ne_eq, get?_eq_none, Classical.not_not]

theorem mem_of_get? {fields : Fields α} {name : String} {value : α}
    (found : fields.get? name = some value) : (name, value) ∈ fields := by
  induction fields with
  | nil => cases found
  | cons e rest ih =>
    obtain ⟨n, v⟩ := e
    rw [get?] at found
    split at found
    · rename_i same
      cases found
      exact same ▸ List.mem_cons_self
    · exact List.mem_cons_of_mem (n, v) (ih found)

theorem get?_eq_some {fields : Fields α} (distinct : fields.Distinct) {name : String} {value : α} :
    fields.get? name = some value ↔ (name, value) ∈ fields := by
  refine ⟨mem_of_get?, fun member => ?_⟩
  induction fields with
  | nil => cases member
  | cons e rest ih =>
    obtain ⟨n, v⟩ := e
    obtain ⟨fresh, later⟩ := List.nodup_cons.mp distinct
    rw [get?]
    rcases List.mem_cons.mp member with here | member
    · cases here
      rw [if_pos rfl]
    · have other : n ≠ name := by
        rintro rfl
        exact fresh (List.mem_map.mpr ⟨_, member, rfl⟩)
      rw [if_neg other]
      exact ih later member

/-- What is left of a mapping under a condition on names. -/
theorem get?_filter_names (keep : String → Bool) (fields : Fields α) (name : String) :
    get? (fields.filter fun entry => keep entry.1) name =
      if keep name then get? fields name else none := by
  induction fields with
  | nil => simp [get?]
  | cons e rest ih =>
    obtain ⟨n, v⟩ := e
    by_cases same : n = name
    · subst same
      cases kept : keep n <;> simp [get?, kept, ih]
    · cases kept : keep n <;> simp [get?, kept, same, ih]

theorem get?_filter (fields : Fields α) (name : String) :
    get? (fields.filter (·.1 = name)) name = get? fields name := by
  have single := get?_filter_names (fun n => decide (n = name)) fields name
  simpa using single

theorem get?_append (fields others : Fields α) (name : String) :
    get? (fields ++ others) name = (get? fields name).or (get? others name) := by
  induction fields with
  | nil => rfl
  | cons e rest ih =>
    obtain ⟨n, v⟩ := e
    rw [List.cons_append, get?, get?]
    split
    · rfl
    · exact ih

theorem get?_insert (fields : Fields α) (name other : String) (value : α) :
    (fields.insert name value).get? other = if name = other then some value else fields.get? other := by
  induction fields with
  | nil => simp [insert, get?]
  | cons e rest ih =>
    obtain ⟨n, v⟩ := e
    unfold insert
    split <;> grind [get?]

theorem keys_insert (fields : Fields α) (name : String) (value : α) :
    (fields.insert name value).keys =
      if name ∈ fields.keys then fields.keys else fields.keys ++ [name] := by
  induction fields with
  | nil => simp [insert]
  | cons e rest ih =>
    obtain ⟨n, v⟩ := e
    unfold insert
    split
    · simp_all
    · grind [keys_cons]

theorem Distinct.insert {fields : Fields α} (h : fields.Distinct) (name : String) (value : α) :
    (fields.insert name value).Distinct := by
  unfold Distinct at *
  rw [keys_insert]
  split
  · exact h
  · grind [List.nodup_append]

/-- A name that is there keeps its place, and the other entries stay as they are. -/
theorem insert_of_mem {fields : Fields α} (distinct : fields.Distinct) {name : String}
    (member : name ∈ fields.keys) (value : α) :
    fields.insert name value =
      fields.map fun entry => if entry.1 = name then (name, value) else entry := by
  induction fields with
  | nil => cases member
  | cons e rest ih =>
    obtain ⟨n, v⟩ := e
    obtain ⟨fresh, later⟩ := List.nodup_cons.mp distinct
    rw [insert, List.map_cons]
    split
    · rename_i same
      subst same
      have others : rest.map (fun entry => if entry.1 = n then (n, value) else entry) = rest.map id := by
        refine List.map_congr_left fun entry inside => if_neg ?_
        rintro rfl
        exact fresh (List.mem_map.mpr ⟨entry, inside, rfl⟩)
      rw [others, List.map_id]
    · rename_i other
      have inside := (List.mem_cons.mp member).resolve_left (Ne.symm other)
      rw [ih later inside]

theorem mem_insert {fields : Fields α} {name : String} {value : α} {entry : String × α}
    (member : entry ∈ fields.insert name value) : entry = (name, value) ∨ entry ∈ fields := by
  induction fields with
  | nil => exact .inl (List.mem_singleton.mp member)
  | cons e rest ih =>
    obtain ⟨n, v⟩ := e
    unfold insert at member
    split at member
    · rename_i same
      rw [same] at member
      exact (List.mem_cons.mp member).imp_right (List.mem_cons_of_mem _)
    · rcases List.mem_cons.mp member with here | later
      · exact .inr (List.mem_cons.mpr (.inl here))
      · exact (ih later).imp_right (List.mem_cons_of_mem _)

theorem erase_sublist (fields : Fields α) (name : String) :
    (fields.erase name).Sublist fields := by
  induction fields with
  | nil => exact List.Sublist.refl _
  | cons e rest ih =>
    obtain ⟨n, v⟩ := e
    unfold erase
    split
    · exact List.sublist_cons_self _ _
    · exact ih.cons_cons (n, v)

theorem Distinct.sublist {fields kept : Fields α} (h : fields.Distinct)
    (sub : kept.Sublist fields) : kept.Distinct :=
  List.Nodup.sublist (sub.map Prod.fst) h

theorem erase_eq_filter {fields : Fields α} (distinct : fields.Distinct) (name : String) :
    fields.erase name = fields.filter (·.1 ≠ name) := by
  induction fields with
  | nil => rfl
  | cons e rest ih =>
    obtain ⟨n, v⟩ := e
    obtain ⟨fresh, later⟩ := List.nodup_cons.mp distinct
    rw [erase]
    split
    · rename_i same
      have others : ∀ entry ∈ rest, entry.1 ≠ name := by
        intro entry member again
        exact fresh (List.mem_map.mpr ⟨entry, member, again.trans same.symm⟩)
      rw [List.filter_cons_of_neg (by simp [same])]
      exact (List.filter_eq_self.mpr (by simpa using others)).symm
    · rename_i other
      rw [List.filter_cons_of_pos (by simp [other]), ih later]

theorem get?_erase {fields : Fields α} (distinct : fields.Distinct) (name other : String) :
    (fields.erase name).get? other = if name = other then none else fields.get? other := by
  have left := get?_filter_names (· ≠ name) fields other
  rw [erase_eq_filter distinct, left]
  by_cases same : name = other <;> simp [same, eq_comm]

theorem Distinct.erase {fields : Fields α} (h : fields.Distinct) (name : String) :
    (fields.erase name).Distinct :=
  h.sublist (erase_sublist fields name)

theorem distinct_ofEntries (entries : List (String × α)) : (ofEntries entries).Distinct := by
  suffices ∀ (acc : Fields α), acc.Distinct →
      (entries.foldl (fun fields (n, v) => fields.insert n v) acc).Distinct from
    this [] List.nodup_nil
  induction entries with
  | nil => exact fun acc h => h
  | cons e rest ih => exact fun acc h => ih _ (h.insert e.1 e.2)

/-- Building a mapping from entries makes up none. -/
theorem mem_ofEntries {entries : List (String × α)} {entry : String × α}
    (member : entry ∈ ofEntries entries) : entry ∈ entries := by
  suffices ∀ (acc : Fields α), entry ∈ entries.foldl (fun fields (n, v) => fields.insert n v) acc →
      entry ∈ acc ∨ entry ∈ entries from
    (this [] member).resolve_left List.not_mem_nil
  clear member
  induction entries with
  | nil => exact fun acc h => .inl h
  | cons e rest ih =>
    intro acc h
    rcases ih _ h with made | later
    · rcases mem_insert made with rfl | made
      · exact .inr List.mem_cons_self
      · exact .inl made
    · exact .inr (List.mem_cons_of_mem e later)

theorem insert_of_not_mem {fields : Fields α} {name : String} (fresh : name ∉ fields.keys)
    (value : α) : fields.insert name value = fields ++ [(name, value)] := by
  induction fields with
  | nil => rfl
  | cons e rest ih =>
    obtain ⟨n, v⟩ := e
    simp only [keys_cons, List.mem_cons, not_or] at fresh
    rw [insert, if_neg (Ne.symm fresh.1), ih fresh.2]
    rfl

theorem Distinct.not_mem_keys {fields rest : Fields α} {name : String} {value : α}
    (distinct : Distinct (fields ++ (name, value) :: rest)) : name ∉ fields.keys := by
  intro member
  simp only [Distinct, keys, List.map_append, List.map_cons] at distinct
  exact (List.nodup_append.mp distinct).2.2 name member name List.mem_cons_self rfl

theorem foldl_insert_of_distinct {fields entries : Fields α}
    (distinct : Distinct (fields ++ entries)) :
    entries.foldl (fun fields (n, v) => fields.insert n v) fields = fields ++ entries := by
  induction entries generalizing fields with
  | nil => exact (List.append_nil fields).symm
  | cons e rest ih =>
    obtain ⟨n, v⟩ := e
    have later := @ih (fields ++ [(n, v)]) (by simpa using distinct)
    change rest.foldl _ (fields.insert n v) = _
    rw [insert_of_not_mem distinct.not_mem_keys, later, List.append_assoc]
    rfl

/-- Entries with distinct names are a mapping already. -/
theorem ofEntries_of_distinct {entries : List (String × α)} (distinct : Distinct entries) :
    ofEntries entries = entries :=
  foldl_insert_of_distinct (by simpa using distinct)

end Fields
end PolicyGate
