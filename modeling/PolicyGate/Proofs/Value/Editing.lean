import Mathlib.Data.Finset.Card
import PolicyGate.Proofs.Pipeline.Reshaping
import PolicyGate.Proofs.Query.Acceptance
import PolicyGate.Proofs.Query.Traversal
import PolicyGate.Value.Json

/-!
What edits make of a document. Whatever was done to it, a document holds the last value that each of its
keys was given, in the order in which the keys came into it; and whatever makes documents gives every key
once.
-/
namespace PolicyGate

namespace Fields

variable {α : Type}

/-- A change of a mapping. It may be collected anew from any entries. -/
inductive Edit (α : Type) where
  | insert (name : String) (value : α)
  | erase (name : String)
  | rebuild (entries : List (String × α))

def edit (fields : Fields α) : Edit α → Fields α
  | .insert name value => fields.insert name value
  | .erase name => fields.erase name
  | .rebuild entries => ofEntries entries

/-- The mapping that edits make of the empty one. -/
def edited (edits : List (Edit α)) : Fields α := edits.foldl edit []

/-- What happens to names in an edit. -/
inductive Event (α : Type) where
  | set (name : String) (value : α)
  | drop (name : String)
  | clear

def Event.Sets (name : String) : Event α → Prop
  | .set n _ => n = name
  | _ => False

def Event.Drops (name : String) : Event α → Prop
  | .drop n => n = name
  | .clear => True
  | .set _ _ => False

/-- All names are dropped before the entries of a new collection are set one by one. -/
def Edit.events : Edit α → List (Event α)
  | .insert name value => [.set name value]
  | .erase name => [.drop name]
  | .rebuild entries => .clear :: entries.map fun entry => .set entry.1 entry.2

def history (edits : List (Edit α)) : List (Event α) := edits.flatMap Edit.events

/-- The value was the last that the name was given, and the name has not been dropped since. -/
def Current (events : List (Event α)) (name : String) (value : α) : Prop :=
  ∃ i, events[i]? = some (.set name value) ∧
    ∀ later ∈ events.drop (i + 1), ¬ later.Sets name ∧ ¬ later.Drops name

/-- Whenever the name was set, it was dropped later. -/
def Absent (events : List (Event α)) (name : String) : Prop :=
  ∀ i value, events[i]? = some (.set name value) → ∃ later ∈ events.drop (i + 1), later.Drops name

/-- Event `i` set the name when it was absent, and the name has not been dropped since. -/
def Born (events : List (Event α)) (name : String) (i : Nat) : Prop :=
  (∃ value, events[i]? = some (.set name value)) ∧ Absent (events.take i) name ∧
    ∀ later ∈ events.drop (i + 1), ¬ later.Drops name

/-- The mapping is what the events are to leave: the current values, in the order in which their names
were set first. -/
structure Reflects (fields : Fields α) (events : List (Event α)) : Prop where
  distinct : fields.Distinct
  found : ∀ name value, fields.get? name = some value ↔ Current events name value
  missing : ∀ name, fields.get? name = none ↔ Absent events name
  born : ∀ name ∈ fields.keys, ∃! i, Born events name i
  order : fields.keys.Pairwise fun a b => ∀ i j, Born events a i → Born events b j → i < j

section Events

variable {events : List (Event α)} {e : Event α} {name : String} {value : α}

def Event.apply (fields : Fields α) : Event α → Fields α
  | .set name value => fields.insert name value
  | .drop name => fields.erase name
  | .clear => []

theorem edit_eq_foldl (fields : Fields α) (change : Edit α) :
    edit fields change = change.events.foldl Event.apply fields := by
  cases change with
  | rebuild entries =>
    rw [Edit.events, List.foldl_cons, List.foldl_map]
    rfl
  | _ => rfl

theorem edited_eq_foldl (edits : List (Edit α)) :
    edited edits = (history edits).foldl Event.apply [] := by
  have same : edit (α := α) = fun fields change => change.events.foldl Event.apply fields := by
    funext fields change
    exact edit_eq_foldl fields change
  rw [edited, history, List.foldl_flatMap, same]

theorem getElem?_snoc {i : Nat} {x : Event α} :
    (events ++ [e])[i]? = some x ↔ events[i]? = some x ∨ i = events.length ∧ e = x := by
  rcases Nat.lt_trichotomy i events.length with before | rfl | after
  · rw [List.getElem?_append_left before]
    simp [Nat.ne_of_lt before]
  · simp
  · rw [List.getElem?_eq_none (Nat.le_of_lt after), List.getElem?_eq_none (by simp; omega)]
    simp [Nat.ne_of_gt after]

theorem drop_snoc {i : Nat} {x : Event α} (here : events[i]? = some x) :
    (events ++ [e]).drop (i + 1) = events.drop (i + 1) ++ [e] :=
  List.drop_append_of_le_length (List.getElem?_eq_some_iff.mp here).1

theorem drop_length_snoc : (events ++ [e]).drop (events.length + 1) = [] := by
  simp

theorem current_snoc : Current (events ++ [e]) name value ↔
    e = .set name value ∨ Current events name value ∧ ¬ e.Sets name ∧ ¬ e.Drops name := by
  constructor
  · rintro ⟨i, here, since⟩
    rcases getElem?_snoc.mp here with old | ⟨_, rfl⟩
    · rw [drop_snoc old] at since
      obtain ⟨before, last⟩ := List.forall_mem_append.mp since
      exact .inr ⟨⟨i, old, before⟩, last e List.mem_cons_self⟩
    · exact .inl rfl
  · rintro (rfl | ⟨⟨i, old, before⟩, last⟩)
    · exact ⟨events.length, getElem?_snoc.mpr (.inr ⟨rfl, rfl⟩), by simp⟩
    · refine ⟨i, getElem?_snoc.mpr (.inl old), ?_⟩
      rw [drop_snoc old]
      exact List.forall_mem_append.mpr ⟨before, by simpa using last⟩

theorem absent_snoc : Absent (events ++ [e]) name ↔
    e.Drops name ∨ Absent events name ∧ ¬ e.Sets name := by
  constructor
  · intro absent
    refine or_iff_not_imp_left.mpr fun kept => ⟨?_, ?_⟩
    · intro i value here
      obtain ⟨later, member, drops⟩ := absent i value (getElem?_snoc.mpr (.inl here))
      rw [drop_snoc here] at member
      rcases List.mem_append.mp member with before | last
      · exact ⟨later, before, drops⟩
      · cases List.mem_singleton.mp last
        exact absurd drops kept
    · intro sets
      cases e with
      | set n value =>
        cases sets
        obtain ⟨later, member, _⟩ :=
          absent events.length value (getElem?_snoc.mpr (.inr ⟨rfl, rfl⟩))
        rw [drop_length_snoc] at member
        cases member
      | _ => cases sets
  · intro either i value here
    rcases getElem?_snoc.mp here with old | ⟨rfl, rfl⟩
    · rw [drop_snoc old]
      rcases either with drops | ⟨absent, _⟩
      · exact ⟨e, by simp, drops⟩
      · obtain ⟨later, member, drops⟩ := absent i value old
        exact ⟨later, List.mem_append_left _ member, drops⟩
    · rcases either with drops | ⟨_, kept⟩
      · cases drops
      · exact absurd rfl kept

theorem born_snoc {i : Nat} : Born (events ++ [e]) name i ↔
    Born events name i ∧ ¬ e.Drops name ∨ i = events.length ∧ e.Sets name ∧ Absent events name := by
  constructor
  · rintro ⟨⟨value, here⟩, absent, kept⟩
    rcases getElem?_snoc.mp here with old | ⟨rfl, rfl⟩
    · have within := (List.getElem?_eq_some_iff.mp old).1
      rw [drop_snoc old] at kept
      rw [List.take_append_of_le_length (Nat.le_of_lt within)] at absent
      obtain ⟨before, last⟩ := List.forall_mem_append.mp kept
      exact .inl ⟨⟨⟨value, old⟩, absent, before⟩, last e List.mem_cons_self⟩
    · rw [List.take_left] at absent
      exact .inr ⟨rfl, rfl, absent⟩
  · rintro (⟨⟨⟨value, old⟩, absent, before⟩, last⟩ | ⟨rfl, sets, absent⟩)
    · have within := (List.getElem?_eq_some_iff.mp old).1
      refine ⟨⟨value, getElem?_snoc.mpr (.inl old)⟩, ?_, ?_⟩
      · rwa [List.take_append_of_le_length (Nat.le_of_lt within)]
      · rw [drop_snoc old]
        exact List.forall_mem_append.mpr ⟨before, by simpa using last⟩
    · cases e with
      | set n value =>
        cases sets
        exact ⟨⟨value, getElem?_snoc.mpr (.inr ⟨rfl, rfl⟩)⟩, by rwa [List.take_left], by simp⟩
      | _ => cases sets

theorem Born.not_absent {i : Nat} (born : Born events name i) : ¬ Absent events name := by
  obtain ⟨⟨value, here⟩, _, kept⟩ := born
  intro absent
  obtain ⟨later, member, drops⟩ := absent i value here
  exact kept later member drops

/-- A name is born once at most between two removals. -/
theorem Born.unique {i j : Nat} (first : Born events name i) (second : Born events name j) : i = j := by
  induction events using List.reverseRecOn with
  | nil => cases first.1.choose_spec
  | append_singleton events e ih =>
    rcases born_snoc.mp first with ⟨old, _⟩ | ⟨rfl, _, absent⟩
    · rcases born_snoc.mp second with ⟨old', _⟩ | ⟨_, _, absent⟩
      · exact ih old old'
      · exact absurd absent old.not_absent
    · rcases born_snoc.mp second with ⟨old', _⟩ | ⟨rfl, _, _⟩
      · exact absurd absent old'.not_absent
      · rfl

variable {fields : Fields α}

theorem existsUnique_born (some : ∃ i, Born events name i) : ∃! i, Born events name i := by
  obtain ⟨i, born⟩ := some
  exact ⟨i, born, fun j other => other.unique born⟩

theorem Reflects.mem_keys (reflects : Reflects fields events) :
    name ∈ fields.keys ↔ ¬ Absent events name := by
  rw [← reflects.missing, get?_eq_none, not_not]

/-- The names of a mapping keep their order as long as they were all born before. -/
theorem Reflects.order_snoc (reflects : Reflects fields events) {names : List String}
    (sub : names.Sublist fields.keys) :
    names.Pairwise fun a b => ∀ i j, Born (events ++ [e]) a i → Born (events ++ [e]) b j → i < j := by
  have old {a : String} (member : a ∈ names) {i : Nat} (born : Born (events ++ [e]) a i) :
      Born events a i := by
    rcases born_snoc.mp born with ⟨born, _⟩ | ⟨_, _, absent⟩
    · exact born
    · exact absurd absent (reflects.mem_keys.mp (sub.subset member))
  refine (reflects.order.sublist sub).imp_of_mem ?_
  intro a b first second before i j born born'
  exact before i j (old first born) (old second born')

theorem Reflects.set (reflects : Reflects fields events) (name : String) (value : α) :
    Reflects (fields.insert name value) (events ++ [.set name value]) where
  distinct := reflects.distinct.insert name value
  found other v := by
    rw [get?_insert, current_snoc]
    by_cases same : name = other
    · simp [same, Event.Sets]
    · simp [same, Event.Sets, Event.Drops, reflects.found]
  missing other := by
    rw [get?_insert, absent_snoc]
    by_cases same : name = other
    · simp [same, Event.Sets, Event.Drops]
    · simp [same, Event.Sets, Event.Drops, reflects.missing]
  born other member := by
    apply existsUnique_born
    by_cases absent : Absent events other
    · have same : name = other := by
        rw [keys_insert] at member
        have fresh : other ∉ fields.keys := fun member => reflects.mem_keys.mp member absent
        split at member
        · exact absurd member fresh
        · simpa [fresh, eq_comm] using member
      exact ⟨events.length, born_snoc.mpr (.inr ⟨rfl, same, absent⟩)⟩
    · obtain ⟨i, born, _⟩ := reflects.born other (reflects.mem_keys.mpr absent)
      exact ⟨i, born_snoc.mpr (.inl ⟨born, id⟩)⟩
  order := by
    rw [keys_insert]
    split
    · exact reflects.order_snoc (List.Sublist.refl _)
    · rename_i fresh
      refine List.pairwise_append.mpr ⟨reflects.order_snoc (List.Sublist.refl _), by simp, ?_⟩
      -- A new name comes last: its birth is the newest event.
      intro a member b last i j born born'
      cases List.mem_singleton.mp last
      have absent : Absent events name := not_not.mp fun there => fresh (reflects.mem_keys.mpr there)
      rcases born_snoc.mp born with ⟨⟨⟨_, here⟩, _⟩, _⟩ | ⟨_, _, gone⟩
      · rcases born_snoc.mp born' with ⟨old, _⟩ | ⟨rfl, _⟩
        · exact absurd absent old.not_absent
        · exact (List.getElem?_eq_some_iff.mp here).1
      · exact absurd gone (reflects.mem_keys.mp member)

theorem Reflects.drop (reflects : Reflects fields events) (name : String) :
    Reflects (fields.erase name) (events ++ [.drop name]) where
  distinct := reflects.distinct.erase name
  found other v := by
    rw [get?_erase reflects.distinct, current_snoc]
    by_cases same : name = other
    · simp [same, Event.Drops]
    · simp [same, Event.Sets, Event.Drops, reflects.found]
  missing other := by
    rw [get?_erase reflects.distinct, absent_snoc]
    by_cases same : name = other
    · simp [same, Event.Drops]
    · simp [same, Event.Sets, Event.Drops, reflects.missing]
  born other member := by
    apply existsUnique_born
    have kept : name ≠ other := by
      rintro rfl
      have gone := get?_erase reflects.distinct name name
      rw [if_pos rfl] at gone
      exact get?_eq_none.mp gone member
    have there := ((erase_sublist fields name).map Prod.fst).subset member
    obtain ⟨i, born, _⟩ := reflects.born other there
    exact ⟨i, born_snoc.mpr (.inl ⟨born, kept⟩)⟩
  order := reflects.order_snoc ((erase_sublist fields name).map Prod.fst)

theorem Reflects.clear (events : List (Event α)) : Reflects ([] : Fields α) (events ++ [.clear]) where
  distinct := List.nodup_nil
  found name value := by simp [current_snoc, get?, Event.Drops]
  missing name := by simp [absent_snoc, get?, Event.Drops]
  born name member := by cases member
  order := List.Pairwise.nil

theorem Reflects.empty : Reflects ([] : Fields α) [] where
  distinct := List.nodup_nil
  found name value := by simp [Current, get?]
  missing name := by simp [Absent, get?]
  born name member := by cases member
  order := List.Pairwise.nil

theorem reflects_foldl (events : List (Event α)) : Reflects (events.foldl Event.apply []) events := by
  induction events using List.reverseRecOn with
  | nil => exact .empty
  | append_singleton events e ih =>
    rw [List.foldl_append]
    cases e with
    | set name value => exact ih.set name value
    | drop name => exact ih.drop name
    | clear => exact .clear events

end Events

theorem reflects_edited (edits : List (Edit α)) : Reflects (edited edits) (history edits) := by
  rw [edited_eq_foldl]
  exact reflects_foldl (history edits)

end Fields

namespace Value

mutual

theorem hasDistinctKeys_ofJson : ∀ x : Json, (ofJson x).HasDistinctKeys
  | .null => hasDistinctKeys_leaf rfl
  | .bool _ => hasDistinctKeys_leaf rfl
  | .int n => by
    rw [ofJson, ofInteger]
    split <;> exact hasDistinctKeys_leaf rfl
  | .double _ => hasDistinctKeys_leaf rfl
  | .string _ => hasDistinctKeys_leaf rfl
  | .array items => hasDistinctKeys_array.mpr (hasDistinctKeys_itemsOfJson items)
  | .object members => hasDistinctKeys_membersOfJson members hasDistinctKeys_empty

theorem hasDistinctKeys_itemsOfJson : ∀ items : List Json, ∀ v ∈ itemsOfJson items, v.HasDistinctKeys
  | [], _, member => by cases member
  | x :: rest, v, member => by
    rcases List.mem_cons.mp member with rfl | later
    · exact hasDistinctKeys_ofJson x
    · exact hasDistinctKeys_itemsOfJson rest v later

theorem hasDistinctKeys_membersOfJson : ∀ (members : List (String × Json)) {made : Document},
    (Value.document made).HasDistinctKeys →
      (Value.document (membersOfJson made members)).HasDistinctKeys
  | [], _, distinct => distinct
  | (name, x) :: rest, _, distinct =>
    hasDistinctKeys_membersOfJson rest (distinct.insert name (hasDistinctKeys_ofJson x))

end

end Value

namespace Query

open Value

variable {σ : Type} {isAllowed : String → Bool} {replace : Value → Walk σ Value}

theorem walkItems_hasDistinctKeys {items answers : List Value} {level : Nat} {start final : σ}
    (each : ∀ v ∈ items, ∀ {start w final},
      (walk isAllowed replace level v).run.run start = (.ok w, final) → w.HasDistinctKeys)
    (walked : (walkItems isAllowed replace level items).run.run start = (.ok answers, final)) :
    ∀ w ∈ answers, w.HasDistinctKeys := by
  induction items generalizing start answers final with
  | nil =>
    obtain ⟨rfl, _⟩ := run_pure_ok.mp walked
    exact fun _ member => by cases member
  | cons v rest ih =>
    obtain ⟨first, mid, walkedFirst, walked⟩ := run_bind_ok.mp walked
    obtain ⟨others, _, walkedRest, walked⟩ := run_bind_ok.mp walked
    obtain ⟨rfl, _⟩ := run_pure_ok.mp walked
    intro w member
    rcases List.mem_cons.mp member with rfl | later
    · exact each v List.mem_cons_self walkedFirst
    · exact ih (fun v member => each v (List.mem_cons_of_mem _ member)) walkedRest w later

theorem walkEntries_hasDistinctKeys {entries made answer : Document} {level : Nat} {start final : σ}
    (each : ∀ key v, (key, v) ∈ entries → ∀ {start w final},
      (walk isAllowed replace level v).run.run start = (.ok w, final) → w.HasDistinctKeys)
    (distinct : (Value.document made).HasDistinctKeys)
    (walked : (walkEntries isAllowed replace level made entries).run.run start = (.ok answer, final)) :
    (Value.document answer).HasDistinctKeys := by
  induction entries generalizing start made with
  | nil =>
    obtain ⟨rfl, _⟩ := run_pure_ok.mp walked
    exact distinct
  | cons entry rest ih =>
    obtain ⟨key, v⟩ := entry
    rw [walkEntries] at walked
    split at walked
    · obtain ⟨w, mid, walkedFirst, walked⟩ := run_bind_ok.mp walked
      have inner := each key v List.mem_cons_self walkedFirst
      exact ih (fun key v member => each key v (List.mem_cons_of_mem _ member))
        (distinct.insert key inner) walked
    · cases (run_throw.mp walked).1

/-- The tree that a walk makes has distinct keys, whatever it was given, if this is so of what leaves
are replaced by. -/
theorem walk_hasDistinctKeys
    (replies : ∀ leaf start answer final, leaf.isLeaf = true →
      (replace leaf).run.run start = (.ok answer, final) → answer.HasDistinctKeys)
    {level : Nat} {v w : Value} {start final : σ}
    (walked : (walk isAllowed replace level v).run.run start = (.ok w, final)) :
    w.HasDistinctKeys := by
  induction v using tree_induction generalizing level w start final with
  | leaf v leaf =>
    rw [walk_leaf leaf] at walked
    split at walked
    · cases (run_throw.mp walked).1
    · exact replies v start w final leaf walked
  | array items ih =>
    rw [walk] at walked
    split at walked
    · cases (run_throw.mp walked).1
    · obtain ⟨answers, _, walkedItems, walked⟩ := run_bind_ok.mp walked
      obtain ⟨rfl, _⟩ := run_pure_ok.mp walked
      exact hasDistinctKeys_array.mpr
        (walkItems_hasDistinctKeys (fun v member => ih v member) walkedItems)
  | document entries ih =>
    rw [walk] at walked
    split at walked
    · cases (run_throw.mp walked).1
    · obtain ⟨answer, _, walkedEntries, walked⟩ := run_bind_ok.mp walked
      obtain ⟨rfl, _⟩ := run_pure_ok.mp walked
      exact walkEntries_hasDistinctKeys (fun key v member => ih key v member) hasDistinctKeys_empty
        walkedEntries

theorem runWalk_hasDistinctKeys {v w : Value} (walked : runWalk isAllowed v = .ok w) :
    w.HasDistinctKeys := by
  have read : coerceAt isAllowed 0 v = .ok w := walked
  obtain ⟨_, rfl⟩ := coerceAt_ok.mp read
  exact hasDistinctKeys_mapLeaves (fun _ => datedLeaf_isLeaf) v

end Query

namespace Pipeline

open Value

variable {docs rows : List Document}

theorem applyStage_hasDistinctKeys {stage : Document}
    (each : ∀ d ∈ docs, (Value.document d).HasDistinctKeys)
    (ran : applyStage docs stage = .ok rows) : ∀ row ∈ rows, (Value.document row).HasDistinctKeys := by
  intro row member
  by_cases counts : Counts stage
  · obtain ⟨field, rfl⟩ := applyStage_count counts ran
    cases List.mem_singleton.mp member
    exact hasDistinctKeys_empty.insert field (hasDistinctKeys_leaf rfl)
  · have distinct := fun d member => (hasDistinctKeys_document.mp (each d member)).1
    obtain ⟨d, inside, sub⟩ := (applyStage_reshapes distinct counts ran).mem member
    exact (each d inside).sublist sub

theorem run_hasDistinctKeys {stages : List Document}
    (each : ∀ d ∈ docs, (Value.document d).HasDistinctKeys)
    (ran : run docs stages = .ok rows) : ∀ row ∈ rows, (Value.document row).HasDistinctKeys :=
  run_preserves (P := fun rows => ∀ row ∈ rows, (Value.document row).HasDistinctKeys)
    (fun _ _ _ _ each ran => applyStage_hasDistinctKeys each ran) each ran

end Pipeline

namespace Document

/-- A document is a map that keeps the order in which its keys came into it: it holds what its history
of edits says, a new value takes the place of the old one, and a key that is erased leaves the others as
they are. No key occurs twice in documents from JSON, in what walks make of trees, or in the rows of
pipelines. -/
theorem ordered_maps :
    (∀ edits : List (Fields.Edit Value),
      Fields.Reflects (Fields.edited edits) (Fields.history edits)) ∧
    (∀ d : Document, Fields.Distinct d →
      (∀ name, Fields.contains d name = true ↔ ∃ v, Fields.get? d name = some v) ∧
      (∀ name, name ∈ Fields.keys d ↔ ∃ v, Fields.get? d name = some v) ∧
      d.length = (Fields.keys d).toFinset.card ∧
      (∀ name v, name ∈ Fields.keys d →
        Fields.insert name v d = d.map fun entry => if entry.1 = name then (name, v) else entry) ∧
      ∀ name, Fields.erase d name = d.filter fun entry => entry.1 ≠ name) ∧
    (∀ x, (Value.ofJson x).HasDistinctKeys) ∧
    (∀ v w, Query.sanitize v = .ok w ∨ Query.coerceDates v = .ok w → w.HasDistinctKeys) ∧
    (∀ (σ : Type) (isAllowed : String → Bool) (replace : Value → Query.Walk σ Value),
      (∀ leaf start answer final, leaf.isLeaf = true →
        (replace leaf).run.run start = (.ok answer, final) → answer.HasDistinctKeys) →
      ∀ v start w final, (Query.walk isAllowed replace 0 v).run.run start = (.ok w, final) →
        w.HasDistinctKeys) ∧
    ∀ docs stages rows, (∀ d ∈ docs, (Value.document d).HasDistinctKeys) →
      Pipeline.run docs stages = .ok rows → ∀ row ∈ rows, (Value.document row).HasDistinctKeys := by
  refine ⟨Fields.reflects_edited, fun d distinct => ⟨?_, ?_, ?_, ?_, ?_⟩,
    Value.hasDistinctKeys_ofJson, ?_, ?_, ?_⟩
  · exact fun name => Option.isSome_iff_exists
  · exact fun name => Fields.contains_iff.symm.trans Option.isSome_iff_exists
  · rw [List.toFinset_card_of_nodup distinct, Fields.keys, List.length_map]
  · exact fun name v member => Fields.insert_of_mem distinct member v
  · exact Fields.erase_eq_filter distinct
  · rintro v w (walked | walked)
    · exact Query.runWalk_hasDistinctKeys walked
    · exact Query.runWalk_hasDistinctKeys walked
  · exact fun _ _ _ replies _ _ _ _ walked => Query.walk_hasDistinctKeys replies walked
  · exact fun _ _ _ each ran => Pipeline.run_hasDistinctKeys each ran

/-- The key that was erased and set again comes last. -/
def guestbookEdits : List (Fields.Edit Value) :=
  [.rebuild [("ann", .int 1), ("bea", .int 2), ("ann", .int 3)], .insert "cyd" (.int 4), .erase "ann",
    .insert "ann" (.int 5), .insert "bea" (.int 6)]

def guestbook : Document := [("bea", .int 6), ("cyd", .int 4), ("ann", .int 5)]

/-- Every leaf becomes null. -/
def blank (_ : Value) : Query.Walk Unit Value := pure .null

theorem ordered_maps_guestbook :
    Fields.edited guestbookEdits = guestbook ∧
      Fields.Reflects guestbook (Fields.history guestbookEdits) ∧
      Fields.insert "cyd" .null guestbook =
        guestbook.map (fun entry => if entry.1 = "cyd" then ("cyd", .null) else entry) ∧
      Query.sanitize (.document guestbook) = .ok (.document guestbook) ∧
      (Value.document guestbook).HasDistinctKeys ∧
      (Query.walk (fun _ => true) blank 0 (.array [.document guestbook])).run.run () =
        (.ok (.array [.document [("bea", .null), ("cyd", .null), ("ann", .null)]]), ()) ∧
      (Value.array [.document [("bea", .null), ("cyd", .null), ("ann", .null)]]).HasDistinctKeys ∧
      Pipeline.run [guestbook] [[("$unset", .string "bea")]] =
        .ok [[("cyd", .int 4), ("ann", .int 5)]] ∧
      ∀ row ∈ [[("cyd", Value.int 4), ("ann", .int 5)]], (Value.document row).HasDistinctKeys := by
  obtain ⟨reflects, maps, _, sanitized, walked, ran⟩ := ordered_maps
  have whole : Fields.edited guestbookEdits = guestbook := rfl
  have distinct : Fields.Distinct guestbook := by simp [Fields.Distinct, guestbook]
  have clean : Query.sanitize (.document guestbook) = .ok (.document guestbook) := rfl
  have blanked : (Query.walk (fun _ => true) blank 0 (.array [.document guestbook])).run.run () =
    (.ok (.array [.document [("bea", .null), ("cyd", .null), ("ann", .null)]]), ()) := rfl
  have replies : ∀ leaf start answer final, leaf.isLeaf = true →
      (blank leaf).run.run start = (.ok answer, final) → answer.HasDistinctKeys := by
    rintro _ _ _ _ _ ⟨⟩
    exact Value.hasDistinctKeys_leaf rfl
  have left : Pipeline.run [guestbook] [[("$unset", .string "bea")]] =
    .ok [[("cyd", .int 4), ("ann", .int 5)]] := rfl
  have whole' := sanitized _ _ (.inl clean)
  refine ⟨whole, whole ▸ reflects guestbookEdits, (maps guestbook distinct).2.2.2.1 "cyd" .null ?_,
    clean, whole', blanked, walked Unit _ blank replies _ _ _ _ blanked, left, ran _ _ _ ?_ left⟩
  · decide +kernel
  · intro d member
    cases List.mem_singleton.mp member
    exact whole'

end Document
end PolicyGate
