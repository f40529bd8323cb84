import PolicyGate.Proofs.Pipeline.Selection
import PolicyGate.Proofs.Query.Acceptance
import PolicyGate.Proofs.Store.Seeding

/-!
Runs of calls. A collection holds what seed data gave it and then every batch that was inserted into
it, in this order and nothing else, and the answer to a query is about exactly these documents.
-/
namespace PolicyGate.Store

open Outcomes

/-- The answers to calls that are made one after the other, and the store after them. -/
def run (s : Store) : List Call → List (Except StoreFault Answer) × Store
  | [] => ([], s)
  | call :: rest =>
    let (outcome, next) := s.answer call
    let (outcomes, last) := next.run rest
    (outcome :: outcomes, last)

/-- The documents that a call adds to a collection. -/
def Call.inserted (collection : String) : Call → List Document
  | .insertMany into docs => if into = collection then docs else []
  | _ => []

/-- What collections hold after calls, by what they held before. -/
def held (base : String → List Document) (calls : List Call) (collection : String) : List Document :=
  base collection ++ calls.flatMap (Call.inserted collection)

/-- What may be answered to a call, by what the collections hold. -/
def Answers (holding : String → List Document) : Call → Except StoreFault Answer → Prop
  | .insertMany _ docs, outcome => outcome = .ok (.added docs.length)
  | .find collection filter, outcome =>
    ∃ selected, Pipeline.Selects filter (holding collection) selected ∧ outcome = selected.map .rows
  | .aggregate collection stages, outcome =>
    outcome = (Pipeline.run (holding collection) stages).map .rows

/-- Each call is answered by what was there and what the calls before it inserted, and this is what the
store holds in the end. -/
structure Follows (base : String → List Document) (calls : List Call)
    (result : List (Except StoreFault Answer) × Store) : Prop where
  answered : result.1.length = calls.length
  answers : ∀ i call, calls[i]? = some call → ∃ outcome, result.1[i]? = some outcome ∧
    Answers (held base (calls.take i)) call outcome
  holds : result.2.documents = held base calls

section Runs

variable {base : String → List Document} {s : Store} {call : Call} {calls : List Call}

theorem held_nil : held base [] = base := by
  funext collection
  exact List.append_nil _

theorem held_cons : held base (call :: calls) = held (held base [call]) calls := by
  funext collection
  simp [held]

theorem answer_holds (s : Store) (call : Call) :
    (s.answer call).2.documents = held s.documents [call] := by
  funext collection
  cases call with
  | insertMany into docs =>
    change (s.insertMany into docs).documents collection = _
    rw [documents_insertMany, held, List.flatMap_singleton, Call.inserted]
    split
    · rename_i same
      rw [same]
    · exact (List.append_nil _).symm
  | _ => exact (List.append_nil _).symm

theorem answer_answers (s : Store) (call : Call) : Answers s.documents call (s.answer call).1 := by
  cases call with
  | insertMany into docs =>
    have grown : ((s.insertMany into docs).documents into).length =
        (s.documents into).length + docs.length := by
      rw [documents_insertMany, if_pos rfl, List.length_append]
    change Except.ok (Answer.added (_ - _)) = _
    rw [grown, Nat.add_sub_cancel_left]
  | find collection filter => exact ⟨_, Pipeline.selects_matching filter _, rfl⟩
  | aggregate collection stages => rfl

theorem run_follows (s : Store) (calls : List Call) : Follows s.documents calls (s.run calls) := by
  induction calls generalizing s with
  | nil => exact ⟨rfl, nofun, held_nil.symm⟩
  | cons call rest ih =>
    obtain ⟨answered, answers, holds⟩ := ih (s.answer call).2
    rw [answer_holds] at answers holds
    refine ⟨congrArg Nat.succ answered, ?_, holds.trans held_cons.symm⟩
    intro i later here
    cases i with
    | zero =>
      cases here
      rw [List.take_zero, held_nil]
      exact ⟨_, rfl, answer_answers s call⟩
    | succ i =>
      rw [List.take_succ_cons, held_cons]
      exact answers i later here

end Runs

/-- The stores that can be opened: an empty one, and what seed data describes. -/
def opened : Option Json → Except StoreFault Store
  | none => .ok {}
  | some seed => ofSeed seed

/-- What stands in the array of a collection. -/
def seedItems (collection : String) : String × Json → List Json
  | (name, .array items) => if name = collection then items else []
  | _ => []

def seedOf (collection : String) : Option Json → List Json
  | some (.object members) => members.flatMap (seedItems collection)
  | _ => []

theorem foldlM_seed {members : List (String × Json)} {s t : Store}
    (filled : members.foldlM (fun s (name, content) => s.seedCollection name content) s = .ok t)
    (collection : String) : ∃ docs, t.documents collection = s.documents collection ++ docs ∧
      List.Forall₂ ReadAs (members.flatMap (seedItems collection)) docs := by
  induction members generalizing s with
  | nil =>
    cases filled
    exact ⟨[], (List.append_nil _).symm, .nil⟩
  | cons member rest ih =>
    obtain ⟨name, content⟩ := member
    rw [List.foldlM_cons] at filled
    obtain ⟨next, first, later⟩ := bind_ok.mp filled
    obtain ⟨items, batch, rfl, each, rfl⟩ := seedCollection_ok.mp first
    obtain ⟨docs, final, others⟩ := ih later
    rw [documents_insertMany] at final
    rw [List.flatMap_cons, seedItems]
    by_cases same : name = collection
    · subst same
      rw [if_pos rfl, List.append_assoc] at final
      rw [if_pos rfl]
      exact ⟨_, final, List.rel_append each others⟩
    · rw [if_neg same] at final
      rw [if_neg same]
      exact ⟨docs, final, others⟩

theorem opened_documents {seed : Option Json} {s : Store} (loaded : opened seed = .ok s)
    (collection : String) : List.Forall₂ ReadAs (seedOf collection seed) (s.documents collection) := by
  cases seed with
  | none =>
    cases loaded
    exact .nil
  | some x =>
    cases x with
    | object members =>
      obtain ⟨docs, final, each⟩ := foldlM_seed loaded collection
      rw [final]
      exact each
    | _ => cases loaded

theorem ReadAs.object {x : Json} {d : Document} (read : ReadAs x d) :
    ∃ members, x = .object members := by
  have shape := (Query.coerceDates_ok.mp read).2
  have inner : (Value.ofJson x).isLeaf ≠ true := by
    intro leaf
    have made := Query.dated_isLeaf leaf
    rw [shape] at made
    cases made
  cases x with
  | object members => exact ⟨members, rfl⟩
  | array items => cases shape
  | int n =>
    rw [Value.ofJson, Value.ofInteger] at inner
    split at inner <;> exact absurd rfl inner
  | _ => exact absurd rfl inner

theorem exists_readAs {x : Json} : (∃ d, ReadAs x d) ↔
    (∃ members, x = .object members) ∧ ∃ v, Query.coerceDates (Value.ofJson x) = .ok v := by
  constructor
  · rintro ⟨d, read⟩
    exact ⟨read.object, .document d, read⟩
  · rintro ⟨⟨members, rfl⟩, v, accepted⟩
    obtain ⟨d, rfl⟩ := Query.coerceDates_document accepted
    exact ⟨d, accepted⟩

theorem exists_seedCollection {s : Store} {collection : String} {content : Json} :
    (∃ t, s.seedCollection collection content = .ok t) ↔
      ∃ items, content = .array items ∧ ∀ x ∈ items, ∃ d, ReadAs x d := by
  have each (items : List Json) :
      (∃ docs, List.Forall₂ ReadAs items docs) ↔ ∀ x ∈ items, ∃ d, ReadAs x d := by
    simp only [← @seedDocument_ok collection, ← exists_mapM_ok, mapM_ok]
    simp only [seedDocument_ok]
  simp only [seedCollection_ok, ← each]
  constructor
  · rintro ⟨_, items, docs, shape, read, _⟩
    exact ⟨items, shape, docs, read⟩
  · rintro ⟨items, shape, docs, read⟩
    exact ⟨_, items, docs, shape, read, rfl⟩

theorem exists_foldlM_seed {members : List (String × Json)} {s : Store} :
    (∃ t, members.foldlM (fun s (name, content) => s.seedCollection name content) s = .ok t) ↔
      ∀ member ∈ members, ∃ items, member.2 = .array items ∧ ∀ x ∈ items, ∃ d, ReadAs x d := by
  induction members generalizing s with
  | nil => exact ⟨fun _ => nofun, fun _ => ⟨s, rfl⟩⟩
  | cons member rest ih =>
    rw [List.forall_mem_cons, ← @exists_seedCollection s member.1,
      List.foldlM_cons]
    constructor
    · rintro ⟨t, filled⟩
      obtain ⟨next, first, later⟩ := bind_ok.mp filled
      exact ⟨⟨next, first⟩, ih.mp ⟨t, later⟩⟩
    · rintro ⟨⟨next, first⟩, later⟩
      obtain ⟨t, filled⟩ := ih.mpr later
      exact ⟨t, bind_ok.mpr ⟨next, first, filled⟩⟩

theorem exists_ofSeed {seed : Json} : (∃ s, ofSeed seed = .ok s) ↔
    ∃ members, seed = .object members ∧ ∀ member ∈ members, ∃ items, member.2 = .array items ∧
      ∀ x ∈ items, (∃ fields, x = .object fields) ∧
        ∃ v, Query.coerceDates (Value.ofJson x) = .ok v := by
  simp only [← exists_readAs]
  constructor
  · rintro ⟨s, loaded⟩
    cases seed with
    | object members => exact ⟨members, rfl, exists_foldlM_seed.mp ⟨s, loaded⟩⟩
    | _ => cases loaded
  · rintro ⟨members, rfl, each⟩
    exact exists_foldlM_seed.mpr each

/-- A collection is left alone by calls that insert nothing into it. -/
theorem held_of_untouched {base : String → List Document} {calls : List Call} {collection : String}
    (untouched : ∀ call ∈ calls, ∀ docs, call ≠ .insertMany collection docs) :
    held base calls collection = base collection := by
  have none : calls.flatMap (Call.inserted collection) = [] := by
    refine List.flatMap_eq_nil_iff.mpr fun call member => ?_
    cases call with
    | insertMany into docs =>
      refine if_neg ?_
      rintro rfl
      exact untouched _ member docs rfl
    | _ => rfl
  rw [held, none, List.append_nil]

theorem find_eq_aggregate (s : Store) (collection : String) (filter : Document) :
    s.find collection filter = s.aggregate collection [[("$match", .document filter)]] := by
  have single : s.aggregate collection [[("$match", .document filter)]] =
      Pipeline.matching filter (s.documents collection) >>= .ok := List.foldlM_cons
  rw [single]
  exact (bind_pure (Pipeline.matching filter (s.documents collection))).symm

/-- A store neither loses, nor duplicates, nor mixes documents: whatever is called, its collections hold
the documents they were opened with and then the inserted batches, and each call is answered by what was
inserted before it. Seed data opens a store exactly if it is an object of arrays of readable objects. -/
theorem documents_kept :
    (∀ seed s, opened seed = .ok s → ∃ base : String → List Document,
      (∀ collection, List.Forall₂ ReadAs (seedOf collection seed) (base collection)) ∧
        ∀ calls, Follows base calls (s.run calls)) ∧
    (∀ (s : Store) collection filter,
      s.find collection filter = s.aggregate collection [[("$match", .document filter)]]) ∧
    (∀ (s : Store) calls collection, (∀ call ∈ calls, ∀ docs, call ≠ .insertMany collection docs) →
      (∀ filter, (s.run calls).2.find collection filter = s.find collection filter) ∧
        ∀ stages, (s.run calls).2.aggregate collection stages = s.aggregate collection stages) ∧
    ∀ seed, (∃ s, ofSeed seed = .ok s) ↔
      ∃ members, seed = .object members ∧ ∀ member ∈ members, ∃ items, member.2 = .array items ∧
        ∀ x ∈ items, (∃ fields, x = .object fields) ∧
          ∃ v, Query.coerceDates (Value.ofJson x) = .ok v := by
  refine ⟨?_, find_eq_aggregate, ?_, fun _ => exists_ofSeed⟩
  · intro seed s loaded
    exact ⟨s.documents, opened_documents loaded, run_follows s⟩
  · intro s calls collection untouched
    have same : (s.run calls).2.documents collection = s.documents collection := by
      rw [(run_follows s calls).holds, held_of_untouched untouched]
    refine ⟨fun filter => ?_, fun stages => ?_⟩
    · rw [find, find, same]
    · rw [aggregate, aggregate, same]

def larderSeed : Json :=
  .object [("fruit", .array [.object [("name", .string "fig")]]), ("tools", .array [])]

def larder : Store := ⟨[("fruit", [[("name", .string "fig")]]), ("tools", [])]⟩

def larderCalls : List Call :=
  [.insertMany "fruit" [[("name", .string "plum")], [("name", .string "fig")]],
    .insertMany "tools" [[("name", .string "fig")]], .find "fruit" [("name", .string "fig")]]

theorem documents_kept_larder :
    opened (some larderSeed) = .ok larder ∧
      (∃ base : String → List Document,
        (∀ collection, List.Forall₂ ReadAs (seedOf collection larderSeed) (base collection)) ∧
          Follows base larderCalls (larder.run larderCalls)) ∧
      (larder.run larderCalls).1 =
        [.ok (.added 2), .ok (.added 1),
          .ok (.rows [[("name", .string "fig")], [("name", .string "fig")]])] ∧
      (larder.run larderCalls.tail).2.find "fruit" [] = larder.find "fruit" [] := by
  obtain ⟨kept, _, untouched, _⟩ := documents_kept
  have loaded : opened (some larderSeed) = .ok larder := rfl
  obtain ⟨base, seeded, follows⟩ := kept _ _ loaded
  refine ⟨loaded, ⟨base, seeded, follows larderCalls⟩, rfl, (untouched larder _ "fruit" ?_).1 []⟩
  simp [larderCalls]

end PolicyGate.Store
