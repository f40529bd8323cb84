import PolicyGate.Proofs.Grants.Lookup

/-!
Which records a lookup concerns. The records of other tables and packages have no part in it, whatever
they hold: the grants that are found are those that the records of the table and the packages decode to.
-/
namespace PolicyGate

/-- The value is the name, or a list in which the name stands. -/
def Value.names (v : Value) (name : String) : Bool :=
  match v with
  | .string s => s == name
  | .array items => items.any fun item => item.string? == some name
  | _ => false

/-- The record has the value under the key, and one of the packages. -/
def Document.concerns (key value : String) (packages : List String) (d : Document) : Bool :=
  (Fields.get? d key).any (·.names value) &&
    packages.any fun package => (Fields.get? d "package").any (·.names package)

namespace Filter

theorem alike_string (v : Value) (s : String) :
    v.alike (.string s) = (v.string? == some s) := by
  cases v <;> simp [Value.alike, Value.isNumber, Value.rank, Value.same, Value.string?]

theorem equals_string (actual : Option Value) (s : String) :
    equals actual (.string s) = actual.any (·.names s) := by
  cases actual with
  | none => rfl
  | some v =>
    cases v with
    | array items => simp [equals, Value.names, Value.array?, alike_string]
    | _ => simp [equals, Value.names, alike_string, Value.string?]

theorem fieldHolds_isIn (actual : Option Value) (candidates : List Value) :
    fieldHolds actual (.document [("$in", .array candidates)]) =
      .ok (candidates.any (equals actual)) := by
  have named : isOperators [("$in", Value.array candidates)] = true := rfl
  have proper : ("$in" : String) ≠ "$options" := by decide
  have plain : ("$in" : String) ≠ "$not" := by decide
  rw [fieldHolds, if_pos named, operatorsHold, if_neg proper, operatorHolds_plain plain, appliesTo,
    isIn]
  cases candidates.any (equals actual) <;> rfl

/-- A field of the record itself, compared with a name. -/
theorem entryHolds_string {key : String} (field : ¬ IsConnective key)
    (named : isOperatorName key = false) (plain : '.' ∉ key.toList) (d : Document) (value : String) :
    entryHolds d key (.string value) = .ok ((Fields.get? d key).any (·.names value)) := by
  rw [entryHolds_field field named, d.resolve?_plain plain, ← equals_string]
  rfl

theorem entryHolds_anyOf {key : String} (field : ¬ IsConnective key)
    (named : isOperatorName key = false) (plain : '.' ∉ key.toList) (d : Document)
    (names : List String) :
    entryHolds d key (.document [("$in", .array (names.map Value.string))]) =
      .ok (names.any fun name => (Fields.get? d key).any (·.names name)) := by
  rw [entryHolds_field field named, d.resolve?_plain plain, fieldHolds_isIn, List.any_map]
  congr 2
  funext name
  exact equals_string _ name

theorem accepts_scopedFilter {key : String} (field : key = "table" ∨ key = "api") (value : String)
    (packages : List String) (d : Document) :
    accepts (Registry.scopedFilter key value packages) d = d.concerns key value packages := by
  have entries : Registry.scopedFilter key value packages =
      [(key, .string value),
        ("package", .document [("$in", .array (packages.map Value.string))])] := by
    rcases field with rfl | rfl <;> rfl
  have first : entryHolds d key (.string value) =
      .ok ((Fields.get? d key).any (·.names value)) := by
    rcases field with rfl | rfl
    · exact entryHolds_string (by decide) (by decide) (by decide) d value
    · exact entryHolds_string (by decide) (by decide) (by decide) d value
  have second := @entryHolds_anyOf "package" (by decide) (by decide) (by decide) d packages
  rw [accepts, entries, holds, first, Document.concerns]
  cases (Fields.get? d key).any (·.names value) with
  | false => rfl
  | true =>
    dsimp only
    rw [holds, second, Bool.true_and]
    cases packages.any fun package => (Fields.get? d "package").any (·.names package) <;> rfl

end Filter

namespace Document

theorem requireString_ok {collection : String} {d : Document} {field s : String} :
    d.requireString collection field = .ok s ↔ Fields.get? d field = some (.string s) := by
  unfold requireString
  split
  · rename_i given
    simp [given]
  · rename_i other
    constructor
    · intro h
      cases h
    · intro given
      exact absurd given (other s)

end Document

namespace Grant

theorem ofDocument_ok {collection : String} {d : Document} {g : Grant} :
    ofDocument collection d = .ok g ↔
      Fields.get? d "table" = some (.string g.table) ∧
      Fields.get? d "package" = some (.string g.package) ∧
      predicateOf collection d = .ok g.predicate ∧ rowLimitOf collection d = .ok g.rowLimit := by
  rw [ofDocument]
  simp only [Outcomes.bind_ok, Document.requireString_ok]
  constructor
  · rintro ⟨table, ht, package, hp, predicate, hr, rowLimit, hl, h⟩
    cases h
    exact ⟨ht, hp, hr, hl⟩
  · rintro ⟨ht, hp, hr, hl⟩
    exact ⟨_, ht, _, hp, _, hr, _, hl, rfl⟩

/-- A record that decodes has one table and one package, so it concerns a lookup by these alone. -/
theorem scope_of_concerns {collection table : String} {packages : List String} {d : Document}
    {g : Grant} (decoded : ofDocument collection d = .ok g)
    (concerned : d.concerns "table" table packages = true) :
    g.table = table ∧ g.package ∈ packages := by
  obtain ⟨ht, hp, _, _⟩ := ofDocument_ok.mp decoded
  simpa [Document.concerns, ht, hp, Value.names] using concerned

end Grant

namespace Registry

variable (r : Registry) (table : String) (packages : List String)

/-- The records for the table and the packages, in the order in which they are stored. -/
def records (s : Store) : List Document :=
  (s.documents r.grantCollection).filter (Document.concerns "table" table packages)

theorem storedGrants_eq (s : Store) :
    (r.withStore s).storedGrants table packages =
      ((r.records table packages s).mapM (Grant.ofDocument r.grantCollection)).mapError .store := by
  have same : Filter.accepts (scopedFilter "table" table packages) =
      Document.concerns "table" table packages := by
    funext d
    exact Filter.accepts_scopedFilter (.inl rfl) table packages d
  have found := find_scopedFilter s r.grantCollection (.inl rfl) table packages
  rw [same] at found
  rw [storedGrants]
  change (s.find r.grantCollection (scopedFilter "table" table packages) >>= _).mapError _ = _
  rw [found]
  rfl

/-- A lookup finds what the records for the table and the packages decode to, and fails if one of them
does not decode. Whatever else is stored makes no difference. -/
theorem storedGrants_exact (r : Registry) (table : String) (packages : List String) (s : Store) :
    ((∃ grants, (r.withStore s).storedGrants table packages = .ok grants) ↔
        ∀ d ∈ r.records table packages s, ∃ g, Grant.ofDocument r.grantCollection d = .ok g) ∧
      (∀ grants, (r.withStore s).storedGrants table packages = .ok grants →
        List.Forall₂ (fun d g => Grant.ofDocument r.grantCollection d = .ok g)
            (r.records table packages s) grants ∧
          ∀ g ∈ grants, g.table = table ∧ g.package ∈ packages) ∧
      ∀ t, r.records table packages s = r.records table packages t →
        (r.withStore s).storedGrants table packages =
          (r.withStore t).storedGrants table packages := by
  refine ⟨?_, ?_, ?_⟩
  · simp only [storedGrants_eq, Outcomes.mapError_ok]
    exact Outcomes.exists_mapM_ok
  · intro grants found
    rw [storedGrants_eq, Outcomes.mapError_ok] at found
    have decoded := Outcomes.mapM_ok.mp found
    refine ⟨decoded, ?_⟩
    intro g member
    obtain ⟨d, stored, made⟩ := Outcomes.exists_of_mem_right decoded member
    exact Grant.scope_of_concerns made (List.mem_filter.mp stored).2
  · intro t same
    rw [storedGrants_eq, storedGrants_eq, same]

def goldRecord : Document :=
  [("package", .string "gold"), ("table", .string "people"), ("pre", .string "\x7b\x7d"),
    ("limit", .double (.ofInt 3))]

/-- Beside the record for gold stand one of another table that does not decode, and one of another
package. -/
def crowdedStore : Store :=
  ⟨[("security",
    [[("table", .string "orders"), ("package", .array [.string "gold"])], goldRecord,
      [("table", .string "people"), ("package", .string "silver")]])]⟩

theorem storedGrants_exact_crowded :
    let r : Registry := { backend := crowdedStore.backend }
    let alone : Store := ⟨[("security", [goldRecord])]⟩
    r.records "people" ["iron", "gold"] crowdedStore = [goldRecord] ∧
      (r.withStore crowdedStore).storedGrants "people" ["iron", "gold"] =
        (r.withStore alone).storedGrants "people" ["iron", "gold"] ∧
      ∃ grants, (r.withStore crowdedStore).storedGrants "people" ["iron", "gold"] = .ok grants ∧
        grants.length = 1 ∧ ∀ g ∈ grants, g.table = "people" ∧ g.package ∈ ["iron", "gold"] := by
  intro r alone
  have concerned : r.records "people" ["iron", "gold"] crowdedStore = [goldRecord] := rfl
  have decodes : ∃ g, Grant.ofDocument "security" goldRecord = .ok g := by
    have passed : (Grant.ofDocument "security" goldRecord).toOption.isSome = true := by
      decide +kernel
    obtain ⟨g, made⟩ := Option.isSome_iff_exists.mp passed
    exact ⟨g, Outcomes.toOption_eq_some.mp made⟩
  obtain ⟨succeeds, finds, same⟩ :=
    storedGrants_exact r "people" ["iron", "gold"] crowdedStore
  refine ⟨concerned, same alone concerned, ?_⟩
  obtain ⟨grants, found⟩ := succeeds.mpr (by rw [concerned]; simpa using decodes)
  obtain ⟨decoded, within⟩ := finds grants found
  rw [concerned] at decoded
  exact ⟨grants, found, decoded.length_eq.symm, within⟩

end Registry
end PolicyGate
