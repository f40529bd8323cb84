import PolicyGate.Gateway.Fault
import PolicyGate.Proofs.Grants.Lookup

/-!
Faults of the lookup of grants. A record that does not decode and a predicate that cannot be evaluated
are the administrator's fault, of which a client is told nothing. A predicate whose dates cannot be
read is reported as if the client had sent it.
-/
namespace PolicyGate

open Outcomes

def StoreFault.InRecord (collection : String) (fault : StoreFault) : Prop :=
  ∃ reason, fault = .invalidRecord collection reason

theorem Document.requireString_error {collection : String} {d : Document} {field : String}
    {fault : StoreFault} (failed : d.requireString collection field = .error fault) :
    fault.InRecord collection := by
  unfold requireString at failed
  split at failed <;> cases failed
  exact ⟨_, rfl⟩

namespace Grant

variable {collection : String} {d : Document} {fault : StoreFault}

theorem decodePredicate_error {text : String}
    (failed : decodePredicate collection text = .error fault) : fault.InRecord collection := by
  unfold decodePredicate at failed
  split at failed
  · cases failed
    exact ⟨_, rfl⟩
  · split at failed <;> cases failed
    exact ⟨_, rfl⟩

theorem predicateOf_error (failed : predicateOf collection d = .error fault) :
    fault.InRecord collection := by
  unfold predicateOf at failed
  split at failed
  · cases failed
  · exact decodePredicate_error failed
  all_goals
    cases failed
    exact ⟨_, rfl⟩

theorem rowLimitOf_error (failed : rowLimitOf collection d = .error fault) :
    fault.InRecord collection := by
  unfold rowLimitOf at failed
  split at failed
  · cases failed
  · cases failed
  · split at failed
    · split at failed <;> cases failed
      exact ⟨_, rfl⟩
    · cases failed
      exact ⟨_, rfl⟩

theorem ofDocument_error (failed : ofDocument collection d = .error fault) :
    fault.InRecord collection := by
  rw [ofDocument] at failed
  rcases bind_error.mp failed with unnamed | ⟨_, _, failed⟩
  · exact Document.requireString_error unnamed
  rcases bind_error.mp failed with unpacked | ⟨_, _, failed⟩
  · exact Document.requireString_error unpacked
  rcases bind_error.mp failed with unstated | ⟨_, _, failed⟩
  · exact predicateOf_error unstated
  rcases bind_error.mp failed with unlimited | ⟨_, _, failed⟩
  · exact rowLimitOf_error unlimited
  · cases failed

end Grant

namespace Registry

variable (r : Registry) (s : Store) {table : String} {packages : List String}

/-- In memory only the records can be at fault: the search itself never fails. -/
theorem storedGrants_error {fault : QueryFault}
    (failed : (r.withStore s).storedGrants table packages = .error fault) :
    ∃ cause, cause.InRecord r.grantCollection ∧ fault = .store cause := by
  rw [storedGrants] at failed
  obtain ⟨cause, inside, rfl⟩ := mapError_error.mp failed
  rcases bind_error.mp inside with unsearched | ⟨docs, _, undecoded⟩
  · have searched := find_scopedFilter s r.grantCollection (.inl rfl) table packages
    cases unsearched.symm.trans searched
  · obtain ⟨_, d, _, _, _, undecoded⟩ := mapM_error.mp undecoded
    exact ⟨cause, Grant.ofDocument_error undecoded, rfl⟩

theorem grants_error {fault : QueryFault}
    (failed : (r.withStore s).grants table packages = .error fault) :
    fault = .accessDenied ∨
      (∃ cause, cause.InRecord r.grantCollection ∧ fault = .store cause) ∨
      ∃ before g after, (r.withStore s).storedGrants table packages = .ok (before ++ g :: after) ∧
        (∀ h ∈ before, ∃ prepared, (r.withStore s).prepare h = .ok prepared) ∧
        Query.coerceDates (.document g.predicate) = .error fault := by
  rw [grants] at failed
  rcases bind_error.mp failed with unfound | ⟨stored, found, failed⟩
  · exact .inr (.inl (r.storedGrants_error s unfound))
  · split at failed
    · cases failed
      exact .inl rfl
    · obtain ⟨before, g, after, rfl, passed, unprepared⟩ := mapM_error.mp failed
      rcases (r.withStore s).prepare_error unprepared with unread | ⟨_, reason, rfl⟩
      · exact .inr (.inr ⟨before, g, after, found, passed, unread⟩)
      · exact .inr (.inl ⟨_, ⟨reason, rfl⟩, rfl⟩)

theorem grants_of_unreadable {before after : List Grant} {g : Grant} {fault : QueryFault}
    (found : r.storedGrants table packages = .ok (before ++ g :: after))
    (passed : ∀ h ∈ before, ∃ prepared, r.prepare h = .ok prepared)
    (unread : Query.coerceDates (.document g.predicate) = .error fault) :
    r.grants table packages = .error fault := by
  have unprepared : r.prepare g = .error fault := bind_error.mpr (.inl unread)
  rw [grants, found]
  change (if (before ++ g :: after).isEmpty = true then throw .accessDenied
    else (before ++ g :: after).mapM r.prepare) = _
  rw [if_neg (by simp)]
  exact mapM_error.mpr ⟨before, g, after, rfl, passed, unprepared⟩

/-- A failed lookup puts the blame on the client exactly if, of the stored grants, the first that
cannot be prepared has a predicate that cannot be read. Every other failure is a denial or a fault of
the server, of which the client is told the same whatever is stored. -/
theorem client_blamed_iff (table : String) (packages : List String) :
    ((∃ fault, (r.withStore s).grants table packages = .error fault ∧ fault.status = 400) ↔
      ∃ before g after, (r.withStore s).storedGrants table packages = .ok (before ++ g :: after) ∧
        (∀ h ∈ before, ∃ prepared, (r.withStore s).prepare h = .ok prepared) ∧
        Query.Unreadable (.document g.predicate)) ∧
      ∀ fault, (r.withStore s).grants table packages = .error fault → fault.status ≠ 400 →
        fault = .accessDenied ∨
          (∃ cause, fault = .store cause) ∧ fault.status = 500 ∧
            (GatewayFault.query fault).clientMessage = "Internal server error" := by
  constructor
  · constructor
    · rintro ⟨fault, failed, blamed⟩
      rcases r.grants_error s failed with rfl | ⟨_, ⟨reason, rfl⟩, rfl⟩ | unreadable
      · cases blamed
      · cases blamed
      · obtain ⟨before, g, after, found, passed, unread⟩ := unreadable
        exact ⟨before, g, after, found, passed, Query.unreadable_iff.mpr ⟨fault, unread⟩⟩
    · rintro ⟨before, g, after, found, passed, unreadable⟩
      obtain ⟨fault, unread⟩ := Query.unreadable_iff.mp unreadable
      obtain ⟨_, _, _, objection⟩ := Query.coerceDates_error unread
      exact ⟨fault, (r.withStore s).grants_of_unreadable found passed unread, objection.status⟩
  · intro fault failed spared
    rcases r.grants_error s failed with rfl | ⟨_, ⟨reason, rfl⟩, rfl⟩ | unreadable
    · exact .inl rfl
    · exact .inr ⟨⟨_, rfl⟩, rfl, rfl⟩
    · obtain ⟨_, _, _, _, _, unread⟩ := unreadable
      obtain ⟨_, _, _, objection⟩ := Query.coerceDates_error unread
      exact absurd objection.status spared

def misdatedStore : Store :=
  ⟨[("security", [[("table", .string "people"), ("package", .string "gold"),
    ("pre", .string "\x7b\"since\": \"#soon#\"\x7d")]])]⟩

/-- The client is blamed for the administrator's mistake, and gets to see a text of the predicate. -/
theorem misdated_grant_blames_client :
    grants { backend := misdatedStore.backend } "people" ["gold"] =
        .error (.invalidDateLiteral "#soon#") ∧
      (QueryFault.invalidDateLiteral "#soon#").status = 400 ∧
      (GatewayFault.query (.invalidDateLiteral "#soon#")).clientMessage =
        "Invalid date literal: #soon#" :=
  ⟨fault?_eq_some.mp (by decide +kernel), rfl, by decide +kernel⟩

def unmatchableStore : Store :=
  ⟨[("security", [[("table", .string "people"), ("package", .string "gold"),
    ("predicate", .document [("ssn", .document [("$regex", .string "^(SECRET")])])]])]⟩

theorem client_blamed_iff_unmatchable :
    ∃ fault, grants { backend := unmatchableStore.backend } "people" ["gold"] = .error fault ∧
      (GatewayFault.query fault).clientMessage = "Internal server error" := by
  have failed : fault? (grants { backend := unmatchableStore.backend } "people" ["gold"]) =
      some (.store (.invalidRecord "security"
        "predicate for table 'people' package 'gold' is invalid")) := by
    decide +kernel
  refine ⟨_, fault?_eq_some.mp failed, ?_⟩
  have spared := (client_blamed_iff { backend := unmatchableStore.backend } unmatchableStore "people"
    ["gold"]).2 _ (fault?_eq_some.mp failed) (by decide)
  rcases spared with denied | ⟨_, _, told⟩
  · cases denied
  · exact told

end Registry
end PolicyGate
