import PolicyGate.Proofs.Gateway.Authentication
import PolicyGate.Proofs.Gateway.Noninterference

/-!
Callers without a grant. Where the lookup finds no grant, every query is denied, and the denial tells
nothing of the store: neither whether there is such a table nor what else is kept.
-/
namespace PolicyGate

open Outcomes

namespace Registry

variable (r : Registry) (s : Store) (table : String) (packages : List String)

/-- No record of a grant matches the lookup. -/
def Ungranted : Prop :=
  ∀ d ∈ s.documents r.grantCollection,
    Filter.holds d (scopedFilter "table" table packages) ≠ .ok true

variable {r s table packages}

theorem storedGrants_ungranted (ungranted : r.Ungranted s table packages) :
    (r.withStore s).storedGrants table packages = .ok [] := by
  have found : s.find r.grantCollection (scopedFilter "table" table packages) = .ok [] := by
    rw [find_scopedFilter s r.grantCollection (.inl rfl), List.filter_eq_nil_iff.mpr]
    intro d member accepted
    exact ungranted d member (Filter.accepts_iff.mp accepted)
  rw [storedGrants]
  change (s.find r.grantCollection (scopedFilter "table" table packages) >>= _).mapError _ = _
  rw [found]
  rfl

theorem grants_ungranted (ungranted : r.Ungranted s table packages) :
    (r.withStore s).grants table packages = .error .accessDenied := by
  rw [Registry.grants, storedGrants_ungranted ungranted]
  rfl

end Registry

namespace Query

/-- The denial comes before the mappings are looked up and before the query is read. -/
theorem compile_ungranted {r : Registry} {s : Store} {table : String} {packages : List String}
    (ungranted : r.Ungranted s table packages) (enforceRowLimit : Bool) (query : Option Value) :
    compile (r.withStore s) enforceRowLimit table packages query = .error .accessDenied := by
  rw [compile, Registry.grants_ungranted ungranted]
  rfl

end Query

namespace Gateway

variable {g : Gateway} {s : Store} {table : String} {now : Timestamp} {request : Http.Request}
  {caller : Caller}

theorem answerRows_ungranted (ungranted : g.registry.Ungranted s table caller.packages)
    (known : g.authenticate now request.headers = .ok caller) {query : Option Value}
    (read : readQuery request.body = .ok query) :
    (g.withStore s).answerRows now request.headers request.body table =
      .error (.query .accessDenied) := by
  have same : (g.withStore s).authenticate now request.headers = .ok caller := known
  have denied : (g.withStore s).rows caller table query = .error (.query .accessDenied) := by
    rw [rows_withStore, Query.compile_ungranted ungranted]
    rfl
  rw [answerRows, same, read]
  change (g.withStore s).rows caller table query >>= _ = _
  rw [denied]
  rfl

theorem answerGrants_known (known : g.authenticate now request.headers = .ok caller) :
    (g.withStore s).answerGrants now request.headers table =
      (((g.registry.withStore s).storedGrants table caller.packages).mapError .query >>= fun stored =>
        if stored.isEmpty then .error (.query .accessDenied)
        else .ok (.array (stored.map grantBody))) := by
  have same : (g.withStore s).authenticate now request.headers = .ok caller := known
  rw [answerGrants, same]
  rfl

theorem answerGrants_ungranted (ungranted : g.registry.Ungranted s table caller.packages)
    (known : g.authenticate now request.headers = .ok caller) :
    (g.withStore s).answerGrants now request.headers table = .error (.query .accessDenied) := by
  rw [answerGrants_known known, Registry.storedGrants_ungranted ungranted]
  rfl

theorem refuses_ungranted {route : Route} {spelt : List Char}
    (asked : route = .rows spelt ∨ route = .grants spelt)
    (ungranted : g.registry.Ungranted s table caller.packages)
    (known : g.authenticate now request.headers = .ok caller) {query : Option Value}
    (read : readQuery request.body = .ok query) :
    Refuses (g.withStore s) now request table (.query .accessDenied) route := by
  rcases asked with rfl | rfl
  · exact answerRows_ungranted ungranted known read
  · exact answerGrants_ungranted ungranted known

/-- Where no grant is found, nothing compiles, and two stores cannot be told apart by what a known caller
is told of the rows and the grants of the table. -/
theorem denial_reveals_nothing (g : Gateway) {s t : Store} {table : String} {packages : List String}
    (noneHere : g.registry.Ungranted s table packages)
    (noneThere : g.registry.Ungranted t table packages) :
    (∀ store ∈ [s, t], ∀ enforceRowLimit query,
        Query.compile (g.registry.withStore store) enforceRowLimit table packages query =
          .error .accessDenied) ∧
      ∀ policy now request path route spelt caller query,
        Reaches request path route table → (route = .rows spelt ∨ route = .grants spelt) →
        g.authenticate now request.headers = .ok caller → caller.packages = packages →
        readQuery request.body = .ok query →
          ∃ response, serve (g.withStore s) policy now request path = some response ∧
            serve (g.withStore t) policy now request path = some response ∧
            response.status = 403 := by
  constructor
  · intro store member enforceRowLimit query
    have ungranted : g.registry.Ungranted store table packages := by
      rcases List.mem_pair.mp member with rfl | rfl
      · exact noneHere
      · exact noneThere
    exact Query.compile_ungranted ungranted enforceRowLimit query
  · rintro policy now request path route spelt caller query reached asked known rfl read
    have here := refuses_ungranted asked noneHere known read
    have there := refuses_ungranted asked noneThere known read
    refine ⟨_, serve_refused policy reached here, serve_refused policy reached there, ?_⟩
    exact refusal_status policy request _

/-- Rows of the table, mappings for it to two collections, and grants that are not for gold. -/
def closedStore : Store :=
  ⟨[("people", [[("name", .string "Ann")]]),
    ("meta",
      [[("api", .string "people"), ("package", .string "gold"), ("collection", .string "a")],
        [("api", .string "people"), ("package", .string "gold"), ("collection", .string "b")]]),
    ("security",
      [[("table", .string "people"), ("package", .string "silver"), ("pre", .document [])],
        [("table", .string "orders"), ("package", .array [.string "gold"])]])]⟩

def unsafeQuery : List UInt8 := Text.encodeUtf8 "\x7b\"$where\": 1\x7d".toList

theorem denial_reveals_nothing_closed :
    let g : Gateway := { registry := { backend := closedStore.backend } }
    let request : Http.Request :=
      ⟨"POST", "/api/people", [("authorization", "Bearer " ++ goldToken)], unsafeQuery⟩
    (∀ query, Query.compile (g.registry.withStore closedStore) true "people" ["gold"] query =
        .error .accessDenied) ∧
      ∃ response,
        serve (g.withStore {}) .any ⟨1700000000, 5⟩ request "/api/people".toList = some response ∧
        serve (g.withStore closedStore) .any ⟨1700000000, 5⟩ request "/api/people".toList =
          some response ∧
        response.status = 403 := by
  intro g request
  have noneHere : g.registry.Ungranted {} "people" ["gold"] := by
    intro d member
    cases member
  have noneThere : g.registry.Ungranted closedStore "people" ["gold"] := by
    unfold Registry.Ungranted
    decide +kernel
  have known : g.authenticate ⟨1700000000, 5⟩ request.headers = .ok ⟨"ann", ["gold"]⟩ :=
    authenticate_goldToken rfl rfl rfl
  have readable : (readQuery unsafeQuery).toOption.isSome = true := by decide +kernel
  obtain ⟨query, read⟩ := toOption_isSome.mp readable
  have reached : Reaches request "/api/people".toList (.rows "people".toList) "people" :=
    ⟨by decide +kernel, by decide +kernel, by simp [Route.methods, request], by decide +kernel⟩
  obtain ⟨denied, alike⟩ := denial_reveals_nothing g noneHere noneThere
  refine ⟨denied closedStore (by simp) true, ?_⟩
  exact alike .any ⟨1700000000, 5⟩ request _ _ _ _ query reached (.inl rfl) known rfl read

end Gateway
end PolicyGate
