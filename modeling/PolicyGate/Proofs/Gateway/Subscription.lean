import PolicyGate.Proofs.Gateway.Denial
import PolicyGate.Proofs.Grants.Faults
import PolicyGate.Proofs.Grants.Packages
import PolicyGate.Proofs.Query.Redirection

/-!
What a caller is shown of the grants for a table. It is shown exactly if queries of the table are not
denied, in the order in which the grants apply, and it is the same whatever the predicates are.
-/
namespace PolicyGate

open Outcomes

namespace Registry

variable {r : Registry} {s : Store} {table : String} {packages : List String}

theorem grants_denied_iff :
    (r.withStore s).grants table packages = .error .accessDenied ↔
      (r.withStore s).storedGrants table packages = .ok [] := by
  constructor
  · intro denied
    rw [grants] at denied
    rcases bind_error.mp denied with unfound | ⟨stored, found, denied⟩
    · obtain ⟨cause, _, other⟩ := r.storedGrants_error s unfound
      cases other
    split at denied
    · rename_i empty
      rwa [List.isEmpty_iff.mp empty] at found
    · obtain ⟨_, g, _, _, _, unprepared⟩ := mapM_error.mp denied
      rcases (r.withStore s).prepare_error unprepared with unread | ⟨_, reason, other⟩
      · obtain ⟨_, _, _, objection⟩ := Query.coerceDates_error unread
        cases objection
      · cases other
  · intro none
    rw [grants, none]
    rfl

end Registry

namespace Query

theorem assemble_not_denied {grants : List Grant} (granted : grants ≠ []) (query : Option Value)
    (enforceRowLimit : Bool) : assemble grants query enforceRowLimit ≠ .error .accessDenied := by
  intro denied
  rw [assemble, if_neg (by simpa using granted)] at denied
  rcases bind_error.mp denied with unclean | ⟨clean, _, denied⟩
  · obtain ⟨_, _, _, objection⟩ := sanitize_error unclean
    cases objection
  rcases bind_error.mp denied with unstaged | ⟨_, _, denied⟩
  · obtain ⟨_, other⟩ := stages_error unstaged
    cases other
  · cases denied

/-- Whether a query is denied does not depend on the query. -/
theorem compile_denied_iff {r : Registry} {s : Store} {table : String} {packages : List String}
    (enforceRowLimit : Bool) (query : Option Value) :
    compile (r.withStore s) enforceRowLimit table packages query = .error .accessDenied ↔
      (r.withStore s).storedGrants table packages = .ok [] := by
  rw [← Registry.grants_denied_iff]
  constructor
  · intro denied
    -- A caller with a grant may meet a fault of the store or of the query, but no denial.
    rw [compile] at denied
    rcases bind_error.mp denied with ungranted | ⟨grants, granted, denied⟩
    · exact ungranted
    rcases bind_error.mp denied with unresolved | ⟨_, _, denied⟩
    · obtain ⟨_, other⟩ := r.resolve_error table packages unresolved
      cases other
    rcases bind_error.mp denied with unassembled | ⟨_, _, denied⟩
    · have some := (r.withStore s).grants_ne_nil table granted
      exact absurd unassembled (assemble_not_denied some query enforceRowLimit)
    · cases denied
  · intro ungranted
    rw [compile, ungranted]
    rfl

end Query

/-- The records agree on every field that is not for a predicate. -/
def Document.AlikeButPredicate (d e : Document) : Prop :=
  ∀ field, field ≠ "predicate" → field ≠ "pre" → Fields.get? d field = Fields.get? e field

namespace Gateway

variable {g : Gateway} {s : Store} {now : Timestamp} {request : Http.Request} {path : List Char}
  {spelt : List Char} {table : String} {caller : Caller}

theorem answerGrants_of_found (known : g.authenticate now request.headers = .ok caller)
    {stored : List Grant}
    (found : (g.registry.withStore s).storedGrants table caller.packages = .ok stored) :
    (g.withStore s).answerGrants now request.headers table =
      if stored.isEmpty then .error (.query .accessDenied) else .ok (.array (stored.map grantBody)) := by
  rw [answerGrants_known known, found]
  rfl

theorem reply_denied_iff (known : g.authenticate now request.headers = .ok caller)
    (policy : OriginPolicy) :
    (reply policy request ((g.withStore s).answerGrants now request.headers table)).status = 403 ↔
      (g.registry.withStore s).storedGrants table caller.packages = .ok [] := by
  rw [reply_status]
  cases found : (g.registry.withStore s).storedGrants table caller.packages with
  | error fault =>
    obtain ⟨_, ⟨reason, rfl⟩, rfl⟩ := g.registry.storedGrants_error s found
    rw [answerGrants_known known, found]
    constructor <;> nofun
  | ok stored =>
    rw [answerGrants_of_found known found]
    cases stored with
    | nil => simp [GatewayFault.status, QueryFault.status]
    | cons first later => simp

/-- What is shown of a grant: its table, its package, and its limit unless that is zero. -/
structure Lists (g : Grant) (members : Fields Json) : Prop where
  table : members.get? "table" = some (.string g.table)
  package : members.get? "package" = some (.string g.package)
  limit : ∀ x, members.get? "rowLimit" = some x ↔
    ∃ n : Nat, g.rowLimit = some n ∧ n ≠ 0 ∧ x = .int n
  only : ∀ name ∈ members.keys, name = "table" ∨ name = "package" ∨ name = "rowLimit"

theorem lists_grantBody (g : Grant) : ∃ members, grantBody g = .object members ∧ Lists g members := by
  refine ⟨_, rfl, ?_⟩
  cases limit : g.rowLimit with
  | none => constructor <;> simp [Fields.get?, limit]
  | some n =>
    by_cases zero : n = 0
    · constructor <;> simp [Fields.get?, Option.filter_some, limit, zero]
    · refine ⟨rfl, rfl, ?_, ?_⟩
      · intro x
        simp only [Option.filter_some, bne_iff_ne, ne_eq, zero, not_false_eq_true, if_true, limit]
        constructor
        · rintro ⟨⟩
          exact ⟨n, rfl, zero, rfl⟩
        · rintro ⟨m, same, _, rfl⟩
          cases same
          rfl
      · simp [Option.filter_some, zero]

theorem grantBody_congr {g h : Grant} (table : g.table = h.table) (package : g.package = h.package)
    (rowLimit : g.rowLimit = h.rowLimit) : grantBody g = grantBody h := by
  rw [grantBody, grantBody, table, package, rowLimit]

theorem grantBody_alike {collection : String} {d e : Document} (alike : d.AlikeButPredicate e)
    {g h : Grant} (here : Grant.ofDocument collection d = .ok g)
    (there : Grant.ofDocument collection e = .ok h) : grantBody g = grantBody h := by
  obtain ⟨table, package, _, limit⟩ := Grant.ofDocument_ok.mp here
  obtain ⟨table', package', _, limit'⟩ := Grant.ofDocument_ok.mp there
  have same : Grant.rowLimitOf collection d = Grant.rowLimitOf collection e := by
    rw [Grant.rowLimitOf, Grant.rowLimitOf, alike "rowLimit" (by decide) (by decide),
      alike "limit" (by decide) (by decide)]
  rw [alike "table" (by decide) (by decide), table'] at table
  rw [alike "package" (by decide) (by decide), package'] at package
  rw [same, limit'] at limit
  apply grantBody_congr
  · simpa using table.symm
  · simpa using package.symm
  · exact (Except.ok.inj limit).symm

theorem grantBodies_alike {collection : String} {ds es : List Document}
    (alike : List.Forall₂ Document.AlikeButPredicate ds es) {gs hs : List Grant}
    (here : List.Forall₂ (fun d g => Grant.ofDocument collection d = .ok g) ds gs)
    (there : List.Forall₂ (fun e h => Grant.ofDocument collection e = .ok h) es hs) :
    gs.map grantBody = hs.map grantBody := by
  induction alike generalizing gs hs with
  | nil =>
    cases here
    cases there
    rfl
  | cons same _ ih =>
    cases here with
    | cons made later =>
      cases there with
      | cons made' later' =>
        rw [List.map_cons, List.map_cons, grantBody_alike same made made', ih later later']

theorem answerGrants_alike {t : Store} (known : g.authenticate now request.headers = .ok caller)
    (decodes : ∀ d ∈ g.registry.records table caller.packages s,
      ∃ grant, Grant.ofDocument g.registry.grantCollection d = .ok grant)
    (decodes' : ∀ d ∈ g.registry.records table caller.packages t,
      ∃ grant, Grant.ofDocument g.registry.grantCollection d = .ok grant)
    (alike : List.Forall₂ Document.AlikeButPredicate (g.registry.records table caller.packages s)
      (g.registry.records table caller.packages t)) :
    (g.withStore t).answerGrants now request.headers table =
      (g.withStore s).answerGrants now request.headers table := by
  obtain ⟨here, made⟩ := exists_mapM_ok.mpr decodes
  obtain ⟨there, made'⟩ := exists_mapM_ok.mpr decodes'
  have shown := grantBodies_alike alike (mapM_ok.mp made) (mapM_ok.mp made')
  have found : (g.registry.withStore s).storedGrants table caller.packages = .ok here := by
    rw [Registry.storedGrants_eq, made]
    rfl
  have found' : (g.registry.withStore t).storedGrants table caller.packages = .ok there := by
    rw [Registry.storedGrants_eq, made']
    rfl
  have empty : here.isEmpty = there.isEmpty := by
    rw [← List.isEmpty_map (f := grantBody), shown, List.isEmpty_map]
  rw [answerGrants_of_found known found, answerGrants_of_found known found', shown, empty]

/-- One by one the records of grants stand for the alternatives of a stage, by their predicates, and for
what is listed of them, by all else. -/
structure Accounts (collection : String) (records : List Document) (alternatives : List Value)
    (listed : List Json) : Prop where
  applied : alternatives.length = records.length
  shown : listed.length = records.length
  each : ∀ (i : Nat) (d : Document), records[i]? = some d →
    ∃ (grant : Grant) (predicate : Document) (members : Fields Json),
      Grant.ofDocument collection d = .ok grant ∧
      Query.coerceDates (.document grant.predicate) = .ok (.document predicate) ∧
      alternatives[i]? = some (.document predicate) ∧
      listed[i]? = some (.object members) ∧ Lists grant members

theorem accounts {r : Registry} {records : List Document} {stored grants : List Grant}
    (decoded : List.Forall₂ (fun d g => Grant.ofDocument r.grantCollection d = .ok g) records stored)
    (prepared : List.Forall₂ (fun g made => r.prepare g = .ok made) stored grants) :
    Accounts r.grantCollection records (grants.map fun g => .document g.predicate)
      (stored.map grantBody) := by
  refine ⟨?_, ?_, ?_⟩
  · rw [List.length_map, decoded.length_eq, prepared.length_eq]
  · rw [List.length_map, decoded.length_eq]
  · intro i d here
    obtain ⟨grant, second, made⟩ := exists_getElem? decoded here
    obtain ⟨ready, third, readied⟩ := exists_getElem? prepared second
    obtain ⟨predicate, read, _, rfl⟩ := r.prepare_ok.mp readied
    obtain ⟨members, spelt, lists⟩ := lists_grantBody grant
    refine ⟨grant, predicate, members, made, read, ?_, ?_, lists⟩
    · rw [List.getElem?_map, third]
      rfl
    · rw [List.getElem?_map, second, ← spelt]
      rfl

/-- A caller is shown the grants that apply to a table and nothing of their predicates. The request is
denied exactly if all queries of the table are. If one is compiled, the grants of its first stage are
listed in their order. Stores whose records for the caller differ in the predicates only give the same
response. -/
theorem subscription_shows_applied_grants (g : Gateway) (s : Store) (policy : OriginPolicy)
    {now : Timestamp} {request : Http.Request} {path spelt : List Char} {table : String}
    {caller : Caller} (found : Route.ofPath? path = some (.grants spelt))
    (named : Http.decodePiece? spelt = some table)
    (allowed : request.method ∈ (Route.grants spelt).methods)
    (known : g.authenticate now request.headers = .ok caller) :
    ∃ response, serve (g.withStore s) policy now request path = some response ∧
      (∀ enforceRowLimit query, response.status = 403 ↔
        Query.compile (g.registry.withStore s) enforceRowLimit table caller.packages query =
          .error .accessDenied) ∧
      (∀ enforceRowLimit query compiled,
        Query.compile (g.registry.withStore s) enforceRowLimit table caller.packages query =
          .ok compiled →
        response.status = 200 ∧
          ∃ alternatives listed,
            compiled.pipeline.head? =
              some [("$match", .document [("$or", .array alternatives)])] ∧
            (request.method ≠ "HEAD" → response.body = (Json.array listed).text) ∧
            Accounts g.registry.grantCollection (g.registry.records table caller.packages s)
              alternatives listed) ∧
      ∀ t,
        (∀ d ∈ g.registry.records table caller.packages s,
          ∃ grant, Grant.ofDocument g.registry.grantCollection d = .ok grant) →
        (∀ d ∈ g.registry.records table caller.packages t,
          ∃ grant, Grant.ofDocument g.registry.grantCollection d = .ok grant) →
        List.Forall₂ Document.AlikeButPredicate (g.registry.records table caller.packages s)
          (g.registry.records table caller.packages t) →
        serve (g.withStore t) policy now request path = some response := by
  refine ⟨_, serve_grants policy found named allowed, ?_, ?_, ?_⟩
  · intro enforceRowLimit query
    rw [reply_denied_iff known, Query.compile_denied_iff]
  · intro enforceRowLimit query compiled accepted
    obtain ⟨grants, _, pipeline, granted, _, assembled, rfl⟩ := Query.compile_ok.mp accepted
    obtain ⟨stored, held, some, prepared⟩ := (g.registry.withStore s).grants_ok.mp granted
    obtain ⟨_, _, _, _, _, rfl⟩ := Query.assemble_ok.mp assembled
    have answered : (g.withStore s).answerGrants now request.headers table =
        .ok (.array (stored.map grantBody)) := by
      rw [answerGrants_of_found known held, if_neg (by simpa using some)]
    have decoded := held
    rw [Registry.storedGrants_eq, mapError_ok] at decoded
    rw [answered]
    refine ⟨reply_status policy request _, _, _, rfl, reply_body policy _, ?_⟩
    exact accounts (mapM_ok.mp decoded) prepared
  · intro t decodes decodes' alike
    rw [serve_grants policy found named allowed, answerGrants_alike known decodes decodes' alike]

/-- Two grants to gold, the second with a limit of zero. -/
def twoGrants (first second : String × Value) : Store :=
  ⟨[("security",
    [[("table", .string "people"), ("package", .string "gold"), first, ("limit", .int 5)],
      [second, ("table", .string "people"), ("package", .string "gold"), ("rowLimit", .int 0)]])]⟩

/-- One predicate is text with a literal of a date, the other is a document. -/
def spelledGrants : Store :=
  twoGrants ("pre", .string "\x7b\"since\": \"#2021-05-01#\"\x7d")
    ("predicate", .document [("team", .string "a")])

def openGrants : Store := twoGrants ("predicate", .document []) ("pre", .string "\x7b\x7d")

theorem subscription_shows_applied_grants_spelled :
    let g : Gateway := { registry := { backend := spelledGrants.backend } }
    let request : Http.Request :=
      { target := "/subscription/people", headers := [("authorization", "Bearer " ++ goldToken)] }
    ∃ response alternatives listed,
      serve (g.withStore spelledGrants) .any ⟨1700000000, 5⟩ request "/subscription/people".toList =
        some response ∧
      response.status = 200 ∧ response.body = (Json.array listed).text ∧
      Accounts "security" (g.registry.records "people" ["gold"] spelledGrants) alternatives listed ∧
      listed.length = 2 ∧
      serve (g.withStore openGrants) .any ⟨1700000000, 5⟩ request "/subscription/people".toList =
        some response := by
  intro g request
  have known : g.authenticate ⟨1700000000, 5⟩ request.headers = .ok ⟨"ann", ["gold"]⟩ :=
    authenticate_goldToken rfl rfl rfl
  have decodes : ∀ s ∈ [spelledGrants, openGrants], ∀ d ∈ g.registry.records "people" ["gold"] s,
      ∃ grant, Grant.ofDocument "security" d = .ok grant := by
    simp only [← toOption_isSome]
    decide +kernel
  have alike : List.Forall₂ Document.AlikeButPredicate
      (g.registry.records "people" ["gold"] spelledGrants)
      (g.registry.records "people" ["gold"] openGrants) := by
    refine .cons ?_ (.cons ?_ .nil)
    · intro field other other'
      simp [Fields.get?, Ne.symm other, Ne.symm other']
    · intro field other other'
      simp [Fields.get?, Ne.symm other, Ne.symm other']
  have compiles : (Query.compile (g.registry.withStore spelledGrants) true "people" ["gold"]
      none).toOption.isSome = true := by
    decide +kernel
  obtain ⟨compiled, accepted⟩ := toOption_isSome.mp compiles
  have found : Route.ofPath? "/subscription/people".toList = some (.grants "people".toList) := by
    decide +kernel
  have named : Http.decodePiece? "people".toList = some "people" := by decide +kernel
  have allowed : request.method ∈ (Route.grants "people".toList).methods := by
    simp [Route.methods, request]
  obtain ⟨response, served, _, shown, kept⟩ :=
    subscription_shows_applied_grants g spelledGrants .any found named allowed known
  obtain ⟨status, alternatives, listed, _, body, accounts⟩ := shown true none compiled accepted
  refine ⟨response, alternatives, listed, served, status, body (by simp [request]), accounts,
    accounts.shown, ?_⟩
  exact kept openGrants (decodes _ (by simp)) (decodes _ (by simp)) alike

end Gateway
end PolicyGate
