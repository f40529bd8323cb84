import PolicyGate.Proofs.Gateway.Serving
import PolicyGate.Proofs.Token.Validation

/-!
Callers who are not known. Whatever they ask for they are told the same, and it depends on their header
field, the settings and the time only: nothing is looked up for them and no body is read.
-/
namespace PolicyGate

theorem PermissionRules.resolve_error {rules : PermissionRules} {claims : Claims} {now : Timestamp}
    {fault : AuthFault} (failed : rules.resolve claims now = .error fault) :
    fault = .tokenExpired := by
  unfold resolve at failed
  split at failed
  · cases failed
  · cases failed
    rfl

namespace Gateway

/-- The field is `Bearer` and a token. -/
def Bears (field token : String) : Prop :=
  isPlainField field.toList = true ∧ ∃ rest, field.toList = scheme ++ rest ∧
    Text.trim (String.ofList rest) = token ∧ token ≠ ""

theorem bearerToken?_eq_some {headers : Http.Headers} {token : String} :
    bearerToken? headers = some token ↔
      ∃ field, headers.first? "authorization" = some field ∧ Bears field token := by
  rw [bearerToken?, Option.bind_eq_some_iff]
  refine exists_congr fun field => and_congr_right fun _ => ?_
  dsimp only
  constructor
  · intro found
    split at found
    · rename_i marked
      obtain ⟨plain, prefixed⟩ := marked
      obtain ⟨rest, spelt⟩ := List.isPrefixOf_iff_prefix.mp prefixed
      rw [← spelt, List.drop_left] at found
      split at found
      · cases found
      · rename_i some
        cases found
        exact ⟨plain, rest, spelt.symm, rfl, by simpa using some⟩
    · cases found
  · rintro ⟨plain, rest, spelt, rfl, some⟩
    have prefixed : scheme.isPrefixOf field.toList = true :=
      List.isPrefixOf_iff_prefix.mpr ⟨rest, spelt.symm⟩
    rw [if_pos ⟨plain, prefixed⟩, spelt, List.drop_left, if_neg (by simpa using some)]

/-- A field, perhaps missing, that makes no caller known at the time. -/
inductive Unrecognised (tokens : TokenSettings) (rules : PermissionRules) (now : Timestamp) :
    Option String → Prop where
  | missing : Unrecognised tokens rules now none
  | noToken {field : String} :
      (∀ token, ¬ Bears field token) → Unrecognised tokens rules now (some field)
  | rejected {field token : String} {fault : AuthFault} :
      Bears field token → Token.validate tokens token = .error fault →
        Unrecognised tokens rules now (some field)
  | unresolved {field token : String} {claims : Claims} {fault : AuthFault} :
      Bears field token → Token.validate tokens token = .ok claims →
        rules.resolve claims now = .error fault → Unrecognised tokens rules now (some field)

theorem bearerToken?_eq_none {headers : Http.Headers} {field : String}
    (given : headers.first? "authorization" = some field) (without : ∀ token, ¬ Bears field token) :
    bearerToken? headers = none := by
  by_contra found
  obtain ⟨token, found⟩ := Option.ne_none_iff_exists'.mp found
  obtain ⟨other, same, bears⟩ := bearerToken?_eq_some.mp found
  rw [given] at same
  cases same
  exact without token bears

theorem authenticate_of_bears (g : Gateway) (now : Timestamp) {headers : Http.Headers}
    {field token : String} (given : headers.first? "authorization" = some field)
    (bears : Bears field token) :
    g.authenticate now headers =
      Token.validate g.tokens token >>= fun claims => g.rules.resolve claims now := by
  rw [authenticate, bearerToken?_eq_some.mpr ⟨field, given, bears⟩]

/-- The fault by which a caller stays unknown is found in the field alone. -/
theorem authenticate_unrecognised {tokens : TokenSettings} {rules : PermissionRules}
    {now : Timestamp} {field : Option String} (unknown : Unrecognised tokens rules now field) :
    ∃ fault : AuthFault, fault.status = 401 ∧
      ∀ (g : Gateway) (headers : Http.Headers), g.tokens = tokens → g.rules = rules →
        headers.first? "authorization" = field → g.authenticate now headers = .error fault := by
  cases unknown with
  | missing =>
    refine ⟨.authenticationRequired, rfl, ?_⟩
    intro g headers _ _ given
    rw [authenticate, bearerToken?, given]
    rfl
  | noToken without =>
    refine ⟨.authenticationRequired, rfl, ?_⟩
    intro g headers _ _ given
    rw [authenticate, bearerToken?_eq_none given without]
  | @rejected field token fault bears failed =>
    have status : fault.status = 401 := by
      rcases Token.validate_error failed with rfl | rfl <;> rfl
    refine ⟨fault, status, ?_⟩
    rintro g headers rfl rfl given
    rw [authenticate_of_bears g now given bears, failed]
    rfl
  | @unresolved field token claims fault bears passed failed =>
    have status : fault.status = 401 := by
      rw [PermissionRules.resolve_error failed]
      rfl
    refine ⟨fault, status, ?_⟩
    rintro g headers rfl rfl given
    rw [authenticate_of_bears g now given bears, passed]
    exact failed

theorem refuses_of_authenticate {g : Gateway} {now : Timestamp} {request : Http.Request}
    {route : Route} {path : List Char} {name : String} {fault : AuthFault}
    (reached : Reaches request path route name)
    (failed : g.authenticate now request.headers = .error fault) :
    Refuses g now request name (.auth fault) route := by
  cases route with
  | health => cases reached.named
  | rows spelt =>
    rw [Refuses, answerRows, failed]
    rfl
  | resolution spelt =>
    rw [Refuses, answerResolution, failed]
    rfl
  | grants spelt =>
    rw [Refuses, answerGrants, failed]
    rfl

/-- A caller who is not known gets the same response for every resource and body, over every store. -/
theorem unrecognised_refused {tokens : TokenSettings} {rules : PermissionRules} {now : Timestamp}
    {field : Option String} (unknown : Unrecognised tokens rules now field) :
    ∃ text : String, ∀ (g : Gateway) (policy : OriginPolicy) (request : Http.Request)
      (path : List Char) (route : Route) (name : String),
      g.tokens = tokens → g.rules = rules → request.headers.first? "authorization" = field →
      Reaches request path route name →
        ∃ response, serve g policy now request path = some response ∧ response.status = 401 ∧
          (request.method ≠ "HEAD" → response.body = text) := by
  -- The fault is fixed before any gateway is named, so neither a store nor a body has a part in it.
  obtain ⟨fault, status, fails⟩ := authenticate_unrecognised unknown
  refine ⟨(GatewayFault.auth fault).body.text, ?_⟩
  intro g policy request path route name sameTokens sameRules given reached
  have failed := fails g request.headers sameTokens sameRules given
  have refused := refuses_of_authenticate reached failed
  refine ⟨_, serve_refused policy reached refused, ?_, refusal_body policy _⟩
  rw [refusal_status]
  exact status

theorem bears_sign (settings : TokenSettings) (claims : Claims) :
    Bears ("Bearer " ++ Token.sign settings claims) (Token.sign settings claims) := by
  have digits : ∀ n : Fin 64, isPlainField [Base64.digit n] = true ∧
      Text.isWhiteSpace (Base64.digit n) = false := by
    decide
  have each : ∀ c ∈ (Token.sign settings claims).toList,
      isPlainField [c] = true ∧ Text.isWhiteSpace c = false := by
    intro c member
    rcases Token.mem_sign member with rfl | ⟨n, small, rfl⟩
    · decide
    · exact digits ⟨n, small⟩
  have spelt : ("Bearer " ++ Token.sign settings claims).toList =
      scheme ++ (Token.sign settings claims).toList := String.toList_append
  refine ⟨?_, _, spelt, ?_, ?_⟩
  · have marked : isPlainField scheme = true := by decide
    have whole : isPlainField (Token.sign settings claims).toList = true := by
      apply List.all_eq_true.mpr
      intro c member
      simpa [isPlainField] using (each c member).1
    rw [spelt, isPlainField, List.all_append]
    exact Bool.and_eq_true_iff.mpr ⟨marked, whole⟩
  · rw [String.ofList_toList, Text.trim, Text.trimBy_of_solid fun c member => (each c member).2,
      String.ofList_toList]
  · intro empty
    have none := congrArg String.toList empty
    simp [Token.sign] at none

/-- The claims of a token that holds for a quarter of an hour. -/
def goldClaims : Claims :=
  Token.issue {} ⟨1700000000, 0⟩ "ann" ["api:gold"] (some 900)

def goldToken : String := Token.sign {} goldClaims

theorem validate_goldToken : Token.validate {} goldToken = .ok goldClaims := by
  have readBack : (Token.claimsPart? (Token.base64 goldClaims.toJson.text)).any (fun members =>
      Claims.ofMembers? members == some goldClaims && Token.hasPlainStart members &&
        Token.isForUs {} members goldClaims) = true := by
    decide +kernel
  obtain ⟨members, read, passed⟩ := (Option.any_eq_true _ _).mp readBack
  simp only [Bool.and_eq_true, beq_iff_eq] at passed
  obtain ⟨⟨spelt, start⟩, ours⟩ := passed
  exact Token.validate_sign read spelt start ours

theorem authenticate_goldToken {g : Gateway} (tokens : g.tokens = {}) (rules : g.rules = {})
    {headers : Http.Headers}
    (given : headers.first? "authorization" = some ("Bearer " ++ goldToken)) :
    g.authenticate ⟨1700000000, 5⟩ headers = .ok ⟨"ann", ["gold"]⟩ := by
  have resolved : PermissionRules.resolve {} goldClaims ⟨1700000000, 5⟩ =
      .ok ⟨"ann", ["gold"]⟩ := by
    decide +kernel
  rw [authenticate_of_bears g ⟨1700000000, 5⟩ given (bears_sign {} goldClaims), tokens, rules]
  change Token.validate {} goldToken >>= _ = _
  rw [validate_goldToken]
  exact resolved

/-- At the second of its expiry the token no longer holds. -/
theorem unrecognised_refused_expired :
    (∃ caller, PermissionRules.resolve {} goldClaims ⟨1700000899, 999999999⟩ = .ok caller) ∧
      ∃ text : String, ∀ (registry : Registry) (body : List UInt8), body.length ≤ greatestBody →
        let request : Http.Request := ⟨"POST", "/api/people",
          [("Authorization", "Bearer " ++ goldToken)], body⟩
        ∃ response, serve { registry } .any ⟨1700000900, 0⟩ request "/api/people".toList =
            some response ∧ response.status = 401 ∧ response.body = text := by
  have early : (PermissionRules.resolve {} goldClaims ⟨1700000899, 999999999⟩).toOption.isSome =
      true := by
    decide +kernel
  have late : PermissionRules.resolve {} goldClaims ⟨1700000900, 0⟩ = .error .tokenExpired := by
    decide +kernel
  have unknown : Unrecognised {} {} ⟨1700000900, 0⟩ (some ("Bearer " ++ goldToken)) :=
    .unresolved (bears_sign {} goldClaims) validate_goldToken late
  obtain ⟨text, same⟩ := unrecognised_refused unknown
  refine ⟨Outcomes.toOption_isSome.mp early, text, ?_⟩
  intro registry body short request
  have reached : Reaches request "/api/people".toList (.rows "people".toList) "people" := by
    refine ⟨by decide +kernel, by decide +kernel, ?_, short⟩
    simp [Route.methods, request]
  obtain ⟨response, served, status, told⟩ :=
    same { registry } .any request _ _ _ rfl rfl rfl reached
  exact ⟨response, served, status, told (by simp [request])⟩

end Gateway
end PolicyGate
