import PolicyGate.Proofs.Outcomes
import PolicyGate.Proofs.Token.Base64
import PolicyGate.Token.Signed

/-!
What tokens pass: those that were signed under the secret, name the audience and, if they name an
issuer at all, name ours.
-/
namespace PolicyGate

theorem Audience.contains_iff {audience : Audience} {name : String} :
    audience.contains name = true ↔
      audience = .one name ∨ ∃ names, audience = .many names ∧ name ∈ names := by
  cases audience <;> simp [Audience.contains]

namespace Claims

theorem string?_eq_some {x : Json} {s : String} : string? x = some s ↔ x = .string s := by
  cases x <;> simp [string?]

theorem claimOr_eq_some {members : Fields Json} {name : String} {default a : α}
    {read : Json → Option α} :
    claimOr members name default read = some a ↔
      (∃ x, members.get? name = some x ∧ read x = some a) ∨
        members.get? name = none ∧ default = a := by
  unfold claimOr
  cases members.get? name <;> simp

theorem ofMembers?_eq_some {members : Fields Json} {claims : Claims} :
    ofMembers? members = some claims ↔
      (members.get? "sub").bind string? = some claims.subject ∧
      claimOr members "permissions" [] strings? = some claims.permissions ∧
      claimOr members "iat" 0 seconds? = some claims.issuedAt ∧
      claimOr members "exp" none expiry? = some claims.expires ∧
      (members.get? "aud").bind audience? = some claims.audience ∧
      claimOr members "iss" "" string? = some claims.issuer := by
  rw [ofMembers?]
  constructor
  · intro h
    obtain ⟨subject, hs, h⟩ := Option.bind_eq_some_iff.mp h
    obtain ⟨permissions, hp, h⟩ := Option.bind_eq_some_iff.mp h
    obtain ⟨issuedAt, hi, h⟩ := Option.bind_eq_some_iff.mp h
    obtain ⟨expires, he, h⟩ := Option.bind_eq_some_iff.mp h
    obtain ⟨audience, ha, h⟩ := Option.bind_eq_some_iff.mp h
    obtain ⟨issuer, hr, h⟩ := Option.bind_eq_some_iff.mp h
    cases h
    exact ⟨hs, hp, hi, he, ha, hr⟩
  · rintro ⟨hs, hp, hi, he, ha, hr⟩
    rw [hs, hp, hi, he, ha, hr]
    rfl

end Claims

namespace Token

theorem validate_ok {settings : TokenSettings} {token : String} {claims : Claims} :
    validate settings token = .ok claims ↔ ∃ head body members,
      Text.splitOn '.' token.toList =
        [head, body, signature settings.secret (head ++ '.' :: body)] ∧
      isHeader head = true ∧ claimsPart? body = some members ∧
      Claims.ofMembers? members = some claims ∧ hasPlainStart members = true ∧
      isForUs settings members claims = true := by
  rw [validate]
  constructor
  · intro h
    split at h
    case h_2 => cases h
    rename_i head body sig parts
    split at h
    case isFalse => cases h
    rename_i named
    split at h
    case isFalse => cases h
    rename_i signed
    split at h
    case h_2 => cases h
    rename_i members read
    split at h
    case h_2 => cases h
    rename_i made spelt
    split at h
    case isFalse => cases h
    rename_i passed
    cases h
    obtain ⟨start, ours⟩ := Bool.and_eq_true_iff.mp passed
    exact ⟨head, body, members, signed ▸ parts, named, read, spelt, start, ours⟩
  · rintro ⟨head, body, members, parts, named, read, spelt, start, ours⟩
    rw [parts]
    simp only [named, read, spelt, start, ours, if_true, Bool.and_self]

theorem validate_error {settings : TokenSettings} {token : String} {fault : AuthFault}
    (failed : validate settings token = .error fault) :
    fault = .malformedToken ∨ fault = .invalidSignature := by
  unfold validate at failed
  repeat' split at failed
  all_goals cases failed
  all_goals simp

theorem isHeader_iff {part : List Char} :
    isHeader part = true ↔ ∃ bytes, Base64.decode? part = some bytes ∧
      Header.algorithm? (Text.decodeUtf8 bytes) = some algorithm := by
  rw [isHeader, beq_iff_eq, Option.bind_eq_some_iff]

theorem issuer_of_get? {members : Fields Json} {claims : Claims}
    (spelt : Claims.ofMembers? members = some claims) :
    members.get? "iss" = some (.string claims.issuer) ∨
      members.get? "iss" = none ∧ claims.issuer = "" := by
  obtain ⟨_, _, _, _, _, issuer⟩ := Claims.ofMembers?_eq_some.mp spelt
  rcases Claims.claimOr_eq_some.mp issuer with ⟨x, given, read⟩ | ⟨missing, empty⟩
  · rw [Claims.string?_eq_some.mp read] at given
    exact .inl given
  · exact .inr ⟨missing, empty.symm⟩

theorem isForUs_iff {settings : TokenSettings} {members : Fields Json} {claims : Claims}
    (spelt : Claims.ofMembers? members = some claims) :
    isForUs settings members claims = true ↔
      claims.audience.contains settings.audience = true ∧
        (claims.issuer = settings.issuer ∨ members.get? "iss" = none ∧ claims.issuer = "") := by
  rw [isForUs, Bool.and_eq_true, and_comm, Bool.or_eq_true, Bool.not_eq_true', beq_iff_eq,
    Fields.contains]
  apply and_congr_right
  intro _
  rcases issuer_of_get? spelt with given | ⟨missing, empty⟩
  · simp [given]
  · simp [missing, empty]

/-- What the three parts of a token that passes say, with the claims that the second one spells. -/
structure Vouched (settings : TokenSettings) (claims : Claims) (head body sig : List Char)
    (members : Fields Json) : Prop where
  algorithm : ∃ bytes, Base64.decode? head = some bytes ∧
    Header.algorithm? (Text.decodeUtf8 bytes) = some "HS256"
  signed : Base64.decode? sig = some (Sha256.hmac (Text.encodeUtf8 settings.secret.toList)
    (Text.encodeUtf8 (head ++ '.' :: body)))
  spelt : claimsPart? body = some members ∧ Claims.ofMembers? members = some claims
  start : hasPlainStart members = true
  audience : claims.audience = .one settings.audience ∨
    ∃ names, claims.audience = .many names ∧ settings.audience ∈ names
  /-- A token that names no issuer passes whatever ours is. -/
  issuer : claims.issuer = settings.issuer ∨ members.get? "iss" = none ∧ claims.issuer = ""

/-- The tokens that pass are those with a signature under the secret, an audience that includes ours,
and either our issuer or none. -/
theorem validate_ok_iff_vouched (settings : TokenSettings) (token : String) (claims : Claims) :
    validate settings token = .ok claims ↔ ∃ head body sig members,
      Text.splitOn '.' token.toList = [head, body, sig] ∧
        Vouched settings claims head body sig members := by
  rw [validate_ok]
  constructor
  · rintro ⟨head, body, members, parts, named, read, spelt, start, ours⟩
    obtain ⟨audience, issuer⟩ := (isForUs_iff spelt).mp ours
    exact ⟨head, body, _, members, parts, isHeader_iff.mp named, Base64.decode?_encode _,
      ⟨read, spelt⟩, start, Audience.contains_iff.mp audience, issuer⟩
  · rintro ⟨head, body, sig, members, parts, vouched⟩
    obtain ⟨read, spelt⟩ := vouched.spelt
    rw [Base64.decode?_eq_some_iff.mp vouched.signed] at parts
    refine ⟨head, body, members, parts, isHeader_iff.mpr vouched.algorithm, read, spelt,
      vouched.start, ?_⟩
    exact (isForUs_iff spelt).mpr ⟨Audience.contains_iff.mpr vouched.audience, vouched.issuer⟩

theorem splitOn_signed (secret : String) {head body : List Char} (plainHead : '.' ∉ head)
    (plainBody : '.' ∉ body) :
    Text.splitOn '.' (head ++ '.' :: body ++ '.' :: signature secret (head ++ '.' :: body)) =
      [head, body, signature secret (head ++ '.' :: body)] := by
  rw [List.append_assoc, List.cons_append, Text.splitOn_append plainHead,
    Text.splitOn_append plainBody]
  congr 2
  exact Text.splitOn_of_not_mem (Base64.point_not_mem_encode _)

theorem isHeader_header : isHeader (base64 header.text) = true := by decide +kernel

/-- What is signed here passes if its claims are read back and name us. -/
theorem validate_sign {settings : TokenSettings} {written claims : Claims} {members : Fields Json}
    (read : claimsPart? (base64 written.toJson.text) = some members)
    (spelt : Claims.ofMembers? members = some claims) (start : hasPlainStart members = true)
    (ours : isForUs settings members claims = true) :
    validate settings (sign settings written) = .ok claims := by
  refine validate_ok.mpr ⟨_, _, members, ?_, isHeader_header, read, spelt, start, ours⟩
  rw [sign, String.toList_ofList]
  exact splitOn_signed settings.secret (Base64.point_not_mem_encode _)
    (Base64.point_not_mem_encode _)

theorem mem_sign {settings : TokenSettings} {claims : Claims} {c : Char}
    (member : c ∈ (sign settings claims).toList) : c = '.' ∨ ∃ n < 64, c = Base64.digit n := by
  rw [sign, String.toList_ofList] at member
  simp only [List.mem_append, List.mem_cons] at member
  rcases member with (head | rfl | body) | rfl | sig
  · exact .inr (Base64.mem_encode head)
  · exact .inl rfl
  · exact .inr (Base64.mem_encode body)
  · exact .inl rfl
  · exact .inr (Base64.mem_encode sig)

/-- The header `{"alg":"HS256"}`. -/
def plainHeader : List Char := "eyJhbGciOiJIUzI1NiJ9".toList

/-- The claims `{"sub":"s","aud":"rowgate"}`. -/
def unissuedClaims : List Char := "eyJzdWIiOiJzIiwiYXVkIjoicm93Z2F0ZSJ9".toList

def unissuedToken (secret : String) : String :=
  let message := plainHeader ++ '.' :: unissuedClaims
  String.ofList (message ++ '.' :: signature secret message)

/-- With the default settings a token without an issuer passes, though these name one. -/
theorem unissued_token_accepted :
    let settings : TokenSettings := {}
    ∃ claims, validate settings (unissuedToken settings.secret) = .ok claims ∧
      claims.issuer = "" ∧ settings.issuer = "rowgate" := by
  intro settings
  refine ⟨⟨"s", [], 0, none, .one "rowgate", ""⟩, ?_, rfl, rfl⟩
  have named : isHeader plainHeader = true := by decide +kernel
  have accepted : (claimsPart? unissuedClaims).any (fun members =>
      Claims.ofMembers? members == some ⟨"s", [], 0, none, .one "rowgate", ""⟩ &&
        hasPlainStart members && isForUs settings members ⟨"s", [], 0, none, .one "rowgate", ""⟩) =
          true := by
    decide +kernel
  cases read : claimsPart? unissuedClaims with
  | none =>
    rw [read] at accepted
    cases accepted
  | some members =>
    rw [read, Option.any_some] at accepted
    simp only [Bool.and_eq_true, beq_iff_eq] at accepted
    obtain ⟨⟨spelt, start⟩, ours⟩ := accepted
    refine validate_ok.mpr ⟨_, _, members, ?_, named, read, spelt, start, ours⟩
    rw [unissuedToken, String.toList_ofList]
    exact splitOn_signed settings.secret (by decide) (by decide)

end Token
end PolicyGate
