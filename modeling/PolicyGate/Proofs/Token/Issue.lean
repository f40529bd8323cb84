import PolicyGate.Proofs.Calendar.Range
import PolicyGate.Proofs.Json.Reading
import PolicyGate.Proofs.Text.Utf8
import PolicyGate.Proofs.Token.Validation

/-!
Tokens that are issued here pass here, and say what they were issued for.
-/
namespace PolicyGate

namespace Claims

/-- The times have 64 bits. -/
structure Timed (c : Claims) : Prop where
  issuedAt : Int64.minValue.toInt ≤ c.issuedAt ∧ c.issuedAt ≤ Int64.maxValue.toInt
  expires : ∀ e ∈ c.expires, Int64.minValue.toInt ≤ e ∧ e ≤ Int64.maxValue.toInt

theorem strings?_array (names : List String) :
    strings? (.array (names.map Json.string)) = some names := by
  induction names with
  | nil => rfl
  | cons name rest ih =>
    change (rest.map Json.string).mapM string? = some rest at ih
    rw [strings?, List.map_cons, List.mapM_cons, ih]
    rfl

theorem audience?_toJson (a : Audience) : audience? a.toJson = some a := by
  cases a with
  | one name => rfl
  | many names =>
    change (strings? (.array (names.map Json.string))).map Audience.many = _
    rw [strings?_array]
    rfl

theorem ofMembers?_members {c : Claims} (timed : c.Timed) : ofMembers? c.members = some c := by
  have issued : seconds? (.int c.issuedAt) = some c.issuedAt := if_pos timed.issuedAt
  apply ofMembers?_eq_some.mpr
  cases expiry : c.expires with
  | none =>
    simp [members, Fields.get?, claimOr, expiry, string?, strings?_array, issued, audience?_toJson]
  | some e =>
    have ends : seconds? (.int e) = some e := if_pos (timed.expires e expiry)
    simp [members, Fields.get?, claimOr, expiry, string?, strings?_array, issued, audience?_toJson,
      expiry?, ends]

theorem keys_members_sublist (c : Claims) : c.members.keys.Sublist names := by
  rw [members]
  cases c.expires with
  | none =>
    change ["sub", "permissions", "iat", "aud", "iss"].Sublist names
    decide
  | some e => exact List.Sublist.refl names

theorem distinct_members (c : Claims) : c.members.Distinct :=
  c.keys_members_sublist.nodup (by decide)

theorem legible_strings (texts : List String) :
    Json.Legible Json.nestingLimit (.array (texts.map Json.string)) := by
  change Json.Legible (126 + 1) _
  apply Json.Legible.array
  intro x made
  obtain ⟨s, _, rfl⟩ := List.mem_map.mp made
  exact .string s

theorem legible_audience (a : Audience) : Json.Legible Json.nestingLimit a.toJson := by
  cases a with
  | one name => exact .string name
  | many names => exact legible_strings names

theorem legible_time {n : Int} (timed : Int64.minValue.toInt ≤ n ∧ n ≤ Int64.maxValue.toInt) :
    Json.Legible Json.nestingLimit (.int n) := by
  have high : n ≤ 9223372036854775807 := timed.2
  apply Json.Legible.int timed.1
  change n ≤ 18446744073709551615
  omega

theorem legible_members {c : Claims} (timed : c.Timed) {entry : String × Json}
    (member : entry ∈ c.members) : Json.Legible Json.nestingLimit entry.2 := by
  simp only [members, List.mem_append, List.mem_cons, List.not_mem_nil, or_false, List.mem_map,
    Option.mem_toList] at member
  rcases member with ((rfl | rfl | rfl) | ⟨e, given, rfl⟩) | rfl | rfl
  · exact .string c.subject
  · exact legible_strings c.permissions
  · exact legible_time timed.issuedAt
  · exact legible_time (timed.expires e given)
  · exact legible_audience c.audience
  · exact .string c.issuer

end Claims

namespace Token

theorem claimReader?_names {name : String} (known : name ∈ Claims.names) :
    claimReader? name = some (Json.value Json.nestingLimit) := by
  have noStart : startName ∉ Claims.names := by decide
  have other : name ≠ startName := fun same => noStart (same ▸ known)
  rw [claimReader?, if_neg other, if_pos (List.contains_iff_mem.mpr known)]

/-- The claims that were written are read back, with nothing beside them. -/
theorem claimsPart?_text {c : Claims} (timed : c.Timed) :
    claimsPart? (base64 c.toJson.text) = some c.members := by
  have read : Json.readKnown claimReader? (c.toJson.chars.map some) = .ok c.members := by
    apply Json.readKnown_chars ?_ c.distinct_members
    intro entry member
    have known : entry.1 ∈ Claims.names :=
      c.keys_members_sublist.subset (List.mem_map_of_mem member)
    exact Json.knownMember_adds (claimReader?_names known)
      (Json.value_reads (Claims.legible_members timed member))
  obtain ⟨text, begins⟩ : ∃ text, c.toJson.chars = '{' :: text :=
    ⟨_, Json.chars_object_cons "sub" _ _⟩
  rw [claimsPart?, base64, Base64.decode?_encode, Option.bind_some, Json.text, String.toList_ofList,
    Text.decodeUtf8_encodeUtf8]
  rw [begins] at read ⊢
  change (Json.readKnown claimReader? (('{' :: text).map some)).toOption = _
  rw [read]
  rfl

theorem hasPlainStart_members (c : Claims) : hasPlainStart c.members = true := by
  have noStart : startName ∉ c.members.keys := by
    intro given
    have known := c.keys_members_sublist.subset given
    revert known
    decide
  rw [hasPlainStart, Fields.get?_eq_none.mpr noStart]

/-- A token that is signed here passes if its claims name us, and the claims are what was signed. -/
theorem validate_sign_ours {settings : TokenSettings} {claims : Claims} (timed : claims.Timed)
    (audience : claims.audience.contains settings.audience = true)
    (issuer : claims.issuer = settings.issuer) :
    validate settings (sign settings claims) = .ok claims := by
  have spelt := Claims.ofMembers?_members timed
  have ours : isForUs settings claims.members claims = true :=
    (isForUs_iff spelt).mpr ⟨audience, .inl issuer⟩
  exact validate_sign (claimsPart?_text timed) spelt (hasPlainStart_members claims) ours

/-- Instants that the calendar covers have seconds of 64 bits. -/
theorem seconds_of_covered {t : Timestamp} (covered : t.Covered) :
    Int64.minValue.toInt ≤ t.seconds ∧ t.seconds ≤ Int64.maxValue.toInt := by
  have bounds := Timestamp.covered_iff.mp covered
  change -9223372036854775808 ≤ t.seconds ∧ t.seconds ≤ 9223372036854775807
  omega

/-- Whatever is issued, the token passes under the settings that it was signed with, and gives back the
subject, the permissions in their order, the second of the clock and the second in which it expires. Unless
the clock shows a leap second, that one holds the instant to which the lifetime leads. -/
theorem issued_token_validates (settings : TokenSettings) (now : Timestamp) (subject : String)
    (permissions : List String) (lifetime : Option Int) (current : now.Covered)
    (representable : ∀ span ∈ lifetime, (now.after span).Covered) :
    validate settings (sign settings (issueFor settings now subject permissions lifetime)) =
        .ok { subject, permissions, issuedAt := now.seconds,
              expires := lifetime.map fun span => (now.after span).seconds,
              audience := .one settings.audience, issuer := settings.issuer } ∧
      (now.nanos < nanosPerSecond → ∀ span,
        (now.after span).seconds * nanosPerSecond ≤ now.seconds * nanosPerSecond + now.nanos + span ∧
        now.seconds * nanosPerSecond + now.nanos + span <
          ((now.after span).seconds + 1) * nanosPerSecond) := by
  have timed : (issueFor settings now subject permissions lifetime).Timed := by
    constructor
    · exact seconds_of_covered current
    · intro e expiry
      obtain ⟨span, given, rfl⟩ := Option.map_eq_some_iff.mp expiry
      exact seconds_of_covered (representable span given)
  constructor
  · exact validate_sign_ours timed (beq_self_eq_true settings.audience) rfl
  · intro settled span
    obtain ⟨small, total⟩ := Timestamp.after_total settled span
    rw [← total, Int.add_mul]
    omega

/-- A name and permissions that JSON escapes, and a lifetime that ends within a second. -/
theorem issued_token_validates_escaped :
    let settings : TokenSettings := ⟨"", "ï\"ss\\", "\x01"⟩
    let now : Timestamp := ⟨1700000000, 600000000⟩
    now.Covered ∧ (now.after 1400000001).Covered ∧
      validate settings (sign settings
        (issueFor settings now "é\n😀" ["api:gold", "", "api:gold"] (some 1400000001))) =
        .ok { subject := "é\n😀", permissions := ["api:gold", "", "api:gold"],
              issuedAt := 1700000000, expires := some 1700000002,
              audience := .one "\x01", issuer := "ï\"ss\\" } := by
  intro settings now
  have current : now.Covered := by decide
  have later : (now.after 1400000001).Covered := by decide
  have expiry : (now.after 1400000001).seconds = 1700000002 := by decide
  obtain ⟨passed, _⟩ := issued_token_validates settings now "é\n😀" ["api:gold", "", "api:gold"]
    (some 1400000001) current fun span given => by
      cases given
      exact later
  rw [Option.map_some, expiry] at passed
  exact ⟨current, later, passed⟩

end Token
end PolicyGate
