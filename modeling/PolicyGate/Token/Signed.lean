import PolicyGate.Text.Split
import PolicyGate.Text.Utf8
import PolicyGate.Token.Base64
import PolicyGate.Token.Claims
import PolicyGate.Token.Fault
import PolicyGate.Token.Header
import PolicyGate.Token.Sha256

/-!
Signed tokens: header, claims and signature, each in base 64, with points between them. The signature
is the HMAC-SHA256 of the first two parts under a shared secret.
-/
namespace PolicyGate

/-- The secret under which tokens are signed, who issues them and for whom. -/
structure TokenSettings where
  secret : String := "CHANGE_THIS_SECRET_IN_PRODUCTION"
  issuer : String := "rowgate"
  audience : String := "rowgate"
deriving DecidableEq

namespace Token

def base64 (text : String) : List Char := Base64.encode (Text.encodeUtf8 text.toList)

/-- The algorithm under which every token is signed. -/
def algorithm : String := "HS256"

/-- The header of the tokens that are issued here. -/
def header : Json := .object [("typ", .string "JWT"), ("alg", .string algorithm)]

/-- The signature of the first two parts of a token. -/
def signature (secret : String) (message : List Char) : List Char :=
  Base64.encode (Sha256.hmac (Text.encodeUtf8 secret.toList) (Text.encodeUtf8 message))

def sign (settings : TokenSettings) (claims : Claims) : String :=
  let message := base64 header.text ++ '.' :: base64 claims.toJson.text
  String.ofList (message ++ '.' :: signature settings.secret message)

/-- The claims for a token that is issued at a time, with a lifetime in nanoseconds if it is to
expire. -/
def issueFor (settings : TokenSettings) (now : Timestamp) (subject : String)
    (permissions : List String) (lifetime : Option Int) : Claims :=
  { subject, permissions, issuedAt := now.seconds,
    expires := lifetime.map fun span => (now.after span).seconds,
    audience := .one settings.audience, issuer := settings.issuer }

/-- The same with a lifetime in seconds. -/
def issue (settings : TokenSettings) (now : Timestamp) (subject : String) (permissions : List String)
    (lifetime : Option Int) : Claims :=
  issueFor settings now subject permissions (lifetime.map (· * nanosPerSecond))

/-- The header in a part of a token names that algorithm. -/
def isHeader (part : List Char) : Bool :=
  ((Base64.decode? part).bind fun bytes => Header.algorithm? (Text.decodeUtf8 bytes)) == some algorithm

/-- Whether a token is from the issuer and for the audience of the settings. A token without an
issuer passes. -/
def isForUs (settings : TokenSettings) (members : Fields Json) (claims : Claims) : Bool :=
  (!members.contains "iss" || claims.issuer == settings.issuer) &&
    claims.audience.contains settings.audience

/-- The claim for the time from which a token holds. -/
def startName : String := "nbf"

/-- The start of a token is not looked at, but it is no list or object with something in it. -/
def hasPlainStart (members : Fields Json) : Bool :=
  match members.get? startName with
  | some (.array items) => items.isEmpty
  | some (.object entries) => entries.isEmpty
  | _ => true

/-- The claims that a list spells, without an issuer. Its second item also stands for the start. -/
def listedClaims? (input : Json.Input) : Option (Fields Json) :=
  match Json.readInput input with
  | .ok (.array items) =>
    if items.length < Claims.names.length then
      some ((startName, items.getD 1 .null) :: Claims.names.zip items)
    else none
  | _ => none

/-- Reads the start of a token. A number beyond all bounds and a string with bytes that are no text are
passed over as far as they were read. -/
def readStart (s : Json.Input) : Json.Outcome Json :=
  match Json.valueWith none s with
  | .error ⟨.recursionLimit, _, _⟩ => Json.value Json.nestingLimit s
  | .error ⟨.numberOutOfRange, rest, _⟩ => .ok (.null, rest)
  | .error ⟨.invalidCodePoint, rest, _⟩ => .ok (.null, rest)
  | result => result

/-- What reads the claim of a name. -/
def claimReader? (name : String) : Option (Json.Input → Json.Outcome Json) :=
  if name = startName then some readStart
  else if Claims.names.contains name then some (Json.value Json.nestingLimit)
  else none

/-- The claims in a part of a token by their names. -/
def claimsPart? (part : List Char) : Option (Fields Json) :=
  (Base64.decode? part).bind fun bytes =>
    let input := Text.decodeUtf8 bytes
    match Json.skipBlanks input with
    | some '[' :: _ => listedClaims? input
    | _ => (Json.readKnown claimReader? input).toOption

/-- The claims of a token. The signature is checked before the claims are read; expiry is not looked
at. -/
def validate (settings : TokenSettings) (token : String) : Except AuthFault Claims :=
  match Text.splitOn '.' token.toList with
  | [head, body, sig] =>
    if isHeader head then
      if sig = signature settings.secret (head ++ '.' :: body) then
        match claimsPart? body with
        | some members =>
          match Claims.ofMembers? members with
          | some claims =>
            if hasPlainStart members && isForUs settings members claims then .ok claims
            else .error .malformedToken
          | none => .error .malformedToken
        | none => .error .malformedToken
      else .error .invalidSignature
    else .error .malformedToken
  | _ => .error .malformedToken

end Token
end PolicyGate
