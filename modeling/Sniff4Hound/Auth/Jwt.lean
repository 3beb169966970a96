import Mathlib.Data.NNRat.Floor
import Sniff4Hound.Capture.Bytes
import Sniff4Hound.Library.Base64

/-!
# Tokens

The JWT part of `auth.py`: a token is a JSON header, a JSON dictionary of claims and a signature
over the text of the two, each in unpadded base64. `none` stands for every way in which minting
raises, and in which a token is turned down. Claims are JSON values; the limits of the interpreter
on memory and recursion are left out.
-/

namespace Sniff4Hound.Auth

/-- What `hmac` and `hashlib` compute. -/
structure Hashes where
  hmac_sha256 : Bytes → Bytes → Bytes
  sha256 : Bytes → Bytes
  length_sha256 : ∀ data, (sha256 data).length = 32

abbrev Claims (φ : Type) := Dict String (Json φ)

/-- The module `auth` with its settings, over the floats `φ` of the interpreter. -/
structure JwtModule (φ : Type) where
  rt : Runtime
  codec : Json.Codec φ
  float_value : φ → Option Rat
  float_text : φ → String
  hashes : Hashes
  JWT_SECRET : String
  JWT_MAX_TTL_SECONDS : Nat
  codec_digits : codec.maxDigits = INT_MAX_STR_DIGITS
  ttl_bound : 60 ≤ JWT_MAX_TTL_SECONDS

def JWT_ALGORITHM : String := "HS256"
def JWT_ISSUER : String := "sniff4hound"
def JWT_AUDIENCE : String := "sniff4hound-api"
def JWT_KEY_VERSION : Nat := 1
def JWT_CLOCK_SKEW_SECONDS : Nat := 60

/-- `s.encode("utf-8")`. -/
def encodeUtf8 (s : String) : Bytes := s.toByteArray.data.toList

/-- `data.decode("utf-8")`; `none` when it raises. -/
def decodeUtf8 (data : Bytes) : Option String := String.fromUTF8? ⟨data.toArray⟩

def b64url_encode (data : Bytes) : String := String.ofList (Base64.encode data)

def b64url_decode (value : String) : Option Bytes :=
  if isascii value then Base64.decode value.toList else none

def audience_matches {φ : Type} : Json φ → Bool
  | .str s => s = JWT_AUDIENCE
  | .list items => items.any fun
      | .str s => s = JWT_AUDIENCE
      | _ => false
  | _ => false

namespace JwtModule

variable {φ : Type} (m : JwtModule φ)

def ofJson : Json φ → Value := Value.ofJson m.float_value m.float_text

/-- `claims.get(key)`. -/
def get (claims : Claims φ) (key : String) : Value := m.ofJson ((claims.lookup key).getD .null)

/-- `claims.setdefault(key, value)`. -/
def setdefault (claims : Claims φ) (key : String) (value : Json φ) : Claims φ :=
  if (claims.lookup key).isSome then claims else claims.set key value

def derive_signing_key (secret : String) (version : Nat) : Bytes :=
  m.hashes.hmac_sha256 (encodeUtf8 secret)
    (encodeUtf8 ("sniff4hound-jwt-key-v" ++ toString version))

def SIGNING_KEY : Bytes := m.derive_signing_key m.JWT_SECRET JWT_KEY_VERSION

def JWT_KEY_ID : String := slice (m.hashes.sha256 m.SIGNING_KEY).hex 16

def jwt_sign (signing_input : String) : String :=
  b64url_encode (m.hashes.hmac_sha256 m.SIGNING_KEY (encodeUtf8 signing_input))

def header : Claims φ :=
  [("alg", .str JWT_ALGORITHM), ("typ", .str "JWT"), ("kid", .str m.JWT_KEY_ID)]

def stamp (payload : Claims φ) : Claims φ :=
  setdefault (setdefault payload "iss" (.str JWT_ISSUER)) "aud" (.str JWT_AUDIENCE)

def encode_jwt (payload : Claims φ) : Option String := do
  let header ← Json.dumps m.codec (.dict m.header)
  let claims ← Json.dumps m.codec (.dict (stamp payload))
  let signing_input :=
    b64url_encode (encodeUtf8 header) ++ "." ++ b64url_encode (encodeUtf8 claims)
  some (signing_input ++ "." ++ m.jwt_sign signing_input)

/-- `json.loads(_b64url_decode(segment).decode("utf-8"))`, of which only a dictionary has the
method `get`. -/
def load_segment (segment : String) : Option (Claims φ) := do
  let data ← b64url_decode segment
  let text ← decodeUtf8 data
  match ← Json.loads m.codec text with
  | .dict entries => some entries
  | _ => none

def is_jwt_revoked (revoked : List String) (jti : Value) : Bool :=
  let value := strip (jti.text m.rt)
  value ≠ "" && value ∈ revoked

def header_names (header : Claims φ) : Option Bool :=
  if (m.get header "alg").text m.rt ≠ JWT_ALGORITHM then some false
  else
    let key_id := (m.get header "kid").text m.rt
    if key_id = "" then some false else compare_digest key_id m.JWT_KEY_ID

/-- `value is not None and fails(int(value))`; `none` when `int` raises. -/
def time_fails (fails : Int → Bool) : Value → Option Bool
  | .null => some false
  | value => (value.toInt? m.rt).map fails

/-- What the claims are checked for, at `now` whole seconds; `none` when a check raises. -/
def claims_hold (revoked : List String) (now : Nat) (claims : Claims φ) : Option Bool := do
  if (m.get claims "iss").text m.rt ≠ JWT_ISSUER then some false
  else if !audience_matches ((claims.lookup "aud").getD .null) then some false
  else if ← m.time_fails (fun exp => exp < now) (m.get claims "exp") then some false
  else if ← m.time_fails (fun nbf => nbf > now + JWT_CLOCK_SKEW_SECONDS) (m.get claims "nbf") then
    some false
  else some (!m.is_jwt_revoked revoked (m.get claims "jti"))

/-- The claims of a token that is accepted at `time`. -/
def decode_jwt (revoked : List String) (time : NNRat) (token : Option String) :
    Option (Claims φ) :=
  match splitAtMost '.' 2 (token.getD "").toList with
  | [header_b64, payload_b64, signature_b64] => do
    let header ← m.load_segment header_b64
    if (← m.header_names header) = false then none
    else
      let signing_input := header_b64 ++ "." ++ payload_b64
      if (← compare_digest signature_b64 (m.jwt_sign signing_input)) = false then none
      else do
        let payload ← m.load_segment payload_b64
        if (← m.claims_hold revoked ⌊time⌋₊ payload) = false then none else some payload
  | _ => none

def ttl (expires_in : Int) : Int := min (max 1 expires_in) m.JWT_MAX_TTL_SECONDS

/-- `generate_token` at `time`, with the random text of the new `jti`. -/
def generate_token (time : NNRat) (user scope : String) (expires_in : Value) (extra : Claims φ)
    (jti : String) : Option String := do
  let now : Int := ⌊time⌋₊
  let ttl := m.ttl (← expires_in.toInt? m.rt)
  let payload : Claims φ :=
    [("iss", .str JWT_ISSUER), ("aud", .str JWT_AUDIENCE),
      ("user", .str (if user = "" then "operator" else user)),
      ("scope", .str (if scope = "" then "session" else scope)), ("jti", .str jti),
      ("iat", .int now), ("nbf", .int now), ("exp", .int (now + ttl))]
  m.encode_jwt (payload.update extra)

end JwtModule

end Sniff4Hound.Auth
