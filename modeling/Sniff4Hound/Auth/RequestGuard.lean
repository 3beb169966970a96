import Sniff4Hound.Auth.Jwt
import Sniff4Hound.Auth.RateLimiter

/-!
# The guard of requests

`_guard_request_auth` of `app.py`: the credential of a request is read from its headers, checked as a
token or as the security code, and each failure is counted against the source address. A check that
raises ends the request with an error, so that it does not pass.
-/

namespace Sniff4Hound.Auth

structure Request where
  headers : Dict String String
  query : Dict String String
  client : Option String

def client_address (request : Request) : String :=
  let client := request.client.getD ""
  if client = "" then "unknown" else client

/-- `value or None`. -/
def nonempty (value : String) : Option String := if value = "" then none else some value

/-- `name.lower()`, for the names of headers, which are ASCII. -/
def lowerName (name : String) : String := String.ofList (name.toList.map Char.toLower)

/-- `_request_header`: the first of the names that has a value, as written or in lower case. -/
def request_header (headers : Dict String String) : List String → Option String
  | [] => none
  | name :: names =>
    let value := (headers.lookup name).bind nonempty
    let lower := (headers.lookup (lowerName name)).bind nonempty
    (value.or lower).or (request_header headers names)

def extract_request_query_token (query : Dict String String) : Option String :=
  (["security_code", "access_token", "token", "auth"].findSome? fun key =>
    (query.lookup key).bind nonempty).bind fun value => nonempty (strip value)

def extract_token_from_header (auth_header : Option String) : Option String :=
  (auth_header.bind nonempty).map fun header =>
    if startswith header "Bearer " then strip (String.ofList (header.toList.drop 7))
    else strip header

/-- The token of the header `Authorization`. -/
def header_token (headers : Dict String String) : Option String :=
  (extract_token_from_header (request_header headers ["Authorization", "authorization"])).bind
    nonempty

def DIRECT_HEADERS : List String :=
  ["X-Security-Code", "x-security-code", "X-Access-Token", "x-access-token"]

def extract_request_token (request : Request) (allow_query : Bool) : Option String :=
  match header_token request.headers with
  | some token => some token
  | none =>
    match request_header request.headers DIRECT_HEADERS with
    | some direct_token => nonempty (strip direct_token)
    | none => if allow_query then extract_request_query_token request.query else none

/-- The modules `auth` and `app` with their settings. -/
structure GuardModule (φ : Type) extends JwtModule φ where
  REQUIRE_AUTH : Bool
  SESSION_TOKEN : String
  RATE_LIMITER : LimiterConfig

structure Moment where
  /-- `time.monotonic()` -/
  now : Rat
  /-- `time.time()` -/
  time : NNRat
  revoked : List String

/-- What the guard answers; `failed` stands for an exception. -/
inductive Verdict
  | passed
  | unauthorized
  | rate_limited (retry_after : Rat)
  | failed

namespace GuardModule

variable {φ : Type} (m : GuardModule φ)

/-- `verify_token`; `none` when the comparison raises. -/
def verify_token (moment : Moment) (token : Option String) : Option Bool :=
  match token.bind nonempty with
  | none => some !m.REQUIRE_AUTH
  | some token => do
    let candidate := strip token
    if ← compare_digest candidate m.SESSION_TOKEN then some true
    else some (m.decode_jwt moment.revoked moment.time (some candidate)).isSome

/-- `authenticate_request`; `none` when the comparison raises. -/
def authenticate_request (moment : Moment) (token : Option String) : Option Bool :=
  match token.bind nonempty with
  | none => some !m.REQUIRE_AUTH
  | some token =>
    if (m.decode_jwt moment.revoked moment.time (some token)).isSome then some true
    else m.verify_token moment (some token)

/-- `_guard_request_auth`: the verdict, and the table of the limiter. -/
def guard_request_auth (moment : Moment) (clients : Clients) (request : Request)
    (allow_query : Bool) : Verdict × Clients :=
  if m.REQUIRE_AUTH = false then (.passed, clients)
  else
    let client := some (client_address request)
    match m.authenticate_request moment (extract_request_token request allow_query) with
    | none => (.failed, clients)
    | some true => (.passed, m.RATE_LIMITER.register_success clients client)
    | some false =>
      match m.RATE_LIMITER.check clients client moment.now with
      | ((false, retry_after), clients) => (.rate_limited retry_after, clients)
      | ((true, _), clients) =>
        match m.RATE_LIMITER.register_failure clients client moment.now with
        | (none, clients) => (.failed, clients)
        | (some _, clients) => (.unauthorized, clients)

end GuardModule

end Sniff4Hound.Auth
