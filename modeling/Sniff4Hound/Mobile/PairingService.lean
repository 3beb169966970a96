import Sniff4Hound.Capture.Bytes
import Sniff4Hound.Library.StepRun
import Mathlib.Data.Rat.Floor

/-!
# Pairing phones

`mobile_stream.py`: the operator draws a link for one phone. The first device that opens the link is
shown to the operator, and only when the operator accepts it does a code exist. The device that types
the code within a minute gets a session token.

The records keep their times in seconds, and 0 for what has not happened. The clock is read several
times within one call; a call is given all its readings.
-/

namespace Sniff4Hound.Mobile

def PAIRING_APPROVAL_TTL_SECONDS : Rat := 300

def PAIRING_TTL_SECONDS : Rat := 60

def MOBILE_SESSION_IDLE_TTL_SECONDS : Rat := 24 * 60 * 60

def MOBILE_SESSION_ABSOLUTE_TTL_SECONDS : Rat := 30 * 24 * 60 * 60

def MOBILE_STREAM_DEFAULT_PORT : Int := 45679

/-- What `start` reads of an `InterfaceAddress`. -/
structure InterfaceAddress where
  name : String
  address : String
  loopback : Bool

/-- `serial` is not in the code: the number of pairings drawn before this one. -/
structure Pairing where
  id : String
  interface : String
  address : String
  port : Int
  created_at : Rat
  expires_at : Rat
  code : String := ""
  seen_at : Rat := 0
  approved_at : Rat := 0
  consumed_at : Rat := 0
  failed_at : Rat := 0
  client : String := ""
  user_agent : String := ""
  seen_at_utc : String := ""
  serial : Nat

structure MobileSession where
  token : String
  interface : String
  address : String
  client : String
  user_agent : String
  created_at : Rat
  last_seen : Rat
  revoked_at : Rat := 0

/-- What `_prune_sessions_locked` drops. -/
def MobileSession.Expired (session : MobileSession) (now : Rat) : Prop :=
  session.revoked_at ≠ 0 ∨ MOBILE_SESSION_IDLE_TTL_SECONDS < now - session.last_seen ∨
    MOBILE_SESSION_ABSOLUTE_TTL_SECONDS < now - session.created_at

instance (session : MobileSession) (now : Rat) : Decidable (session.Expired now) :=
  inferInstanceAs (Decidable (_ ∨ _))

structure MobileServerState where
  interface : String := ""
  address : String := ""
  port : Int := MOBILE_STREAM_DEFAULT_PORT
  running : Bool := false
  url_base : String := ""
  mdns_url_base : String := ""

structure Clock where
  revoked : Rat
  prune : Rat
  sessions : Rat
  now : Rat
  revoked_le : revoked ≤ prune
  prune_le : prune ≤ sessions
  sessions_le : sessions ≤ now

def Clock.at (now : Rat) : Clock := ⟨now, now, now, now, le_refl _, le_refl _, le_refl _⟩

/-- What the service did for a pairing; `denied` is a code that got no token. -/
inductive Event
  | opened (serial : Nat) (client : String) (now : Rat)
  | approved (serial : Nat) (code : String) (now : Rat)
  | denied (serial : Nat) (client code : String) (now : Rat)
  | issued (serial : Nat) (client code token : String) (now : Rat)
deriving DecidableEq

def Event.serial : Event → Nat
  | opened n .. => n
  | approved n .. => n
  | denied n .. => n
  | issued n .. => n

/-- `created` and `log` are not in the code: how many pairings were drawn, and what was done for
them so far. -/
structure MobileStreamService where
  pairings : Dict String Pairing := []
  sessions : Dict String MobileSession := []
  state : MobileServerState := {}
  created : Nat := 0
  log : List Event := []

/-- The status of `_pairing_view`. -/
def Pairing.status (p : Pairing) (now : Rat) : String :=
  if p.expires_at ≤ now then "expired"
  else if p.failed_at ≠ 0 then "closed"
  else if p.consumed_at ≠ 0 then "paired"
  else if p.approved_at ≠ 0 then "waiting_code"
  else if p.seen_at ≠ 0 then "awaiting_approval"
  else "pending"

/-- `_pairing_view`, with the links of `_add_pairing_urls`. -/
structure PairingView where
  id : String
  interface : String
  address : String
  port : Int
  status : String
  code : String
  seen : Bool
  approved : Bool
  client : String
  user_agent : String
  seen_at : String
  expires_in : Int
  url : String := ""
  mdns_url : String := ""

def Pairing.view (p : Pairing) (now : Rat) : PairingView where
  id := p.id
  interface := p.interface
  address := p.address
  port := p.port
  status := p.status now
  code := p.code
  seen := p.seen_at ≠ 0
  approved := p.approved_at ≠ 0
  client := p.client
  user_agent := p.user_agent
  seen_at := p.seen_at_utc
  expires_in := max 0 ⌊p.expires_at - now⌋

def Pairing.knock (p : Pairing) (now : Rat) (utc client user_agent : String) : Pairing :=
  if p.approved_at = 0 ∧ p.seen_at = 0 then
    { p with
      seen_at := now
      seen_at_utc := utc
      client := client
      user_agent := slice user_agent 180 }
  else p

def Pairing.accept (p : Pairing) (now : Rat) (code : String) : Pairing :=
  { p with
    approved_at := now
    code := code
    expires_at := now + PAIRING_TTL_SECONDS }

/-- `f"{secrets.randbelow(1_000_000):06d}"`. -/
def sixDigits (draw : Fin 1000000) : String := padLeft 6 (toString draw.val)

/-- The network of the host: what `discover_interfaces` finds, why `_listen` fails, and the name that
is published. -/
structure Network where
  interfaces : List InterfaceAddress
  fails : Option String
  mdns_hostname : String

namespace MobileStreamService

def prune_sessions (s : MobileStreamService) (now : Rat) : MobileStreamService :=
  { s with sessions := s.sessions.filter fun (entry : String × MobileSession) =>
    ¬entry.2.Expired now }

/-- `_prune_locked`. -/
def prune (s : MobileStreamService) (clock : Clock) : MobileStreamService :=
  let s := { s with pairings := s.pairings.filter fun (entry : String × Pairing) =>
    ¬(entry.2.expires_at ≤ clock.prune ∨ entry.2.failed_at ≠ 0) }
  s.prune_sessions clock.sessions

/-- `status`, of which the answer shows every pairing. -/
def status (s : MobileStreamService) (clock : Clock) : List PairingView × MobileStreamService :=
  let s := s.prune clock
  (s.pairings.map fun entry => entry.2.view clock.now, s)

/-- `stop`; the sessions are revoked, and `status` then drops them. -/
def stop (s : MobileStreamService) (clock : Clock) : MobileStreamService :=
  let s :=
    { s with
      state := {}
      pairings := []
      sessions := s.sessions.map fun (entry : String × MobileSession) =>
        (entry.1, { entry.2 with revoked_at := clock.revoked }) }
  (s.status clock).2

def listen (s : MobileStreamService) (clock : Clock) (network : Network) (interface address : String)
    (port : Int) : Except String Unit × MobileStreamService :=
  match network.fails with
  | some reason => (.error reason, s)
  | none =>
    let s :=
      { s with
        state :=
          { interface := interface
            address := address
            port := port
            running := true
            url_base := "https://" ++ address ++ ":" ++ toString port
            mdns_url_base :=
              if network.mdns_hostname = "" then ""
              else "https://" ++ network.mdns_hostname ++ ":" ++ toString port } }
    (.ok (), (s.status clock).2)

def start (rt : Runtime) (s : MobileStreamService) (clock : Clock) (network : Network)
    (interface : String) (port : Value) : Except String Unit × MobileStreamService :=
  let interface := strip interface
  if interface = "" then (.error "interface is required", s)
  else
    match network.interfaces.find? fun item => item.name = interface with
    | none => (.error ("interface '" ++ interface ++ "' is not available"), s)
    | some selected =>
      if selected.loopback then
        (.error "loopback interfaces cannot be used for mobile streaming", s)
      else
        let port := max 1 (min 65535 (Value.safe_int rt port MOBILE_STREAM_DEFAULT_PORT))
        if s.state.running ∧ s.state.interface = selected.name ∧ s.state.port = port then
          (.ok (), (s.status clock).2)
        else (s.stop clock).listen clock network selected.name selected.address port

/-- `_add_pairing_urls`. -/
def addUrls (s : MobileStreamService) (view : PairingView) (p : Pairing) : PairingView :=
  let path := "/mobile/pair/" ++ p.id
  { view with
    url := s.state.url_base ++ path
    mdns_url := if s.state.mdns_url_base = "" then "" else s.state.mdns_url_base ++ path }

/-- `create_pairing`; the id is a fresh random text. -/
def create_pairing (rt : Runtime) (s : MobileStreamService) (clock : Clock) (network : Network)
    (pairing_id interface : String) (port : Value) :
    Except String PairingView × MobileStreamService :=
  match s.start rt clock network interface port with
  | (.error reason, s) => (.error reason, s)
  | (.ok (), s) =>
    let p : Pairing :=
      { id := pairing_id
        interface := s.state.interface
        address := s.state.address
        port := s.state.port
        created_at := clock.now
        expires_at := clock.now + PAIRING_APPROVAL_TTL_SECONDS
        serial := s.created }
    (.ok (s.addUrls (p.view clock.now) p),
      { s with pairings := s.pairings.set pairing_id p, created := s.created + 1 })

/-- `open_pairing`: no code is issued. -/
def open_pairing (s : MobileStreamService) (clock : Clock)
    (utc pairing_id client user_agent : String) : Option Pairing × MobileStreamService :=
  let s := s.prune clock
  match s.pairings.lookup pairing_id with
  | none => (none, s)
  | some p =>
    if p.consumed_at ≠ 0 ∨ p.failed_at ≠ 0 then (none, s)
    else if p.expires_at ≤ clock.now then (none, { s with pairings := s.pairings.erase p.id })
    else
      let p := p.knock clock.now utc client user_agent
      (some p,
        { s with
          pairings := s.pairings.set pairing_id p
          log := s.log ++ [.opened p.serial client clock.now] })

/-- `approve_pairing`: a pairing that no device has opened is not accepted in advance. -/
def approve_pairing (s : MobileStreamService) (clock : Clock) (draw : Fin 1000000)
    (pairing_id : String) : Option PairingView × MobileStreamService :=
  let s := s.prune clock
  match s.pairings.lookup pairing_id with
  | none => (none, s)
  | some p =>
    if p.consumed_at ≠ 0 ∨ p.failed_at ≠ 0 then (none, s)
    else if p.expires_at ≤ clock.now then (none, { s with pairings := s.pairings.erase p.id })
    else if p.seen_at = 0 then (none, s)
    else if p.approved_at = 0 then
      let p := p.accept clock.now (sixDigits draw)
      (some (s.addUrls (p.view clock.now) p),
        { s with
          pairings := s.pairings.set pairing_id p
          log := s.log ++ [.approved p.serial p.code clock.now] })
    else (some (s.addUrls (p.view clock.now) p), s)

/-- `verify_pairing`: a wrong device or a wrong code closes an approved pairing, the right ones
consume it. -/
def verify_pairing (s : MobileStreamService) (now : Rat)
    (token pairing_id code client user_agent : String) : Option String × MobileStreamService :=
  match s.pairings.lookup pairing_id with
  | none => (none, s)
  | some p =>
    let denied := { s with log := s.log ++ [.denied p.serial client code now] }
    let failed :=
      { denied with pairings := s.pairings.set pairing_id { p with failed_at := now } }
    if p.expires_at ≤ now ∨ p.consumed_at ≠ 0 ∨ p.failed_at ≠ 0 then (none, denied)
    else if p.approved_at = 0 ∨ p.code = "" then (none, denied)
    else if p.client ≠ "" ∧ client ≠ p.client then (none, failed)
    else if strip code ≠ p.code then (none, failed)
    else
      let session : MobileSession :=
        { token := token
          interface := p.interface
          address := p.address
          client := client
          user_agent := slice user_agent 180
          created_at := now
          last_seen := now }
      (some token,
        { s with
          sessions := s.sessions.set token session
          pairings := (s.pairings.set pairing_id { p with consumed_at := now }).erase p.id
          log := s.log ++ [.issued p.serial client code token now] })

end MobileStreamService

/-! ## Runs -/

inductive Call
  | create (network : Network) (pairing_id interface : String) (port : Value)
  | «open» (utc pairing_id client user_agent : String)
  | approve (draw : Fin 1000000) (pairing_id : String)
  | verify (token pairing_id code client user_agent : String)
  | status
  | stop

structure Label where
  clock : Clock
  call : Call

/-- The service, and the time of the last call. -/
structure Machine where
  service : MobileStreamService := {}
  time : Rat

def MobileStreamService.answer (rt : Runtime) (s : MobileStreamService) (label : Label) :
    MobileStreamService :=
  match label.call with
  | .create network pairing_id interface port =>
    (s.create_pairing rt label.clock network pairing_id interface port).2
  | .open utc pairing_id client user_agent =>
    (s.open_pairing label.clock utc pairing_id client user_agent).2
  | .approve draw pairing_id => (s.approve_pairing label.clock draw pairing_id).2
  | .verify token pairing_id code client user_agent =>
    (s.verify_pairing label.clock.now token pairing_id code client user_agent).2
  | .status => (s.status label.clock).2
  | .stop => s.stop label.clock

def Machine.step (rt : Runtime) (m : Machine) (label : Label) : Option Machine :=
  if m.time ≤ label.clock.revoked then
    some { service := m.service.answer rt label, time := label.clock.now }
  else none

end Sniff4Hound.Mobile
