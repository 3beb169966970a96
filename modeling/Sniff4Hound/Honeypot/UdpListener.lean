import Mathlib.Algebra.Order.Ring.Rat
import Sniff4Hound.Honeypot.Replies
import Sniff4Hound.Library.StepRun

/-!
# A UDP listener of the honeypot

The UDP loop of `_listen` with `_handle_udp` and what it calls: the limit on replies, the replies, the
session and the packet. The sockets, the clock and the store answer as they like; the listener's
thread takes the steps, and the two stop events are set between them. An exception that leaves
`_handle_udp` leaves the loop as well: the `finally` clause closes the sockets, and the thread ends.
-/

namespace Sniff4Hound.Honeypot

def MAX_PACKET_SIZE : Nat := 4096

/-! ## The session -/

/-- What the store answers to the calls of one `_session_id`. It may look for two sessions, and the
answer is a function of the id alone: the table of the sessions does not change between the two. -/
structure StoreAnswers where
  get_session : Int → Except Raised Bool
  get_runtime_config : Except Raised String
  /-- the `id` of the row -/
  create_session : Except Raised Value
  set_runtime_config : Except Raised Unit

/-- `_session_id`; the value that it returns is the new `session_id` of the state. -/
def session_id (rt : Runtime) (store : StoreAnswers) (current : Int) : Except Raised Int := do
  let known ← (if current > 0 then store.get_session current else .ok false)
  if known then return current
  let existing := Value.safe_int rt (.str (← store.get_runtime_config)) 0
  let found ← (if existing ≠ 0 then store.get_session existing else .ok false)
  if found then return existing
  let created := Value.safe_int rt (← store.create_session) 0
  (if created ≠ 0 then store.set_runtime_config else .ok ())
  return created

/-! ## Replies -/

structure UdpEnv where
  rt : Runtime
  inet_aton : String → Option Bytes
  /-- `HONEYPOT_UDP_RESPONSE_RATE_WINDOW_SECONDS` -/
  window : Rat
  /-- `HONEYPOT_UDP_RESPONSE_RATE_LIMIT` -/
  limit : Nat
  /-- `HONEYPOT_UDP_RESPONSE_RATE_MAX_CLIENTS` -/
  max_clients : Nat

/-- `_udp_rate_windows` -/
abbrev RateWindows := Dict (Nat × String) (List Rat)

structure Moment where
  /-- `time.monotonic()` -/
  now : Rat
  ntp_seconds : Nat
  /-- `_socket_listener_ip`, before the reply and behind it -/
  reply_ip : String
  listener_ip : String
  store : StoreAnswers

def udp_response_allowed (env : UdpEnv) (windows : RateWindows) (port : Nat) (addr : Address)
    (now : Rat) : Bool × RateWindows :=
  if addr.ip = "" then (false, windows)
  else
    let cutoff := now - env.window
    let windows :=
      if windows.length > env.max_clients then
        windows.filter fun item => !(item.2.getLast?.all fun last => decide (last ≤ cutoff))
      else windows
    let key := (port, addr.ip)
    let seen := ((windows.lookup key).getD []).dropWhile fun t => decide (t ≤ cutoff)
    if seen.length ≥ env.limit then (false, Dict.set windows key seen)
    else (true, Dict.set windows key (seen ++ [now]))

/-- `_udp_response_for`, behind the limit. -/
def reply_for (env : UdpEnv) (port : Nat) (data : Bytes) (addr : Address) (moment : Moment) :
    Except Raised (Option Bytes) :=
  if port ∈ DNS_UDP_PORTS then
    (build_dns_response env.inet_aton data moment.reply_ip).map fun answer => some answer.1
  else if port ∈ NTP_UDP_PORTS then (build_ntp_response data moment.ntp_seconds).map some
  else if port ∈ SIP_UDP_PORTS then .ok (some (build_sip_response env.rt data addr))
  else if port ∈ SNMP_UDP_PORTS then .ok (some SNMP_RESPONSE)
  else if port ∈ SYSLOG_UDP_PORTS then (udpBanner 514).map some
  else if port ∈ RADIUS_UDP_PORTS then (udpBanner port).map some
  else if port ∈ MDNS_UDP_PORTS then .ok (some MDNS_BANNER)
  else .ok ((UDP_BANNERS.lookup port).map Banner.encode)

def udp_response_for (env : UdpEnv) (windows : RateWindows) (port : Nat) (data : Bytes)
    (addr : Address) (moment : Moment) : Except Raised (Option Bytes) × RateWindows :=
  if port = 68 then (.ok none, windows)
  else
    match udp_response_allowed env windows port addr moment.now with
    | (false, windows) => (.ok none, windows)
    | (true, windows) => (reply_for env port data addr moment, windows)

/-! ## A datagram -/

/-- `meta["dns"]`. -/
structure DnsMeta where
  questions : List DnsQuestion
  response_ip : String

/-- The packet of `_emit_packet`, as the arguments of `_build_packet`, which raises nothing of its
own, and its session. -/
structure HoneypotPacket where
  session_id : Int
  protocol : String
  port : Nat
  addr : Address
  data : Bytes
  banner_text : String
  summary : String
  dns : Option DnsMeta

structure UdpListener where
  port : Nat
  windows : RateWindows
  /-- `session_id` of the state -/
  session : Int
  /-- the errors of `_set_error` under the listener's name, the last one first -/
  errors : List String
  sent : List (Address × Bytes)
  /-- `_event_queue`, as far as this listener puts events into it -/
  events : List HoneypotPacket

/-- The `dns` entry of `_handle_udp`. -/
def dns_meta (env : UdpEnv) (port : Nat) (data : Bytes) (moment : Moment) :
    Except Raised (Option DnsMeta) :=
  if port ∈ DNS_UDP_PORTS then
    (build_dns_response env.inet_aton data moment.listener_ip).map fun answer =>
      if answer.2 = [] then none else some ⟨answer.2, moment.listener_ip⟩
  else .ok none

/-- `sendto`, if there is a reply; its exceptions are dropped, so that the reply counts as sent in any
case. -/
def UdpListener.sendto (l : UdpListener) (addr : Address) : Option Bytes → UdpListener
  | none => l
  | some reply => if reply = [] then l else { l with sent := l.sent ++ [(addr, reply)] }

def handle_udp (env : UdpEnv) (l : UdpListener) (addr : Address) (data : Bytes) (moment : Moment) :
    Except Raised Unit × UdpListener :=
  let (response, windows) := udp_response_for env l.windows l.port data addr moment
  let l := { l with windows := windows }
  match response with
  | .error e => (.error e, l)
  | .ok response =>
    let l := l.sendto addr response
    match dns_meta env l.port data moment with
    | .error e => (.error e, l)
    | .ok dns =>
      match session_id env.rt moment.store l.session with
      | .error e => (.error e, l)
      | .ok session =>
        (.ok (), { l with
          session := session
          events := l.events ++ [⟨session, "udp", l.port, addr, data, "UDP datagram",
            "UDP datagram", dns⟩] })

/-! ## The loop -/

/-- What `recvfrom` gives. -/
inductive Received
  | datagram (data : Bytes) (addr : Address) (moment : Moment)
  | osError (message : String)

inductive UdpPhase
  | head
  | selecting
  | reading (ready : List Nat)
  | closed
deriving DecidableEq

/-- One listener's thread. The engine shares the windows of the rate limit and the session with the
threads of its other listeners; here they are this thread's own. What the handling of a datagram
needs is said of the windows and the session it meets, whoever wrote them. -/
structure UdpThread where
  listener : UdpListener
  stop_event : Bool
  engine_stop : Bool
  phase : UdpPhase

/-- What the thread meets. -/
inductive UdpEvent
  | stopListener
  | stopEngine
  | looks
  /-- `select`: the sockets that are ready, or an `OSError` -/
  | selects (ready : Option (List Nat))
  | receives (received : Received)
  | roundEnds

def UdpThread.initial (port : Nat) : UdpThread where
  listener :=
    { port := port
      windows := []
      session := 0
      errors := []
      sent := []
      events := [] }
  stop_event := false
  engine_stop := false
  phase := .head

namespace UdpThread

def stopping (s : UdpThread) : Bool := s.stop_event || s.engine_stop

/-- One socket is read, and its datagram handled; `recvfrom` cuts a long one. -/
def receive (env : UdpEnv) (s : UdpThread) (rest : List Nat) : Received → UdpThread
  | .osError message =>
    if s.stopping then { s with phase := .head }
    else
      { s with
        listener := { s.listener with errors := message :: s.listener.errors }
        phase := .reading rest }
  | .datagram data addr moment =>
    if data = [] then { s with phase := .reading rest }
    else
      match handle_udp env s.listener addr (data.take MAX_PACKET_SIZE) moment with
      | (.ok (), listener) => { s with listener := listener, phase := .reading rest }
      | (.error _, listener) => { s with listener := listener, phase := .closed }

def step (env : UdpEnv) (s : UdpThread) : UdpEvent → Option UdpThread
  | .stopListener => some { s with stop_event := true }
  | .stopEngine => some { s with engine_stop := true }
  | .looks =>
    if s.phase = .head then
      some { s with phase := if s.stopping then .closed else .selecting }
    else none
  | .selects ready =>
    if s.phase = .selecting then
      match ready with
      | none => some { s with phase := if s.stopping then .closed else .head }
      | some ready => some { s with phase := .reading ready }
    else none
  | .receives received =>
    match s.phase with
    | .reading (_ :: rest) => some (s.receive env rest received)
    | _ => none
  | .roundEnds => if s.phase = .reading [] then some { s with phase := .head } else none

end UdpThread

end Sniff4Hound.Honeypot
