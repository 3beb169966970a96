import Sniff4Hound.Library.StepRun
import Sniff4Hound.Runtime.IpcFrames

/-!
# The server of the capture service

`IpcServer` of `ipc.py` as a step function. The session thread of each connection, the
dispatches handed to the pool, the threads that call `publish` and the one that calls `stop`
move in any order; a label says what came from outside (a frame, a failed `recv`, the peer
closing, what a handler returned).

* A frame is written whole or not at all, because of `_write_lock`; a write succeeds as long
  as neither end has closed the connection and the frame can be encoded within
  `MAX_FRAME_BYTES`.
* The pool takes a request as long as it has not been shut down. Which worker runs it and
  when is left open, so a dispatch is known by its connection and the position of its
  request there.
* `_note_slow_dispatch` reports and changes nothing here; of `timeout_seconds` only the
  conversion that may raise is kept.
* The dictionary of a frame is a `Value`; events and results are any objects, and the codec
  says which of them can be encoded.
-/

namespace Sniff4Hound.IpcServer

open Ipc

abbrev ConnId := Nat

abbrev CallId := Nat

structure Exc where
  text : String
  type : String
  deriving DecidableEq, Repr

inductive Reply (R : Type)
  | result (r : R)
  | error (exc : Exc)

/-- A frame that the server sends. -/
inductive Outgoing (E R : Type)
  | helloAck (ok : Bool)
  | response (id : Value) (reply : Reply R)
  | event (payload : E)

structure Config where
  token : String
  methods : List String
  rt : Runtime

inductive SessionPc
  | unused
  | hello
  | refuse
  | ack
  | subscribe
  | closePrevious (previous : Option ConnId)
  | loop
  | recv
  | inline (i : Nat)
  | ending
  | closing
  | closed
  deriving DecidableEq, Repr

inductive DispatchPc (R : Type)
  | none
  | queued
  | replying (result : R)
  | failing (exc : Exc)
  | done (raised : Bool)

/-- A connection with its session; `received` keeps what `_recv_frame` has returned. -/
structure Conn (R : Type) where
  pc : SessionPc
  isOpen : Bool
  received : List Value
  dispatch : Nat → DispatchPc R

/-- The position of a call of `publish`. -/
inductive CallPc
  | unused
  | sending (conn : ConnId)
  | failed (conn : ConnId)
  | returned
  deriving DecidableEq, Repr

/-- A call of `publish`. Of its beginning it keeps the connection that had subscribed last
and the calls that had returned. -/
structure Call (E : Type) where
  pc : CallPc
  event : Option E
  seen : Option ConnId
  after : List CallId

inductive Source
  | handshake
  | request (i : Nat)
  | call (k : CallId)
  deriving DecidableEq, Repr

structure Wire (E R : Type) where
  conn : ConnId
  source : Source
  frame : Outgoing E R

/-- The position of `stop`. -/
inductive StopPc
  | running
  | detach
  | close (client : Option ConnId)
  | shutdown
  | stopped
  deriving DecidableEq, Repr

/-- The server; `subscriber`, `called`, `returned` and `wire` are what has happened. -/
structure State (E R : Type) where
  conns : ConnId → Conn R
  client : Option ConnId
  stopEvent : Bool
  poolDown : Bool
  stopPc : StopPc
  calls : CallId → Call E
  subscriber : Option ConnId
  called : List (ConnId × Nat)
  returned : List CallId
  wire : List (Wire E R)

/-- A step of the server or of a peer. -/
inductive Act (E R : Type)
  | accept (c : ConnId)
  | peerCloses (c : ConnId)
  | frame (c : ConnId) (message : Value)
  | recvRaises (c : ConnId)
  | session (c : ConnId)
  | dispatch (c : ConnId) (i : Nat) (outcome : Reply R)
  | publish (k : CallId) (event : E)
  | publisher (k : CallId)
  | stop

variable {E R : Type}

def Conn.unused : Conn R := ⟨.unused, false, [], fun _ => .none⟩

def Call.unused : Call E := ⟨.unused, none, none, []⟩

def State.init : State E R where
  conns _ := .unused
  client := none
  stopEvent := false
  poolDown := false
  stopPc := .running
  calls _ := .unused
  subscriber := none
  called := []
  returned := []
  wire := []

namespace State

def setConn (s : State E R) (c : ConnId) (conn : Conn R) : State E R :=
  { s with conns := Function.update s.conns c conn }

/-- The session goes on at `pc`. -/
def goto (s : State E R) (c : ConnId) (pc : SessionPc) : State E R :=
  s.setConn c { s.conns c with pc := pc }

def setDispatch (s : State E R) (c : ConnId) (i : Nat) (pc : DispatchPc R) : State E R :=
  s.setConn c { s.conns c with dispatch := Function.update (s.conns c).dispatch i pc }

/-- `_close_socket` -/
def close (s : State E R) : Option ConnId → State E R
  | none => s
  | some c => s.setConn c { s.conns c with isOpen := false }

def setCall (s : State E R) (k : CallId) (call : Call E) : State E R :=
  { s with calls := Function.update s.calls k call }

/-- A call of `publish` returns. -/
def finish (s : State E R) (k : CallId) : State E R :=
  { s.setCall k { s.calls k with pc := .returned } with returned := s.returned ++ [k] }

def write (s : State E R) (c : ConnId) (source : Source) (frame : Outgoing E R) : State E R :=
  { s with wire := s.wire ++ [⟨c, source, frame⟩] }

/-- `if self._client_sock is conn: self._client_sock = None` -/
def unsubscribe (s : State E R) (c : ConnId) : State E R :=
  { s with client := if s.client = some c then none else s.client }

end State

/-! ## The handshake -/

/-- `_tokens_match`; nothing where it raises. -/
def tokens_match (candidate : Value) (expected : String) : Option Bool :=
  match candidate with
  | .str text => if expected = "" then some false else compare_digest text expected
  | _ => some false

/-- `message.get("kind") == kind` -/
def hasKind (entries : List (String × Value)) (kind : String) : Bool :=
  (Value.get entries "kind").eqv (.str kind)

def helloPc (cfg : Config) : Value → SessionPc
  | .dict hello =>
    if hasKind hello "hello" then
      match tokens_match (Value.get hello "token") cfg.token with
      | none => .closing
      | some true => .ack
      | some false => .refuse
    else .refuse
  | _ => .closing

/-! ## Steps -/

variable (codec : JsonCodec (Outgoing E R)) (cfg : Config)

def Sendable (frame : Outgoing E R) : Prop := (send_frame codec [] frame).toOption.isSome

instance (frame : Outgoing E R) : Decidable (Sendable codec frame) :=
  inferInstanceAs (Decidable (_ = true))

/-- `_send_frame` to the connection succeeds. -/
def sends (s : State E R) (c : ConnId) (frame : Outgoing E R) : Bool :=
  decide (Sendable codec frame) && (s.conns c).isOpen

/-- A frame comes out of `_recv_frame`. -/
def frameStep (s : State E R) (c : ConnId) (message : Value) : Option (State E R) :=
  let conn := s.conns c
  let heard := { conn with received := conn.received ++ [message] }
  match conn.pc with
  | .hello => some (s.setConn c { heard with pc := helloPc cfg message })
  | .recv =>
    match message with
    | .dict entries =>
      if hasKind entries "request" then
        some (s.setConn c { heard with
          pc := if s.poolDown then .inline conn.received.length else .loop
          dispatch := Function.update conn.dispatch conn.received.length .queued })
      else some (s.setConn c { heard with pc := .loop })
    -- a frame that is no dictionary has no `get`
    | _ => some (s.setConn c { heard with pc := .ending })
  | _ => none

def sessionStep (s : State E R) (c : ConnId) : Option (State E R) :=
  match (s.conns c).pc with
  | .refuse =>
    if sends codec s c (.helloAck false) then
      some ((s.goto c .closing).write c .handshake (.helloAck false))
    else some (s.goto c .closing)
  | .ack =>
    if sends codec s c (.helloAck true) then
      some ((s.goto c .subscribe).write c .handshake (.helloAck true))
    else some (s.goto c .closing)
  | .subscribe =>
    some { s.goto c (.closePrevious s.client) with client := some c, subscriber := some c }
  | .closePrevious previous => some ((s.close previous).goto c .loop)
  | .loop => some (s.goto c (if s.stopEvent then .ending else .recv))
  | .inline i =>
    match (s.conns c).dispatch i with
    | .done raised => some (s.goto c (if raised then .ending else .loop))
    | _ => none
  | .ending => some ((s.unsubscribe c).goto c .closing)
  | .closing => some (s.setConn c { s.conns c with pc := .closed, isOpen := false })
  | _ => none

/-- `recv` finds the connection closed, or the frame is refused. -/
def recvRaises (s : State E R) (c : ConnId) : Option (State E R) :=
  match (s.conns c).pc with
  | .hello => some (s.goto c .closing)
  | .recv => some (s.goto c .ending)
  | _ => none

/-- `float(value)` raises `OverflowError`. -/
def floatOverflows : Value → Bool
  | .int i => 2 ^ 1024 - 2 ^ 970 ≤ i.natAbs
  | _ => false

def unknownMethod (name : String) : Exc := ⟨"Unknown IPC method: " ++ name, "IpcError"⟩

/-- What the first `except` of `_dispatch` catches when the response was not sent. -/
def sendError (frame : Outgoing E R) (raised : Exc) : Exc :=
  match send_frame codec [] frame with
  | .error (.ipc text) => ⟨text, "IpcError"⟩
  | _ => raised

def Reply.exc : Reply R → Exc
  | .result _ => ⟨"", ""⟩
  | .error exc => exc

/-- The `i`-th frame of a connection, as a dictionary. -/
def request (s : State E R) (c : ConnId) (i : Nat) : List (String × Value) :=
  (((s.conns c).received)[i]?.getD .null).entriesOf

def dispatchStep (s : State E R) (c : ConnId) (i : Nat) (outcome : Reply R) :
    Option (State E R) :=
  let message := request s c i
  match (s.conns c).dispatch i with
  | .queued =>
    if floatOverflows (Value.get message "timeout_seconds") then
      some (s.setDispatch c i (.done true))
    else
      let method_name := (Value.get message "method").text cfg.rt
      if method_name ∈ cfg.methods then
        match (Value.get message "args").orElse (.dict []) with
        | .dict _ =>
          some { s.setDispatch c i (match outcome with
            | .result r => .replying r
            | .error exc => .failing exc) with called := s.called ++ [(c, i)] }
        -- only a dictionary can follow `**`
        | _ => some (s.setDispatch c i (.failing outcome.exc))
      else some (s.setDispatch c i (.failing (unknownMethod method_name)))
  | .replying r =>
    let frame : Outgoing E R := .response (Value.get message "id") (.result r)
    if sends codec s c frame then
      some ((s.setDispatch c i (.done false)).write c (.request i) frame)
    else some (s.setDispatch c i (.failing (sendError codec frame outcome.exc)))
  | .failing exc =>
    let frame : Outgoing E R := .response (Value.get message "id") (.error exc)
    if sends codec s c frame then
      some ((s.setDispatch c i (.done false)).write c (.request i) frame)
    else some (s.setDispatch c i (.done true))
  | _ => none

/-- `publish` reads the client. -/
def publishStep (s : State E R) (k : CallId) (event : E) : Option (State E R) :=
  match (s.calls k).pc with
  | .unused =>
    match s.client with
    | none => some ((s.setCall k ⟨.unused, some event, s.subscriber, s.returned⟩).finish k)
    | some c => some (s.setCall k ⟨.sending c, some event, s.subscriber, s.returned⟩)
  | _ => none

/-- The frame a call of `publish` sends. -/
def Call.frame (call : Call E) : Option (Outgoing E R) := call.event.map .event

/-- The rest of `publish`: the frame, and the `except` branch. -/
def publisherStep (s : State E R) (k : CallId) : Option (State E R) :=
  match (s.calls k).pc, (s.calls k).frame with
  | .sending c, some frame =>
    if sends codec s c frame then some ((s.finish k).write c (.call k) frame)
    else some (s.setCall k { s.calls k with pc := .failed c })
  | .failed c, some _ => some ((s.unsubscribe c).finish k)
  | _, _ => none

def stopStep (s : State E R) : Option (State E R) :=
  match s.stopPc with
  | .running => some { s with stopEvent := true, stopPc := .detach }
  | .detach => some { s with client := none, stopPc := .close s.client }
  | .close client => some { s.close client with stopPc := .shutdown }
  | .shutdown => some { s with poolDown := true, stopPc := .stopped }
  | .stopped => none

def step (s : State E R) : Act E R → Option (State E R)
  | .accept c =>
    if (s.conns c).pc = .unused then
      some (s.setConn c { s.conns c with pc := .hello, isOpen := true })
    else none
  | .peerCloses c =>
    if (s.conns c).pc = .unused then none else some (s.close (some c))
  | .frame c message => frameStep cfg s c message
  | .recvRaises c => recvRaises s c
  | .session c => sessionStep codec s c
  | .dispatch c i outcome => dispatchStep codec cfg s c i outcome
  | .publish k event => publishStep s k event
  | .publisher k => publisherStep codec s k
  | .stop => stopStep s

/-! ## A small service -/

/-- The text of a frame; the event `false` is an object `json.dumps` does not know. -/
def sampleText : Outgoing Bool Unit → Option String
  | .helloAck true => some "\x7b\"kind\": \"hello_ack\", \"ok\": true\x7d"
  | .helloAck false =>
    some "\x7b\"kind\": \"hello_ack\", \"ok\": false, \"error\": \"unauthorized\"\x7d"
  | .response id (.result _) =>
    some ("\x7b\"kind\": \"response\", \"id\": " ++ id.toText .ascii ++
      ", \"ok\": true, \"result\": null\x7d")
  | .response id (.error exc) =>
    some ("\x7b\"kind\": \"response\", \"id\": " ++ id.toText .ascii ++
      ", \"ok\": false, \"error\": \"" ++ exc.text ++ "\", \"error_type\": \"" ++ exc.type ++
      "\"\x7d")
  | .event true => some "\x7b\"kind\": \"event\", \"payload\": \x7b\"type\": \"packet\"\x7d\x7d"
  | .event false => none

def sampleCodec : JsonCodec (Outgoing Bool Unit) where
  dumps frame := (sampleText frame).map Bytes.ofText
  loads _ := none

/-- A service with the token `t0` and one method. -/
def sampleConfig : Config := ⟨"t0", ["snapshot"], .ascii⟩

def sampleHello : Value := .dict [("kind", .str "hello"), ("token", .str "t0")]

def sampleRequest : Value := .dict [("kind", .str "request"), ("id", .int 7),
  ("method", .str "snapshot")]

def sampleHandshake (c : ConnId) : List (Act Bool Unit) :=
  [.accept c, .frame c sampleHello, .session c, .session c, .session c, .session c]

end Sniff4Hound.IpcServer
