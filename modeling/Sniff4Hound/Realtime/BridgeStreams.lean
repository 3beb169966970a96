import Sniff4Hound.Library.Dict
import Sniff4Hound.Library.StepRun

/-!
# Bridged streams

`createStreamRegistry` and `openBridgeStream` of `bridge-streams.js`, with the calls that `main.js`
makes. The main process handles one event at a time; each event is a step, in whatever order the
network, the timers and the windows bring them. Streams are numbered in the order in which they were
opened, so that an id that is used again names another stream. What the requests report while they
are being aborted comes as an event of its own: their streams are finished by then.
-/

namespace Sniff4Hound.Realtime

def STREAM_PENDING_LIMIT : Nat := 8 * 1024 * 1024

/-! ## The limit of what is pending -/

def EVENT_BOUNDARIES : List (List UInt8) := [[13, 10, 13, 10], [10, 10], [13, 13]]

def LONGEST_BOUNDARY : Nat := 4

def lastBoundaryEnd (boundary : List UInt8) : List UInt8 → Option Nat
  | [] => none
  | b :: buffer =>
    match lastBoundaryEnd boundary buffer with
    | some place => some (place + 1)
    | none => if boundary <+: b :: buffer then some boundary.length else none

def lastEventBoundaryEnd (buffer : List UInt8) : Option Nat :=
  (EVENT_BOUNDARIES.filterMap fun boundary => lastBoundaryEnd boundary buffer).max?

/-- `createPendingEventLimiter`. -/
structure Limiter where
  pending : Nat
  tail : List UInt8

/-- `push`: whether no more is pending than the limit allows. -/
def Limiter.push (limit : Nat) (l : Limiter) (chunk : List UInt8) : Bool × Limiter :=
  let joined := l.tail ++ chunk
  let pending := match lastEventBoundaryEnd joined with
    | none => l.pending + chunk.length
    | some place => joined.length - place
  (decide (pending ≤ limit), ⟨pending, joined.drop (joined.length - (LONGEST_BOUNDARY - 1))⟩)

/-! ## Streams -/

inductive BridgeMessage
  | data (chunk : String)
  | ended (status : Nat)
  | error (message : String)
deriving DecidableEq

def BridgeMessage.terminal : BridgeMessage → Bool
  | .data _ => false
  | _ => true

/-- The variables of one `openBridgeStream`, and what it has sent. -/
structure BridgeStream where
  id : String
  ownerId : Nat
  finished : Bool
  timeout : Option Nat
  limiter : Limiter
  decoded : List (List UInt8)
  sent : List BridgeMessage
  aborted : Nat

/-- An entry of the registry; its `request` and `cleanup` are those of the stream. -/
structure RegistryEntry where
  stream : Nat
  ownerId : Nat
deriving DecidableEq

structure BridgeEnv where
  limit : Nat
  write : List (List UInt8) → List UInt8 → String

/-- The streams, the registry and the timers. -/
structure Bridge where
  streams : Nat → Option BridgeStream
  opened : Nat
  /-- `streams` of the registry, by id -/
  registry : Dict String RegistryEntry
  timers : Nat → Option Nat
  scheduled : Nat
  watched : List Nat

def Bridge.initial : Bridge where
  streams := fun _ => none
  opened := 0
  registry := []
  timers := fun _ => none
  scheduled := 0
  watched := []

namespace Bridge

def setStream (s : Bridge) (k : Nat) (stream : BridgeStream) : Bridge :=
  { s with streams := Function.update s.streams k (some stream) }

/-- `clearTimeout`. -/
def cancel (s : Bridge) (timeout : Option Nat) : Bridge :=
  match timeout with
  | none => s
  | some timer => { s with timers := Function.update s.timers timer none }

def release (s : Bridge) (id : String) (ownerId : Nat) : Bridge :=
  match s.registry.lookup id with
  | none => s
  | some entry =>
    if entry.ownerId = ownerId then { s with registry := s.registry.erase id } else s

/-- `cleanup` of a stream: whether it was not finished before. -/
def cleanup (s : Bridge) (k : Nat) : Bool × Bridge :=
  match s.streams k with
  | none => (false, s)
  | some stream =>
    if stream.finished then (false, s)
    else
      let s := (s.cancel stream.timeout).setStream k
        { stream with finished := true, timeout := none }
      (true, s.release stream.id stream.ownerId)

def send (s : Bridge) (k : Nat) (message : BridgeMessage) : Bridge :=
  match s.streams k with
  | none => s
  | some stream => s.setStream k { stream with sent := stream.sent ++ [message] }

/-- `request.abort()`. -/
def abortRequest (s : Bridge) (k : Nat) : Bridge :=
  match s.streams k with
  | none => s
  | some stream => s.setStream k { stream with aborted := stream.aborted + 1 }

def finish (s : Bridge) (k : Nat) (message : BridgeMessage) : Bridge :=
  match s.cleanup k with
  | (false, s) => s
  | (true, s) => s.send k message

def fail (s : Bridge) (k : Nat) (message : String) : Bridge :=
  match s.cleanup k with
  | (false, s) => s
  | (true, s) => (s.abortRequest k).send k (.error message)

def refreshTimeout (s : Bridge) (k : Nat) : Bridge :=
  match s.streams k with
  | none => s
  | some stream =>
    if stream.finished then s
    else
      let s := s.cancel stream.timeout
      { s.setStream k { stream with timeout := some s.scheduled } with
        timers := Function.update s.timers s.scheduled (some k)
        scheduled := s.scheduled + 1 }

/-- `openBridgeStream`; `prepared` says that the request could be made and took its headers. When an
exception leaves it before the stream is registered, nothing is changed. -/
def openStream (s : Bridge) (id : String) (ownerId : Nat) (prepared : Bool) : Bridge :=
  if id = "" ∨ (s.registry.lookup id).isSome then s
  else if prepared = false then s
  else
    let k := s.opened
    let stream : BridgeStream :=
      { id := id
        ownerId := ownerId
        finished := false
        timeout := none
        limiter := ⟨0, []⟩
        decoded := []
        sent := []
        aborted := 0 }
    refreshTimeout { s.setStream k stream with
      opened := k + 1
      registry := s.registry.set id ⟨k, ownerId⟩ } k

/-- `response.on("data")`. -/
def receive (env : BridgeEnv) (s : Bridge) (k : Nat) (chunk : List UInt8) : Bridge :=
  match s.streams k with
  | none => s
  | some stream =>
    if stream.finished then s
    else
      let s := s.refreshTimeout k
      match s.streams k with
      | none => s
      | some stream =>
        let (fits, limiter) := stream.limiter.push env.limit chunk
        let s := s.setStream k { stream with limiter := limiter }
        if fits = false then s.fail k "Stream is too large."
        else
          (s.setStream k { stream with
            limiter := limiter
            decoded := stream.decoded ++ [chunk] }).send k
            (.data (env.write stream.decoded chunk))

def abort (s : Bridge) (k : Nat) : Bridge :=
  match s.cleanup k with
  | (false, s) => s
  | (true, s) => s.abortRequest k

def abortOwner (s : Bridge) (ownerId : Nat) : Bridge :=
  let entries := s.registry.map Prod.snd
  let s := (entries.filter fun entry => entry.ownerId = ownerId).foldl
    (fun s entry => s.abort entry.stream) s
  { s with registry := s.registry.filter fun entry => entry.2.ownerId ≠ ownerId }

def abortAll (s : Bridge) : Bridge :=
  { (s.registry.map Prod.snd).foldl (fun s entry => s.abort entry.stream) s with registry := [] }

/-- The handler of `desktop-http:stream-close`. -/
def closeStream (s : Bridge) (id : String) (sender : Nat) : Bridge :=
  match s.registry.lookup id with
  | none => s
  | some entry =>
    if entry.ownerId = sender then ((s.cleanup entry.stream).2).abortRequest entry.stream else s

end Bridge

/-- What is known of a navigation: `isMainFrame` and `isSameDocument`, when they are booleans, and
the positional arguments. -/
structure Navigation where
  isMainFrame : Option Bool
  isSameDocument : Option Bool
  isInPlace : Option Bool
  positionalMainFrame : Option Bool

def isMainFrameDocumentNavigation (details : Navigation) : Bool :=
  let mainFrame := details.isMainFrame.or details.positionalMainFrame
  let sameDocument := details.isSameDocument.or details.isInPlace
  mainFrame = some true && sameDocument = some false

/-- What a request, a timer or a window brings. -/
inductive BridgeEvent
  | opens (id : String) (ownerId : Nat) (prepared : Bool)
  | watch (ownerId : Nat)
  | data (k : Nat) (chunk : List UInt8)
  | ended (k : Nat) (status : Nat)
  | responseError (k : Nat) (message : String)
  | requestError (k : Nat) (message : String)
  | timer (timer : Nat)
  | destroyed (ownerId : Nat)
  | navigation (ownerId : Nat) (details : Navigation)
  | close (id : String) (sender : Nat)
  | abortAll

def Bridge.step (env : BridgeEnv) (s : Bridge) : BridgeEvent → Option Bridge
  | .opens id ownerId prepared => some (s.openStream id ownerId prepared)
  | .watch ownerId => some { s with watched := if ownerId ∈ s.watched then s.watched else
      s.watched ++ [ownerId] }
  | .data k chunk => some (s.receive env k chunk)
  | .ended k status => some (s.finish k (.ended status))
  | .responseError k message => some (s.finish k (.error message))
  | .requestError k message => some (s.finish k (.error message))
  | .timer timer =>
    (s.timers timer).map fun k =>
      { s with timers := Function.update s.timers timer none }.fail k "Stream timed out."
  | .destroyed ownerId => some (if ownerId ∈ s.watched then s.abortOwner ownerId else s)
  | .navigation ownerId details =>
    some (if ownerId ∈ s.watched && isMainFrameDocumentNavigation details then
      s.abortOwner ownerId else s)
  | .close id sender => some (s.closeStream id sender)
  | .abortAll => some s.abortAll

end Sniff4Hound.Realtime
