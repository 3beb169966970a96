import Sniff4Hound.Realtime.RealtimeChannel

/-!
# The channel in both directions

`RealtimeChannel` with its sessions, the half that sends, and listeners that call `send` and `close`
whenever they are told of something. The loop of `consumeEvents` does not look whether the channel was
closed meanwhile, and an open listener is told before the messages from before the session are flushed.
A run in which neither happens is lawful (`channel_lawful`): one close event and nothing behind it, a
closed channel stays closed, and the messages are posted in the order of the calls.
-/

namespace Sniff4Hound.Realtime

inductive ListenerCall
  | send (data : String)
  | close (code : Int) (reason : String)

/-- A message and the number of its `send`. -/
abbrev Numbered := Nat × String

/-- A request of `post`, with the session it names. -/
structure Posted where
  session : String
  message : Numbered
deriving DecidableEq

/-- The channel with what waits to be posted. -/
structure Duplex where
  /-- the stream of the bridge, unless the channel reads an `EventSource` -/
  streamId : Option String
  readyState : ReadyState
  sessionId : String
  finished : Bool
  /-- until `stopListening` or `source.close` -/
  listening : Bool
  buffer : List Char
  pending : List Numbered
  /-- what the promises of `sendChain` have still to post -/
  chain : List Numbered
  awaited : Bool
  posted : List Posted
  /-- the calls of `send` that did not throw -/
  sent : List Numbered
  dispatched : List Dispatched
  /-- what was assigned to `readyState` -/
  states : List ReadyState

def Duplex.new (streamId : Option String) : Duplex where
  streamId := streamId
  readyState := .connecting
  sessionId := ""
  finished := false
  listening := true
  buffer := []
  pending := []
  chain := []
  awaited := false
  posted := []
  sent := []
  dispatched := []
  states := [.connecting]

structure DuplexEnv where
  /-- The calls of each listener, which may depend on all that happened. One that throws ends them. -/
  listeners : Duplex → Dispatched → List (List ListenerCall)
  /-- `String(value || "")` -/
  sessionText : Option (Json Bool) → String

variable (env : DuplexEnv)

namespace Duplex

/-- `this.readyState = state`. -/
def enter (c : Duplex) (state : ReadyState) : Duplex :=
  { c with readyState := state, states := c.states ++ [state] }

def tell (c : Duplex) (event : Dispatched) : Duplex :=
  { c with dispatched := c.dispatched ++ [event] }

/-- `finish`. A listener finds the channel closed, where `send` throws and `close` does nothing. -/
def finish (c : Duplex) (code : Option Int) (reason : Option String) : Duplex :=
  if c.finished then c
  else ({ c with finished := true, listening := false, pending := [] }.enter .closed).tell
    (.closed code reason)

def post (c : Duplex) (message : Numbered) : Duplex := { c with chain := c.chain ++ [message] }

/-- `send`; `none` when it throws. -/
def send (c : Duplex) (data : String) : Option Duplex :=
  if c.readyState = .closed ∨ c.readyState = .closing then none
  else
    let message := (c.sent.length, data)
    let c := { c with sent := c.sent ++ [message] }
    if c.sessionId = "" then some { c with pending := c.pending ++ [message] }
    else some (c.post message)

def close (c : Duplex) (code : Int) (reason : String) : Duplex :=
  if c.readyState = .closed ∨ c.readyState = .closing then c
  else (c.enter .closing).finish (some code) (some reason)

def call (c : Duplex) : ListenerCall → Option Duplex
  | .send data => c.send data
  | .close code reason => some (c.close code reason)

def listen (c : Duplex) : List ListenerCall → Duplex
  | [] => c
  | first :: rest =>
    match c.call first with
    | none => c
    | some c => c.listen rest

def dispatch (c : Duplex) (event : Dispatched) : Duplex :=
  let c := c.tell event
  (env.listeners c event).foldl listen c

def flushPending (c : Duplex) : Duplex := { c with chain := c.chain ++ c.pending, pending := [] }

def named (c : Duplex) (session : String) : Duplex := { c with sessionId := session }.enter .opened

def handleMessage (c : Duplex) (data : String) : Duplex :=
  let payload := parseJson data
  if isType payload "session" then
    ((c.named (env.sessionText (field payload "session"))).dispatch env .opened).flushPending
  else
    let c := c.dispatch env (.message data)
    if isType payload "auth_required" then
      c.finish (some ChannelState.AUTH_CLOSE_CODE) (some "Unauthorized")
    else c

def handleServerClose (c : Duplex) (data : String) : Duplex :=
  let detail := parseJson (if data = "" then "\x7b\x7d" else data)
  c.finish (closeNumber (field detail "code")) (closeReason (field detail "reason"))

/-- One round of `consumeEvents`. -/
def handleBlock (c : Duplex) (block : List Char) : Duplex :=
  let fields := ChannelState.readBlock block
  if fields.data = [] then c
  else
    let data := String.ofList (['\n'].intercalate fields.data)
    if fields.name = "close".toList then c.handleServerClose data else c.handleMessage env data

/-- The loop of `consumeEvents`, with rounds enough. -/
def consume : Nat → Duplex → List Char → Duplex
  | 0, c, buffer => { c with buffer := buffer }
  | rounds + 1, c, buffer =>
    match BlankLines.cut '\n' buffer with
    | none => { c with buffer := buffer }
    | some (block, rest) => consume rounds (c.handleBlock env block) rest

def handleStreamMessage (c : Duplex) : StreamBody → Duplex
  | .data chunk =>
    let buffer := c.buffer ++ chunk.toList
    c.consume env buffer.length buffer
  | .ended => c.finish (some 1006) (some "connection lost")
  | .error message =>
    c.finish (some 1006) (some (if message = "" then "connection lost" else message))

end Duplex

/-- What reaches the channel. -/
inductive ChannelInput
  | stream (message : StreamMessage)
  /-- `httpStreamOpen` is rejected -/
  | openFailed
  /-- an event of the `EventSource`, a close event or a message -/
  | source (close : Bool) (data : String)
  | sourceError
  | send (data : String)
  | close (code : Int) (reason : String)
  /-- the next promise of `sendChain` posts its message, or fails before -/
  | post
  | skip
  /-- the request is answered, and the session is gone or not -/
  | answer (gone : Bool)

namespace Duplex

def Hears (c : Duplex) (message : StreamMessage) : Prop :=
  c.listening = true ∧ c.streamId = some message.id

instance (c : Duplex) (message : StreamMessage) : Decidable (c.Hears message) :=
  inferInstanceAs (Decidable (_ ∧ _))

def step (c : Duplex) : ChannelInput → Duplex
  | .stream message =>
    if c.Hears message then c.handleStreamMessage env message.body else c
  | .openFailed => if c.streamId = none then c else c.finish (some 1006) (some "connection lost")
  | .source close data =>
    if c.streamId = none ∧ c.listening then
      if close then c.handleServerClose data else c.handleMessage env data
    else c
  | .sourceError =>
    if c.streamId = none ∧ c.listening then c.finish (some 1006) (some "connection lost") else c
  | .send data => (c.send data).getD c
  | .close code reason => c.close code reason
  | .post =>
    match c.awaited, c.chain with
    | false, message :: rest => { c with
        chain := rest
        awaited := true
        posted := c.posted ++ [⟨c.sessionId, message⟩] }
    | _, _ => c
  | .skip =>
    match c.awaited, c.chain with
    | false, _ :: rest => { c with chain := rest }
    | _, _ => c
  | .answer gone =>
    if c.awaited then
      let c := { c with awaited := false }
      if gone then c.finish (some 1001) (some "realtime session ended") else c
    else c

end Duplex

/-! ## The law -/

def Dispatched.isClosed : Dispatched → Bool
  | .closed .. => true
  | _ => false

/-- Nothing is dispatched behind a close event, the channel never leaves `CLOSED`, and the requests
are made in the order of the calls, once each. -/
structure LawfulChannel (c : Duplex) : Prop where
  last : ∀ told event rest, c.dispatched = told ++ event :: rest → event.isClosed = true → rest = []
  stays : ∀ before rest, c.states = before ++ .closed :: rest → ∀ state ∈ rest, state = .closed
  order : (c.posted.map Posted.message).Sublist c.sent
  once : ((c.posted.map Posted.message).map Prod.fst).Pairwise (· < ·)

/-- When a session comes, nothing is pending, or the session has no name, or no open listener sends
anything. -/
def OpensInOrder (c : Duplex) (data : String) : Prop :=
  isType (parseJson data) "session" = true →
    let session := env.sessionText (field (parseJson data) "session")
    c.pending = [] ∨ session = "" ∨
      ∀ calls ∈ env.listeners ((c.named session).tell .opened) .opened, ∀ call ∈ calls,
        ∃ code reason, call = .close code reason

/-- An event of a chunk comes to a channel that is not closed, unless it is a close event itself. -/
def InTime (c : Duplex) (block : List Char) : Prop :=
  let fields := ChannelState.readBlock block
  fields.data = [] ∨ fields.name = "close".toList ∨
    c.finished = false ∧ OpensInOrder env c (String.ofList (['\n'].intercalate fields.data))

def AllInTime : Nat → Duplex → List Char → Prop
  | 0, _, _ => True
  | rounds + 1, c, buffer =>
    match BlankLines.cut '\n' buffer with
    | none => True
    | some (block, rest) => InTime env c block ∧ AllInTime rounds (c.handleBlock env block) rest

/-- The input meets no message that an open listener would overtake. -/
def InOrder (c : Duplex) : ChannelInput → Prop
  | .stream ⟨id, .data chunk⟩ =>
    c.Hears ⟨id, .data chunk⟩ → AllInTime env (c.buffer ++ chunk.toList).length c
      (c.buffer ++ chunk.toList)
  | .source false data => c.listening = true → OpensInOrder env c data
  | _ => True

def RunsInOrder : Duplex → List ChannelInput → Prop
  | _, [] => True
  | c, input :: inputs => InOrder env c input ∧ RunsInOrder (c.step env input) inputs

/-! ## The parts of a step -/

section Steps

variable {env} {c c' : Duplex}

/-- A channel that is not finished has told of no close and was never closed; a finished one stays as
it is. The messages that are not posted yet come behind those that are. -/
structure Orderly (c : Duplex) : Prop where
  fresh : c.finished = false → (∀ event ∈ c.dispatched, event.isClosed = false) ∧
    .closed ∉ c.states
  closed : c.finished = true → c.readyState = .closed ∧ c.listening = false ∧ c.pending = [] ∧
    (∃ told code reason, c.dispatched = told ++ [.closed code reason] ∧
      ∀ event ∈ told, event.isClosed = false) ∧
    ∃ states, c.states = states ++ [.closed] ∧ .closed ∉ states
  order : (c.posted.map Posted.message ++ c.chain ++ c.pending).Sublist c.sent
  numbers : c.sent.map Prod.fst = List.range c.sent.length

def Flushed (c : Duplex) : Prop := c.sessionId = "" ∨ c.pending = []

theorem orderly_new (streamId : Option String) : Orderly (.new streamId) where
  fresh _ := ⟨nofun, fun hMem => nomatch List.mem_singleton.mp hMem⟩
  closed := nofun
  order := List.nil_sublist _
  numbers := rfl

theorem Orderly.finish (h : Orderly c) (code : Option Int) (reason : Option String) :
    Orderly (c.finish code reason) := by
  rw [Duplex.finish]
  cases hFinished : c.finished with
  | true => exact h
  | false =>
    obtain ⟨hTold, hStates⟩ := h.fresh hFinished
    refine ⟨nofun, fun _ => ⟨rfl, rfl, rfl, ⟨_, code, reason, rfl, hTold⟩, _, rfl, hStates⟩, ?_,
      h.numbers⟩
    exact (List.Sublist.append_left (List.nil_sublist c.pending) _).trans h.order

theorem Flushed.finish (h : Flushed c) (code : Option Int) (reason : Option String) :
    Flushed (c.finish code reason) := by
  rw [Duplex.finish]
  split
  · exact h
  · exact Or.inr rfl

theorem Orderly.tell (h : Orderly c) (hOpen : c.finished = false) {event : Dispatched}
    (hEvent : event.isClosed = false) : Orderly (c.tell event) where
  fresh _ := by
    obtain ⟨hTold, hStates⟩ := h.fresh hOpen
    refine ⟨fun told hMem => ?_, hStates⟩
    rcases List.mem_append.mp hMem with hMem | hMem
    · exact hTold told hMem
    · exact List.mem_singleton.mp hMem ▸ hEvent
  closed hFinished := absurd hFinished (by rw [Duplex.tell, hOpen]; decide)
  order := h.order
  numbers := h.numbers

theorem Orderly.enter (h : Orderly c) (hOpen : c.finished = false) (state : ReadyState)
    (hState : state ≠ .closed) : Orderly (c.enter state) where
  fresh _ := by
    obtain ⟨hTold, hStates⟩ := h.fresh hOpen
    refine ⟨hTold, fun hMem => ?_⟩
    rcases List.mem_append.mp hMem with hMem | hMem
    · exact hStates hMem
    · exact hState (List.mem_singleton.mp hMem).symm
  closed hFinished := absurd hFinished (by rw [Duplex.enter, hOpen]; decide)
  order := h.order
  numbers := h.numbers

theorem Orderly.named (h : Orderly c) (hOpen : c.finished = false) (session : String) :
    Orderly (c.named session) :=
  Orderly.enter (c := { c with sessionId := session }) ⟨h.fresh, h.closed, h.order, h.numbers⟩ hOpen
    .opened nofun

theorem Orderly.close (h : Orderly c) (code : Int) (reason : String) : Orderly (c.close code reason) := by
  rw [Duplex.close]
  split
  · exact h
  · next hState =>
    cases hFinished : c.finished with
    | true => exact absurd (Or.inl (h.closed hFinished).1) hState
    | false => exact (h.enter hFinished .closing nofun).finish _ _

theorem Flushed.close (h : Flushed c) (code : Int) (reason : String) :
    Flushed (c.close code reason) := by
  rw [Duplex.close]
  split
  · exact h
  · exact Flushed.finish (c := c.enter .closing) h _ _

theorem Orderly.send (h : Orderly c) (hFlushed : Flushed c) {data : String}
    (hSend : c.send data = some c') : Orderly c' ∧ Flushed c' := by
  rw [Duplex.send] at hSend
  split at hSend
  · cases hSend
  next hState =>
  have hOpen : c.finished = false := by
    rw [← Bool.not_eq_true]
    exact fun hFinished => hState (Or.inl (h.closed hFinished).1)
  have hNumbers : (c.sent ++ [(c.sent.length, data)]).map Prod.fst =
      List.range (c.sent ++ [(c.sent.length, data)]).length := by
    rw [List.map_append, h.numbers, List.length_append, List.length_singleton, List.range_succ]
    rfl
  have hMore := h.order.append_right [(c.sent.length, data)]
  have hFinished : c.finished ≠ true := by rw [hOpen]; decide
  dsimp only at hSend
  split at hSend
  · next hUnnamed =>
    cases hSend
    refine ⟨⟨h.fresh, fun hOver => absurd hOver hFinished, ?_, hNumbers⟩, Or.inl hUnnamed⟩
    rw [List.append_assoc] at hMore
    exact hMore
  · next hNamed =>
    cases hSend
    have hNone := hFlushed.resolve_left hNamed
    refine ⟨⟨h.fresh, fun hOver => absurd hOver hFinished, ?_, hNumbers⟩, Or.inr hNone⟩
    rw [hNone, List.append_nil] at hMore
    rw [Duplex.post, hNone, List.append_nil, ← List.append_assoc]
    exact hMore

theorem Orderly.flushPending (h : Orderly c) : Orderly c.flushPending ∧ Flushed c.flushPending := by
  refine ⟨⟨h.fresh, fun hOver => ?_, ?_, h.numbers⟩, Or.inr rfl⟩
  · obtain ⟨hState, hDeaf, -, hTold⟩ := h.closed hOver
    exact ⟨hState, hDeaf, rfl, hTold⟩
  · rw [Duplex.flushPending, List.append_nil, ← List.append_assoc]
    exact h.order

/-! ## Listeners -/

theorem foldl_listen {I : Duplex → Prop} {allowed : ListenerCall → Prop}
    (hCall : ∀ c call c', allowed call → I c → c.call call = some c' → I c')
    {listeners : List (List ListenerCall)} (h : I c)
    (hAllowed : ∀ calls ∈ listeners, ∀ call ∈ calls, allowed call) :
    I (listeners.foldl Duplex.listen c) := by
  have hListen : ∀ (calls : List ListenerCall) (c : Duplex), I c → (∀ call ∈ calls, allowed call) →
      I (c.listen calls) := by
    intro calls
    induction calls with
    | nil => exact fun c h _ => h
    | cons first rest ih =>
      intro c h hCalls
      rw [Duplex.listen]
      cases hFirst : c.call first with
      | none => exact h
      | some c' =>
        exact ih c' (hCall c first c' (hCalls first List.mem_cons_self) h hFirst)
          fun call hMem => hCalls call (List.mem_cons_of_mem _ hMem)
  induction listeners generalizing c with
  | nil => exact h
  | cons calls listeners ih =>
    exact ih (hListen calls c h (hAllowed calls List.mem_cons_self))
      fun calls' hMem => hAllowed calls' (List.mem_cons_of_mem _ hMem)

theorem orderly_call (call : ListenerCall) (h : Orderly c ∧ Flushed c) (hCall : c.call call = some c') :
    Orderly c' ∧ Flushed c' := by
  cases call with
  | send data => exact h.1.send h.2 hCall
  | close code reason =>
    cases hCall
    exact ⟨h.1.close code reason, h.2.close code reason⟩

variable (h : Orderly c)

include h

variable (hFlushed : Flushed c)

include hFlushed

theorem Orderly.listened (listeners : List (List ListenerCall)) :
    Orderly (listeners.foldl Duplex.listen c) ∧ Flushed (listeners.foldl Duplex.listen c) :=
  @foldl_listen c (fun c => Orderly c ∧ Flushed c) (fun _ => True)
    (fun _ call _ _ hBoth hCall => orderly_call call hBoth hCall) listeners ⟨h, hFlushed⟩
    fun _ _ _ _ => trivial

omit hFlushed in
theorem Orderly.heard {listeners : List (List ListenerCall)}
    (hQuiet : ∀ calls ∈ listeners, ∀ call ∈ calls, ∃ code reason, call = .close code reason) :
    Orderly (listeners.foldl Duplex.listen c) := by
  refine foldl_listen ?_ h hQuiet
  rintro c call c' ⟨code, reason, rfl⟩ hOrderly hCall
  cases hCall
  exact hOrderly.close code reason

/-! ## Events -/

theorem Orderly.handleMessage (hOpen : c.finished = false)
    {data : String} (hOrder : OpensInOrder env c data) :
    Orderly (c.handleMessage env data) ∧ Flushed (c.handleMessage env data) := by
  rw [Duplex.handleMessage]
  dsimp only
  split
  · next hSession =>
    have hNamed := (h.named hOpen (env.sessionText (field (parseJson data) "session"))).tell hOpen
      (show Dispatched.opened.isClosed = false from rfl)
    rcases hOrder hSession with hNone | hUnnamed | hQuiet
    · exact (hNamed.listened (Or.inr hNone) _).1.flushPending
    · exact (hNamed.listened (Or.inl hUnnamed) _).1.flushPending
    · exact (hNamed.heard hQuiet).flushPending
  · obtain ⟨hTold, hAfter⟩ :=
      (h.tell hOpen (show (Dispatched.message data).isClosed = false from rfl)).listened hFlushed
        (env.listeners (c.tell (.message data)) (.message data))
    split
    · exact ⟨hTold.finish _ _, hAfter.finish _ _⟩
    · exact ⟨hTold, hAfter⟩

theorem Orderly.handleBlock {block : List Char} (hTime : InTime env c block) :
    Orderly (c.handleBlock env block) ∧ Flushed (c.handleBlock env block) := by
  rw [Duplex.handleBlock]
  dsimp only
  split
  · exact ⟨h, hFlushed⟩
  next hData =>
  split
  · exact ⟨h.finish _ _, hFlushed.finish _ _⟩
  · next hName =>
    obtain ⟨hOpen, hOrder⟩ := (hTime.resolve_left hData).resolve_left hName
    exact h.handleMessage hFlushed hOpen hOrder

theorem Orderly.consume {rounds : Nat} {buffer : List Char}
    (hTime : AllInTime env rounds c buffer) :
    Orderly (c.consume env rounds buffer) ∧ Flushed (c.consume env rounds buffer) := by
  induction rounds generalizing c buffer with
  | zero => exact ⟨⟨h.fresh, h.closed, h.order, h.numbers⟩, hFlushed⟩
  | succ rounds ih =>
    rw [Duplex.consume]
    rw [AllInTime] at hTime
    cases hCut : BlankLines.cut '\n' buffer with
    | none => exact ⟨⟨h.fresh, h.closed, h.order, h.numbers⟩, hFlushed⟩
    | some parts =>
      rw [hCut] at hTime
      obtain ⟨hHandled, hAfter⟩ := h.handleBlock hFlushed hTime.1
      exact ih hHandled hAfter hTime.2

theorem Orderly.step {input : ChannelInput} (hOrder : InOrder env c input) :
    Orderly (c.step env input) ∧ Flushed (c.step env input) := by
  have hFinish : ∀ code reason, Orderly (c.finish code reason) ∧ Flushed (c.finish code reason) :=
    fun code reason => ⟨h.finish code reason, hFlushed.finish code reason⟩
  cases input with
  | stream message =>
    rw [Duplex.step]
    split
    · next hHears =>
      obtain ⟨id, body⟩ := message
      cases body with
      | data chunk =>
        have hTime := hOrder hHears
        exact h.consume hFlushed hTime
      | ended => exact hFinish _ _
      | error message => exact hFinish _ _
    · exact ⟨h, hFlushed⟩
  | openFailed =>
    rw [Duplex.step]
    split
    · exact ⟨h, hFlushed⟩
    · exact hFinish _ _
  | source close data =>
    rw [Duplex.step]
    split
    · next hListens =>
      cases close with
      | true => exact hFinish _ _
      | false =>
        have hOpen : c.finished = false := by
          rw [← Bool.not_eq_true]
          intro hFinished
          rw [(h.closed hFinished).2.1] at hListens
          exact absurd hListens.2 (by decide)
        exact h.handleMessage hFlushed hOpen (hOrder hListens.2)
    · exact ⟨h, hFlushed⟩
  | sourceError =>
    rw [Duplex.step]
    split
    · exact hFinish _ _
    · exact ⟨h, hFlushed⟩
  | send data =>
    rw [Duplex.step]
    cases hSend : c.send data with
    | none => exact ⟨h, hFlushed⟩
    | some c' => exact h.send hFlushed hSend
  | close code reason => exact ⟨h.close code reason, hFlushed.close code reason⟩
  | post =>
    rw [Duplex.step]
    split
    · next message rest _ hChain =>
      refine ⟨⟨h.fresh, h.closed, ?_, h.numbers⟩, hFlushed⟩
      have hSame := h.order
      rw [hChain, ← List.singleton_append, ← List.append_assoc] at hSame
      dsimp only
      rw [List.map_append]
      exact hSame
    · exact ⟨h, hFlushed⟩
  | skip =>
    rw [Duplex.step]
    split
    · next message rest _ hChain =>
      refine ⟨⟨h.fresh, h.closed, ?_, h.numbers⟩, hFlushed⟩
      have hSame := h.order
      rw [hChain] at hSame
      refine List.Sublist.trans ?_ hSame
      exact ((List.sublist_cons_self _ _).append_left _).append_right _
    · exact ⟨h, hFlushed⟩
  | answer gone =>
    rw [Duplex.step]
    have hSame : Orderly { c with awaited := false } := ⟨h.fresh, h.closed, h.order, h.numbers⟩
    split
    · dsimp only
      split
      · exact ⟨hSame.finish _ _, Flushed.finish (c := { c with awaited := false }) hFlushed _ _⟩
      · exact ⟨hSame, hFlushed⟩
    · exact ⟨h, hFlushed⟩

/-! ## Runs -/

theorem orderly_run {inputs : List ChannelInput} (hRun : RunsInOrder env c inputs) :
    Orderly (inputs.foldl (Duplex.step env) c) := by
  induction inputs generalizing c with
  | nil => exact h
  | cons input inputs ih =>
    obtain ⟨hAfter, hStill⟩ := h.step hFlushed hRun.1
    exact ih hAfter hStill hRun.2

omit hFlushed

theorem Orderly.lawful : LawfulChannel c := by
  have hPosted : (c.posted.map Posted.message).Sublist c.sent := by
    refine List.Sublist.trans ?_ h.order
    rw [List.append_assoc]
    exact List.sublist_append_left _ _
  have hOnce : ((c.posted.map Posted.message).map Prod.fst).Pairwise (· < ·) := by
    refine List.Pairwise.sublist (hPosted.map _) ?_
    rw [h.numbers]
    exact List.pairwise_lt_range
  refine ⟨fun told event rest hTold hClosed => ?_, fun before rest hStates => ?_, hPosted, hOnce⟩
  · cases hFinished : c.finished with
    | false =>
      have hNever := (h.fresh hFinished).1 event (by rw [hTold]; simp)
      rw [hNever] at hClosed
      cases hClosed
    | true =>
      obtain ⟨-, -, -, ⟨before, code, reason, hEnd, hNone⟩, -⟩ := h.closed hFinished
      obtain rfl | ⟨middle, last, rfl⟩ := List.eq_nil_or_concat' rest
      · rfl
      · rw [hEnd, ← List.cons_append, ← List.append_assoc] at hTold
        have hMem : event ∈ before := by
          rw [(List.append_inj' hTold rfl).1]
          simp
        rw [hNone event hMem] at hClosed
        cases hClosed
  · cases hFinished : c.finished with
    | false => exact absurd (by rw [hStates]; simp) (h.fresh hFinished).2
    | true =>
      obtain ⟨-, -, -, -, states, hEnd, hNone⟩ := h.closed hFinished
      obtain rfl | ⟨middle, last, rfl⟩ := List.eq_nil_or_concat' rest
      · nofun
      · rw [hEnd, ← List.cons_append, ← List.append_assoc] at hStates
        refine absurd ?_ hNone
        rw [(List.append_inj' hStates rfl).1]
        simp

end Steps

/-- A run in which every event of a chunk comes to a channel that is not closed, and every session to
one whose pending messages no open listener overtakes, is lawful. -/
theorem channel_lawful (streamId : Option String) (inputs : List ChannelInput)
    (hRun : RunsInOrder env (.new streamId) inputs) :
    LawfulChannel (inputs.foldl (Duplex.step env) (.new streamId)) :=
  (orderly_run (orderly_new streamId) (Or.inl rfl) hRun).lawful

/-! ## Runs in order, decided -/

instance (call : ListenerCall) : Decidable (∃ code reason, call = .close code reason) :=
  match call with
  | .send _ => isFalse nofun
  | .close code reason => isTrue ⟨code, reason, rfl⟩

instance (c : Duplex) (data : String) : Decidable (OpensInOrder env c data) :=
  inferInstanceAs (Decidable (_ → _ ∨ _ ∨ ∀ calls ∈ _, ∀ call ∈ calls, _))

instance (c : Duplex) (block : List Char) : Decidable (InTime env c block) :=
  inferInstanceAs (Decidable (_ ∨ _ ∨ _ ∧ OpensInOrder env c _))

instance decidableAllInTime : (rounds : Nat) → (c : Duplex) → (buffer : List Char) →
    Decidable (AllInTime env rounds c buffer)
  | 0, _, _ => isTrue trivial
  | rounds + 1, c, buffer =>
    match hCut : BlankLines.cut '\n' buffer with
    | none => isTrue (by rw [AllInTime, hCut]; trivial)
    | some (block, rest) =>
      have := decidableAllInTime rounds (c.handleBlock env block) rest
      decidable_of_iff (InTime env c block ∧ AllInTime env rounds (c.handleBlock env block) rest)
        (by rw [AllInTime, hCut])

instance (c : Duplex) : (input : ChannelInput) → Decidable (InOrder env c input)
  | .stream ⟨id, .data chunk⟩ =>
    inferInstanceAs (Decidable (c.Hears ⟨id, .data chunk⟩ → AllInTime env _ c _))
  | .source false data => inferInstanceAs (Decidable (c.listening = true → OpensInOrder env c data))
  | .stream ⟨_, .ended⟩ | .stream ⟨_, .error _⟩ | .source true _ | .openFailed | .sourceError
  | .send _ | .close _ _ | .post | .skip | .answer _ => isTrue trivial

instance decidableRunsInOrder : (c : Duplex) → (inputs : List ChannelInput) →
    Decidable (RunsInOrder env c inputs)
  | _, [] => isTrue trivial
  | c, input :: inputs =>
    have := decidableRunsInOrder (c.step env input) inputs
    inferInstanceAs (Decidable (InOrder env c input ∧ RunsInOrder env (c.step env input) inputs))

def idleEnv : DuplexEnv := ⟨fun _ _ => [], fun _ => ""⟩

/-- A listener answers every message. -/
def answeringEnv : DuplexEnv where
  listeners _ event := match event with
    | .message data => [[.send ("got " ++ data)]]
    | _ => []
  sessionText
    | some (.str session) => session
    | _ => ""

/-- A message that waits for the session, one that is sent by a listener, and the end of the
channel. -/
def namedSession : List ChannelInput :=
  [.send "a",
    .stream ⟨"realtime-1", .data "data: \x7b\"type\": \"session\", \"session\": \"s1\"\x7d\n\ndata: b"⟩,
    .post, .stream ⟨"realtime-1", .data "\n\n"⟩, .answer false, .post, .close 1000 ""]

theorem waiting_lawful :
    (namedSession.foldl (Duplex.step answeringEnv) (.new (some "realtime-1"))).posted =
      [⟨"s1", 0, "a"⟩, ⟨"s1", 1, "got b"⟩] ∧
    LawfulChannel (namedSession.foldl (Duplex.step answeringEnv) (.new (some "realtime-1"))) :=
  ⟨by decide +kernel, channel_lawful answeringEnv (some "realtime-1") namedSession (by decide +kernel)⟩

/-- A chunk with a message behind the close event. -/
theorem late_message_dispatched : ¬LawfulChannel ([.stream ⟨"realtime-1",
    .data "event: close\ndata: \x7b\x7d\n\ndata: a\n\n"⟩].foldl (Duplex.step idleEnv)
      (.new (some "realtime-1"))) := by
  intro hLawful
  have hTold : ([ChannelInput.stream ⟨"realtime-1",
      .data "event: close\ndata: \x7b\x7d\n\ndata: a\n\n"⟩].foldl (Duplex.step idleEnv)
        (.new (some "realtime-1"))).dispatched = [.closed (some 1000) (some ""), .message "a"] := by
    decide +kernel
  cases hLawful.last [] _ _ hTold rfl

end Sniff4Hound.Realtime
