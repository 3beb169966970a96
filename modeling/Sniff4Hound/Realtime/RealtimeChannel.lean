import Sniff4Hound.Library.BlankLines
import Sniff4Hound.Library.Json

/-!
# The channel of the frontend

`RealtimeChannel` of `realtimeChannel.js`, as it reads a bridged stream: the chunks are collected in
a buffer, the buffer is cut at blank lines, and each block is read line by line. The listeners of
the channel may close it whenever they are told of something. The half that sends (`send`, `post`)
does not read the stream and is left out.
-/

namespace Sniff4Hound.Realtime

/-- How `JSON.parse` takes numerals: the integers exactly, the others apart from the constants that
are no JSON. -/
def jsCodec (digits : Nat) : Json.Codec Bool where
  maxDigits := digits + 1
  write constant := if constant then "NaN".toList else ['0', '.', '0']
  read _ := false
  nan := true
  infinity := true
  negInfinity := true
  maxDigits_pos := Nat.succ_pos digits
  write_spec
    | true => Or.inr (Or.inl ⟨rfl, rfl⟩)
    | false => Or.inl ⟨⟨false, ['0'], ['.', '0'], [], rfl, Or.inl rfl,
        Or.inr ⟨['0'], rfl, List.cons_ne_nil _ _, List.forall_mem_singleton.mpr rfl⟩, Or.inl rfl,
        Or.inl (List.cons_ne_nil _ _)⟩, rfl⟩

mutual

/-- The value holds none of the constants `NaN` and `Infinity`. -/
def plain : Json Bool → Bool
  | .float constant => !constant
  | .list items => plainItems items
  | .dict entries => plainEntries entries
  | _ => true

def plainItems : List (Json Bool) → Bool
  | [] => true
  | item :: rest => plain item && plainItems rest

def plainEntries : List (String × Json Bool) → Bool
  | [] => true
  | (_, item) :: rest => plain item && plainEntries rest

end

/-- `parseJson`: the value of the text, or none when `JSON.parse` throws. -/
def parseJson (text : String) : Option (Json Bool) :=
  (Json.loads (jsCodec text.toList.length) text).filter plain

/-- `payload.name`, of a payload that is an object. -/
def field (payload : Option (Json Bool)) (name : String) : Option (Json Bool) :=
  match payload with
  | some (.dict entries) => entries.lookup name
  | _ => none

/-- `payload && payload.type === name`. -/
def isType (payload : Option (Json Bool)) (name : String) : Bool :=
  match field payload "type" with
  | some (.str s) => s = name
  | _ => false

/-- `Number(value) || 1000`, and none for values whose number is not followed here. -/
def closeNumber : Option (Json Bool) → Option Int
  | none => some 1000
  | some .null => some 1000
  | some (.bool b) => some (if b then 1 else 1000)
  | some (.int i) => some (if i = 0 then 1000 else i)
  | some _ => none

/-- `String(value || "")`, and none for values whose text is not followed here. -/
def closeReason : Option (Json Bool) → Option String
  | none => some ""
  | some .null => some ""
  | some (.bool b) => some (if b then "true" else "")
  | some (.str s) => some s
  | some _ => none

inductive ReadyState
  | connecting
  | opened
  | closing
  | closed
deriving DecidableEq

/-- What the listeners are told. -/
inductive Dispatched
  | opened
  | message (data : String)
  | closed (code : Option Int) (reason : Option String)
deriving DecidableEq

/-- What `consumeEvents` hands on: a message, or the code and the reason that `handleServerClose`
finds in a close event. -/
inductive Handed
  | message (data : String)
  | serverClose (code : Option Int) (reason : Option String)
deriving DecidableEq

/-- The `close` that the listeners call when they are told of something, if any. -/
abbrev Listeners := Dispatched → Option (Int × String)

structure ChannelState where
  readyState : ReadyState
  finished : Bool
  /-- until `stopListening` -/
  listening : Bool
  dispatched : List Dispatched
  handed : List Handed

namespace ChannelState

/-- `finish`. The listeners find the channel closed, so that no `close` of theirs does anything. -/
def finish (c : ChannelState) (code : Option Int) (reason : Option String) : ChannelState :=
  if c.finished then c
  else { c with
    finished := true
    readyState := .closed
    listening := false
    dispatched := c.dispatched ++ [.closed code reason] }

def close (c : ChannelState) (code : Int) (reason : String) : ChannelState :=
  if c.readyState = .closed ∨ c.readyState = .closing then c
  else { c with readyState := .closing }.finish (some code) (some reason)

def dispatch (listeners : Listeners) (c : ChannelState) (event : Dispatched) : ChannelState :=
  let c := { c with dispatched := c.dispatched ++ [event] }
  match listeners event with
  | none => c
  | some (code, reason) => c.close code reason

def AUTH_CLOSE_CODE : Int := 4401

def handleMessage (listeners : Listeners) (c : ChannelState) (data : String) : ChannelState :=
  let c := { c with handed := c.handed ++ [.message data] }
  let payload := parseJson data
  if isType payload "session" then
    dispatch listeners { c with readyState := .opened } .opened
  else
    let c := dispatch listeners c (.message data)
    if isType payload "auth_required" then c.finish (some AUTH_CLOSE_CODE) (some "Unauthorized")
    else c

def handleServerClose (c : ChannelState) (data : String) : ChannelState :=
  let detail := parseJson (if data = "" then "\x7b\x7d" else data)
  let code := closeNumber (field detail "code")
  let reason := closeReason (field detail "reason")
  let c := { c with handed := c.handed ++ [Handed.serverClose code reason] }
  c.finish code reason

/-! ## Blocks -/

/-- What `trim` removes. -/
def isTrimmed (c : Char) : Bool :=
  let n := c.toNat
  (0x9 ≤ n && n ≤ 0xD) || n = 0x20 || n = 0xA0 || n = 0x1680 || (0x2000 ≤ n && n ≤ 0x200A) ||
    n = 0x2028 || n = 0x2029 || n = 0x202F || n = 0x205F || n = 0x3000 || n = 0xFEFF

def trim (text : List Char) : List Char :=
  ((text.dropWhile isTrimmed).reverse.dropWhile isTrimmed).reverse

/-- `replace(/^ /, "")`. -/
def dropBlank : List Char → List Char
  | [] => []
  | c :: rest => if c = ' ' then rest else c :: rest

structure Fields where
  name : List Char
  data : List (List Char)

def readLine (fields : Fields) (line : List Char) : Fields :=
  if "event:".toList <+: line then { fields with name := trim (line.drop 6) }
  else if "data:".toList <+: line then
    { fields with data := fields.data ++ [dropBlank (line.drop 5)] }
  else fields

def readBlock (block : List Char) : Fields :=
  (block.splitOn '\n').foldl readLine ⟨"message".toList, []⟩

/-- One round of `consumeEvents`. -/
def handleBlock (listeners : Listeners) (c : ChannelState) (block : List Char) : ChannelState :=
  let fields := readBlock block
  if fields.data = [] then c
  else
    let data := String.ofList (['\n'].intercalate fields.data)
    if fields.name = "close".toList then c.handleServerClose data
    else c.handleMessage listeners data

end ChannelState

structure Channel extends ChannelState where
  streamId : String
  buffer : List Char

inductive StreamBody
  | data (chunk : String)
  | ended
  | error (message : String)

structure StreamMessage where
  id : String
  body : StreamBody

namespace Channel

/-- The loop of `consumeEvents`; each round takes two characters at least off the buffer. -/
def consume (listeners : Listeners) : Nat → ChannelState → List Char → ChannelState × List Char
  | 0, c, buffer => (c, buffer)
  | rounds + 1, c, buffer =>
    match BlankLines.cut '\n' buffer with
    | none => (c, buffer)
    | some (block, rest) => consume listeners rounds (c.handleBlock listeners block) rest

def consumeEvents (listeners : Listeners) (ch : Channel) : Channel :=
  let (c, buffer) := consume listeners ch.buffer.length ch.toChannelState ch.buffer
  { ch with toChannelState := c, buffer := buffer }

def handleStreamMessage (listeners : Listeners) (ch : Channel) (message : StreamMessage) :
    Channel :=
  if message.id ≠ ch.streamId then ch
  else match message.body with
    | .data chunk => consumeEvents listeners { ch with buffer := ch.buffer ++ chunk.toList }
    | .ended => { ch with toChannelState := ch.finish (some 1006) (some "connection lost") }
    | .error message => { ch with
        toChannelState := ch.finish (some 1006)
          (some (if message = "" then "connection lost" else message)) }

def receive (listeners : Listeners) (ch : Channel) (message : StreamMessage) : Channel :=
  if ch.listening then ch.handleStreamMessage listeners message else ch

end Channel

end Sniff4Hound.Realtime
