import Sniff4Hound.Library.StepRun
import Sniff4Hound.Text.Value

/-!
# Resource limits

`resource_guard.py`: every few seconds the guard measures the capture process. A limit exceeded on
two samples in a row stops the capture, and the guard starts it again once all limits are back under
their resume threshold. The limits stand in `runtime_config`, where the operator edits them at any
time; the operator also starts and stops the capture.
-/

namespace Sniff4Hound.Limits

/-- `LIMIT_KINDS`, in the order of the code. -/
inductive LimitKind
  | cpu
  | ram
  | storage
deriving DecidableEq

def LIMIT_KINDS : List LimitKind := [.cpu, .ram, .storage]

def LimitKind.name : LimitKind → String
  | cpu => "cpu"
  | ram => "ram"
  | storage => "storage"

/-- The keys of `LIMIT_BOUNDS`. -/
inductive LimitField
  | cpu_percent
  | ram_mb
  | storage_mb
  | resume_percent
  | sample_seconds
  | cooldown_seconds
deriving DecidableEq

namespace LimitField

def all : List LimitField :=
  [cpu_percent, ram_mb, storage_mb, resume_percent, sample_seconds, cooldown_seconds]

def name : LimitField → String
  | cpu_percent => "cpu_percent"
  | ram_mb => "ram_mb"
  | storage_mb => "storage_mb"
  | resume_percent => "resume_percent"
  | sample_seconds => "sample_seconds"
  | cooldown_seconds => "cooldown_seconds"

/-- `LIMIT_DEFAULTS`; a limit of 0 is off. -/
def default : LimitField → Int
  | cpu_percent => 0
  | ram_mb => 0
  | storage_mb => 0
  | resume_percent => 80
  | sample_seconds => 5
  | cooldown_seconds => 300

/-- `LIMIT_BOUNDS`. -/
def bounds : LimitField → Int × Int
  | cpu_percent => (0, 100)
  | ram_mb => (0, 262144)
  | storage_mb => (0, 10485760)
  | resume_percent => (10, 99)
  | sample_seconds => (1, 300)
  | cooldown_seconds => (0, 3600)

/-- The key of `runtime_config`. -/
def configKey (field : LimitField) : String := "limit_" ++ field.name

end LimitField

def LimitKind.field : LimitKind → LimitField
  | cpu => .cpu_percent
  | ram => .ram_mb
  | storage => .storage_mb

/-! ## Configuration -/

abbrev RuntimeConfig := Dict String String

/-- `get_limit_config`: what is stored, or the default, within the bounds. -/
def get_limit_config (rt : Runtime) (config : RuntimeConfig) (field : LimitField) : Int :=
  let stored := (config.lookup field.configKey).getD ""
  let value := if stored = "" then field.default else (parseInt rt stored).getD field.default
  min field.bounds.2 (max field.bounds.1 value)

/-- One field of `coerce_limit_settings`. -/
def coerceLimit (rt : Runtime) (field : LimitField) (raw : Value) : Except String Int :=
  let checked := fun number : Int =>
    if number < field.bounds.1 ∨ field.bounds.2 < number then
      throw (field.name ++ " must be between " ++ toString field.bounds.1 ++ " and " ++
        toString field.bounds.2)
    else pure number
  match raw with
  | .null => throw (field.name ++ " must be a number")
  | .int i => checked i
  | .str s =>
    match parseInt rt s with
    | some number => checked number
    | none => throw (field.name ++ " must be an integer")
  | .float (some value) _ => checked (value.num.tdiv value.den)
  | .float none text =>
    -- only the ValueError of `int(nan)` is turned into the message of the field
    if text = "nan" then throw (field.name ++ " must be an integer")
    else throw "cannot convert float infinity to integer"
  | _ => throw (field.name ++ " must be an integer")

/-- `coerce_limit_settings`: all fields are checked before anything is stored. -/
def coerce_limit_settings (rt : Runtime) (values : Value) :
    Except String (List (LimitField × Int)) :=
  match values with
  | .dict entries =>
    (LimitField.all.filter fun field => Value.has entries field.name).mapM fun field => do
      let number ← coerceLimit rt field (Value.get entries field.name)
      pure (field, number)
  | _ => throw "limit config must be an object"

def set_limit_config (rt : Runtime) (config : RuntimeConfig) (values : Value) :
    Except String RuntimeConfig := do
  let clean ← coerce_limit_settings rt values
  pure (clean.foldl (fun config entry =>
    Dict.set config entry.1.configKey (toString entry.2)) config)

/-! ## The guard -/

abbrev PerKind (α : Type) := LimitKind → α

/-- `last_trip`, without its time of day. -/
structure Trip where
  kinds : List LimitKind
  values : PerKind Rat
  limits : PerKind Int

structure LimitState where
  measured : Option (PerKind Rat) := none
  paused : Bool := false
  reason : String := ""
  trips : Nat := 0
  by_kind : PerKind Nat := fun _ => 0
  paused_seconds : Rat := 0
  last_trip : Option Trip := none

structure ResourceGuard where
  over_limit : PerKind Nat
  paused_by_guard : Bool
  paused_since : Rat
  state : LimitState
  last_write : Rat

/-- `start` of a new guard: a pause recorded by an earlier process is cleared. -/
def ResourceGuard.start (stored : LimitState) : ResourceGuard where
  over_limit _ := 0
  paused_by_guard := false
  paused_since := 0
  state := if stored.paused then { stored with paused := false, reason := "" } else stored
  last_write := 0

def TRIP_SAMPLES : Nat := 2

def WRITE_EVERY_SECONDS : Rat := 30

/-- What `measure` gives, with the clock of the sample; the store may be busy. -/
structure Sample where
  now : Rat
  measured : PerKind Rat
  busy : Bool

/-- `limit and measured[kind] > limit`. -/
def exceeds (limits : PerKind Int) (measured : PerKind Rat) (kind : LimitKind) : Prop :=
  limits kind ≠ 0 ∧ (limits kind : Rat) < measured kind

instance (limits : PerKind Int) (measured : PerKind Rat) (kind : LimitKind) :
    Decidable (exceeds limits measured kind) := inferInstanceAs (Decidable (_ ∧ _))

def countOver (limits : PerKind Int) (measured : PerKind Rat) (counts : PerKind Nat) : PerKind Nat :=
  fun kind => if exceeds limits measured kind then counts kind + 1 else 0

/-- The kinds whose counter comes to `TRIP_SAMPLES` with this sample. -/
def exceededKinds (limits : PerKind Int) (measured : PerKind Rat) (counts : PerKind Nat) :
    List LimitKind :=
  LIMIT_KINDS.filter fun kind =>
    exceeds limits measured kind ∧ counts kind + 1 = TRIP_SAMPLES

def below_resume (limits : PerKind Int) (measured : PerKind Rat) (resume_percent : Int) : Bool :=
  LIMIT_KINDS.all fun kind =>
    !(limits kind ≠ 0 && decide ((limits kind : Rat) * resume_percent / 100 ≤ measured kind))

inductive Command
  | start
  | stop
deriving DecidableEq

inductive Origin
  | operator
  | resourceGuard
deriving DecidableEq

/-- A command as it was given; `running` tells whether the capture ran until then. -/
structure Issued where
  origin : Origin
  command : Command
  running : Bool
deriving DecidableEq

/-- The capture process. `issued` is not in the code: the commands given to the sniffer so far. -/
structure Process where
  runtime_config : RuntimeConfig
  running : Bool
  resource_guard : ResourceGuard
  stored : LimitState
  issued : List Issued

namespace Process

/-- `sniffer.start()` or `sniffer.stop()`. -/
def give (p : Process) (origin : Origin) (command : Command) : Process :=
  { p with
    running := decide (command = .start)
    issued := p.issued ++ [⟨origin, command, p.running⟩] }

def limits (rt : Runtime) (p : Process) : PerKind Int :=
  fun kind => get_limit_config rt p.runtime_config kind.field

def trip (p : Process) (kinds : List LimitKind) (now : Rat) (measured : PerKind Rat)
    (limits : PerKind Int) : Process :=
  let p := p.give .resourceGuard .stop
  { p with resource_guard :=
    { p.resource_guard with
      paused_by_guard := true
      paused_since := now
      state :=
        { p.resource_guard.state with
          paused := true
          reason := join ", " (kinds.map LimitKind.name)
          trips := p.resource_guard.state.trips + 1
          by_kind := fun kind =>
            p.resource_guard.state.by_kind kind + if kind ∈ kinds then 1 else 0
          last_trip := some ⟨kinds, measured, limits⟩ } } }

/-- `_resume`; `round` is that of the language, to one decimal. -/
def resume (round : Rat → Rat) (p : Process) (now : Rat) : Process :=
  let paused_for := if p.resource_guard.paused_since = 0 then 0
    else now - p.resource_guard.paused_since
  let p := p.give .resourceGuard .start
  { p with resource_guard :=
    { p.resource_guard with
      paused_by_guard := false
      paused_since := 0
      state :=
        { p.resource_guard.state with
          paused := false
          reason := ""
          paused_seconds := round (p.resource_guard.state.paused_seconds + paused_for) } } }

/-- `_persist`: while the store is busy, the state stays in memory only. -/
def persist (p : Process) (now : Rat) (busy : Bool) : Process :=
  if busy then p
  else { p with
    stored := p.resource_guard.state
    resource_guard := { p.resource_guard with last_write := now } }

def note (p : Process) (limits : PerKind Int) (measured : PerKind Rat) : Process :=
  { p with resource_guard :=
    { p.resource_guard with
      over_limit := countOver limits measured p.resource_guard.over_limit
      state := { p.resource_guard.state with measured := some measured } } }

def sample (rt : Runtime) (round : Rat → Rat) (p : Process) (s : Sample) : Process :=
  let limits := p.limits rt
  let config := get_limit_config rt p.runtime_config
  let exceeded := exceededKinds limits s.measured p.resource_guard.over_limit
  let p := p.note limits s.measured
  if exceeded ≠ [] ∧ !p.resource_guard.paused_by_guard then
    (p.trip exceeded s.now s.measured limits).persist s.now s.busy
  else if p.resource_guard.paused_by_guard ∧
      (config .cooldown_seconds : Rat) ≤ s.now - p.resource_guard.paused_since ∧
      below_resume limits s.measured (config .resume_percent) then
    (p.resume round s.now).persist s.now s.busy
  else if WRITE_EVERY_SECONDS ≤ s.now - p.resource_guard.last_write then p.persist s.now s.busy
  else p

end Process

/-! ## Runs -/

/-- A sample of the guard, or an act of the operator. -/
inductive Label
  | sample (s : Sample)
  | give (command : Command)
  | configure (values : Value)

def Process.step (rt : Runtime) (round : Rat → Rat) (p : Process) : Label → Option Process
  | .sample s => some (p.sample rt round s)
  | .give command => some (p.give .operator command)
  | .configure values =>
    match set_limit_config rt p.runtime_config values with
    | .ok config => some { p with runtime_config := config }
    | .error _ => some p

structure Process.Started (p : Process) : Prop where
  resource_guard : ∃ stored, p.resource_guard = ResourceGuard.start stored
  issued : p.issued = []

end Sniff4Hound.Limits
