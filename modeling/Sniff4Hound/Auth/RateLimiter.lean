import Mathlib.Algebra.Order.Ring.Rat
import Mathlib.Data.NNRat.Defs
import Sniff4Hound.Library.CappedTable
import Sniff4Hound.Library.StepRun
import Sniff4Hound.Text.Value

/-!
# The limiter of failed authentications

`AuthRateLimiter` of `auth.py`. It counts the failures of each source address, locks a source
out when they cross a threshold, and keeps no more sources than its table holds. A method call
is one step under the lock; it reads the monotonic clock, which the calls carry as the time since
the call before. Times are exact.
-/

namespace Sniff4Hound.Auth

structure LimiterConfig where
  enabled : Bool
  window : Rat
  threshold : Nat
  base_lockout : Rat
  max_lockout : Rat
  max_clients : Nat
  window_bound : 1 ≤ window
  threshold_bound : 1 ≤ threshold
  base_lockout_bound : 1 ≤ base_lockout
  max_lockout_bound : base_lockout ≤ max_lockout
  max_clients_bound : 1 ≤ max_clients

/-- `AuthRateLimiter.__init__`, under `AUTH_RATE_LIMIT_ENABLED`. -/
def LimiterConfig.new (enabled : Bool) (window_seconds : Rat) (threshold : Int)
    (base_lockout max_lockout : Rat) (max_clients : Int) : LimiterConfig where
  enabled := enabled
  window := max 1 window_seconds
  threshold := (max 1 threshold).toNat
  base_lockout := max 1 base_lockout
  max_lockout := max (max 1 base_lockout) max_lockout
  max_clients := (max 1 max_clients).toNat
  window_bound := le_max_left _ _
  threshold_bound := by omega
  base_lockout_bound := le_max_left _ _
  max_lockout_bound := le_max_left _ _
  max_clients_bound := by omega

structure ClientEntry where
  failures : List Rat
  blocked_until : Rat
  strikes : Nat
  seen_at : Rat
deriving DecidableEq

abbrev Clients := Dict String ClientEntry

/-- `_key`. -/
def client_key (client : Option String) : String :=
  let key := strip (client.getD "")
  if key = "" then "unknown" else key

namespace LimiterConfig

variable (cfg : LimiterConfig)

def stale (now : Rat) (entry : ClientEntry) : Bool :=
  decide (entry.blocked_until ≤ now) && match entry.failures.getLast? with
    | none => true
    | some last => decide (last ≤ now - cfg.window)

def evict (now : Rat) (clients : Clients) : Clients :=
  CappedTable.makeRoom ClientEntry.seen_at (cfg.stale now) cfg.max_clients clients

/-- `_entry`: the entry of a key, and the table that it is in. -/
def entry (clients : Clients) (key : String) (now : Rat) : ClientEntry × Clients :=
  match clients.lookup key with
  | none => (⟨[], 0, 0, now⟩, cfg.evict now clients)
  | some entry => ({ entry with seen_at := now }, clients)

/-- `check`: whether the source may try, after how many seconds otherwise, and the table. -/
def check (clients : Clients) (client : Option String) (now : Rat) : (Bool × Rat) × Clients :=
  if cfg.enabled = false then ((true, 0), clients)
  else match clients.lookup (client_key client) with
    | none => ((true, 0), clients)
    | some entry =>
      let clients := clients.set (client_key client) { entry with seen_at := now }
      let remaining := entry.blocked_until - now
      if 0 < remaining then ((false, remaining), clients) else ((true, 0), clients)

/-- `min(base_lockout * 2 ** (strikes - 1), max_lockout)`; an integer of 1025 bits has no value
as a float, so that the product raises. -/
def lockout (strikes : Nat) : Option Rat :=
  if 1024 < strikes then none else some (min (cfg.base_lockout * 2 ^ (strikes - 1)) cfg.max_lockout)

def fail (now : Rat) (entry : ClientEntry) : Option Rat × ClientEntry :=
  let failures := (entry.failures ++ [now]).dropWhile fun time => decide (time ≤ now - cfg.window)
  if failures.length < cfg.threshold then (some 0, { entry with failures := failures })
  else
    let entry := { entry with failures := failures, strikes := entry.strikes + 1 }
    match cfg.lockout entry.strikes with
    | none => (none, entry)
    | some lockout =>
      (some lockout, { entry with blocked_until := now + lockout, failures := [] })

/-- `register_failure`: the lockout it returns, `none` when it raises, and the table. -/
def register_failure (clients : Clients) (client : Option String) (now : Rat) :
    Option Rat × Clients :=
  if cfg.enabled = false then (some 0, clients)
  else
    let key := client_key client
    let (entry, clients) := cfg.entry clients key now
    let (lockout, entry) := cfg.fail now entry
    (lockout, clients.set key entry)

def register_success (clients : Clients) (client : Option String) : Clients :=
  if cfg.enabled = false then clients else clients.erase (client_key client)

end LimiterConfig

/-! ## Runs -/

/-- A call of the limiter. -/
inductive AuthCall where
  | check (client : Option String)
  | failure (client : Option String)
  | success (client : Option String)
  | reset
deriving DecidableEq

/-- The table, and the time of the last call. -/
structure LimiterState where
  clock : Rat
  clients : Clients

def LimiterState.initial (clock : Rat) : LimiterState := ⟨clock, []⟩

/-- The table after a call at `now`. -/
def LimiterConfig.after (cfg : LimiterConfig) (clients : Clients) (now : Rat) : AuthCall → Clients
  | .check client => (cfg.check clients client now).2
  | .failure client => (cfg.register_failure clients client now).2
  | .success client => cfg.register_success clients client
  | .reset => []

def LimiterConfig.step (cfg : LimiterConfig) (s : LimiterState) (label : NNRat × AuthCall) :
    Option LimiterState :=
  let now := s.clock + label.1
  some ⟨now, cfg.after s.clients now label.2⟩

end Sniff4Hound.Auth
