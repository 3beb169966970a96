import Mathlib.Data.Finset.Insert
import Mathlib.Data.Rat.Defs
import Sniff4Hound.Library.StableOrder
import Sniff4Hound.Library.StepRun
import Sniff4Hound.History.Rows

/-!
# The history recorder

`HistoryRecorder` takes observations into pending rows and merges these into the tables of the
store. Observations are added under `_lock`. A flush is two steps of the thread that holds
`_flush_lock`: it takes what is pending, and it writes the batch in one transaction, which may
fail. Observations may come between the two.

The tables are in the order of their row ids. The log is no part of the recorder: it says what
became of every observation and of every event.
-/

namespace Sniff4Hound.History

variable {T : Type} [LinearOrder T]

/-! ## The store -/

structure HistoryStore (T : Type) where
  dns_history : Keyed DnsKey (DnsRow T)
  arp_bindings : Keyed ArpKey (ArpRow T)
  arp_events : List (ArpEvent T)

structure Batch (T : Type) where
  dns : List (DnsKey × DnsRow T)
  arp : List (ArpKey × ArpRow T)
  events : List (ArpEvent T)

namespace Batch

def empty {T : Type} : Batch T := ⟨[], [], []⟩

def isEmpty {T : Type} (b : Batch T) : Bool := b.dns.isEmpty && b.arp.isEmpty && b.events.isEmpty

/-- `rows[-keep:]` -/
def lastRows {α : Type} (keep : Nat) (rows : List α) : List α :=
  if keep = 0 then rows else rows.drop (rows.length - keep)

def truncate {T : Type} (b : Batch T) (keep : Nat) : Batch T :=
  ⟨lastRows keep b.dns, lastRows keep b.arp, lastRows keep b.events⟩

end Batch

def merge_dns_row (table : Keyed DnsKey (DnsRow T)) (entry : DnsKey × DnsRow T) :
    Keyed DnsKey (DnsRow T) :=
  match table.rows.lookup entry.1 with
  | none => table.set entry.1 entry.2.insert
  | some existing => table.set entry.1 (existing.update entry.2)

def merge_arp_row (table : Keyed ArpKey (ArpRow T)) (entry : ArpKey × ArpRow T) :
    Keyed ArpKey (ArpRow T) :=
  match table.rows.lookup entry.1 with
  | none => table.set entry.1 entry.2
  | some existing => table.set entry.1 (existing.update entry.2)

def HistoryStore.write_history (store : HistoryStore T) (b : Batch T) : HistoryStore T where
  dns_history := b.dns.foldl merge_dns_row store.dns_history
  arp_bindings := b.arp.foldl merge_arp_row store.arp_bindings
  arp_events := store.arp_events ++ b.events.map ArpEvent.row

/-- `ORDER BY last_seen ASC, id ASC LIMIT ?` -/
def HistoryStore.arp_known_pairs (store : HistoryStore T) (limit : Nat) : List ArpKey :=
  ((StableOrder.orderBy (fun entry => entry.2.last_seen) store.arp_bindings.rows).take limit).map
    Prod.fst

/-! ## The recorder -/

structure ArpMemory where
  ip_mac : Dict String String
  mac_ips : Dict String (Finset String)
  mac_last_ip : Dict String String

def ArpMemory.empty : ArpMemory := ⟨[], [], []⟩

def ArpMemory.learn (m : ArpMemory) (key : ArpKey) : ArpMemory where
  ip_mac := m.ip_mac.set key.ip key.mac
  mac_ips := m.mac_ips.set key.mac (insert key.ip ((m.mac_ips.lookup key.mac).getD ∅))
  mac_last_ip := m.mac_last_ip.set key.mac key.ip

structure Counters where
  dns : Nat
  arp : Nat
  dropped : Nat
  flushes : Nat
  write_errors : Nat
  deriving DecidableEq, Repr

/-- What was observed, and whether it was taken. -/
inductive Entry (T : Type)
  | dns (accepted : Bool) (obs : DnsObservation) (observed_at : T)
  | arp (accepted : Bool) (obs : ArpObservation) (observed_at : T)
  | event (accepted : Bool) (event : ArpEvent T)
  deriving DecidableEq

/-- `HistoryRecorder` with its store. -/
structure Recorder (T : Type) where
  store : HistoryStore T
  max_pending : Nat
  dns : Keyed DnsKey (DnsRow T)
  arp : Keyed ArpKey (ArpRow T)
  events : List (ArpEvent T)
  retry : Batch T
  arp_ready : Bool
  memory : ArpMemory
  mismatch_at : Dict ArpKey ℚ
  counters : Counters
  /-- The batch of a flush that has taken it and has not written it yet. -/
  writing : Option (Batch T)
  log : List (Entry T)

def Recorder.new (store : HistoryStore T) (max_pending : Nat) : Recorder T where
  store := store
  max_pending := max_pending
  dns := .empty
  arp := .empty
  events := []
  retry := .empty
  arp_ready := false
  memory := .empty
  mismatch_at := []
  counters := ⟨0, 0, 0, 0, 0⟩
  writing := none
  log := []

def ARP_STATE_LIMIT : Nat := 100000

def MISMATCH_EVENT_INTERVAL_SECONDS : ℚ := 3600

def ArpObservation.event (obs : ArpObservation) (kind : ArpEventKind) (observed_at : T)
    (previous_ip previous_mac detail : String) : ArpEvent T :=
  ⟨kind, obs.ip, obs.mac, previous_ip, previous_mac, obs.interface, detail, observed_at⟩

/-- The events `_add_arp` raises for what it remembers, in its order. -/
def ArpMemory.changes (m : ArpMemory) (obs : ArpObservation) (observed_at : T) :
    List (ArpEvent T) :=
  let previous_mac := (m.ip_mac.lookup obs.ip).getD ""
  (match m.mac_ips.lookup obs.mac with
    | none => [obs.event .new_device observed_at "" "" ("first seen claiming " ++ obs.ip)]
    | some known_ips =>
      if obs.ip ∈ known_ips then []
      else [obs.event .mac_new_ip observed_at ((m.mac_last_ip.lookup obs.mac).getD "") ""
        (obs.mac ++ " now also uses " ++ obs.ip)]) ++
  if previous_mac ≠ "" ∧ previous_mac ≠ obs.mac then
    [obs.event .ip_mac_changed observed_at "" previous_mac
      (obs.ip ++ " moved from " ++ previous_mac ++ " to " ++ obs.mac)]
  else []

namespace Recorder

def drop {T : Type} (s : Recorder T) (entry : Entry T) : Recorder T :=
  { s with
    counters := { s.counters with dropped := s.counters.dropped + 1 }
    log := s.log ++ [entry] }

def event {T : Type} (s : Recorder T) (e : ArpEvent T) : Recorder T :=
  if s.max_pending ≤ s.events.length then s.drop (.event false e)
  else { s with events := s.events ++ [e], log := s.log ++ [.event true e] }

def add_dns (s : Recorder T) (obs : DnsObservation) (observed_at : T) : Recorder T :=
  let accept (row : DnsRow T) : Recorder T :=
    { s with
      dns := s.dns.set obs.key (row.add obs observed_at)
      counters := { s.counters with dns := s.counters.dns + 1 }
      log := s.log ++ [.dns true obs observed_at] }
  match s.dns.rows.lookup obs.key with
  | some row => accept row
  | none =>
    if s.max_pending ≤ s.dns.rows.length then s.drop (.dns false obs observed_at)
    else accept (.new obs observed_at)

/-- `answers` says whether the query of `arp_known_pairs` succeeds. -/
def load_arp_state (s : Recorder T) (answers : Bool) : Recorder T :=
  if s.arp_ready then s
  else if answers then
    { s with
      arp_ready := true
      memory := (s.store.arp_known_pairs ARP_STATE_LIMIT).foldl ArpMemory.learn s.memory }
  else { s with arp_ready := true }

/-- The last `if` of `_add_arp`: one mismatch event per pair and interval. -/
def mismatch_event (s : Recorder T) (obs : ArpObservation) (observed_at : T) (now : ℚ) :
    Recorder T :=
  if obs.mismatch = "" then s
  else
    match s.mismatch_at.lookup obs.key with
    | none => raised s
    | some last => if MISMATCH_EVENT_INTERVAL_SECONDS ≤ now - last then raised s else s
where
  raised (s : Recorder T) : Recorder T :=
    let noted := s.mismatch_at.set obs.key now
    { s.event (obs.event .mac_mismatch observed_at "" "" obs.mismatch) with
      mismatch_at := if s.max_pending < noted.length then [] else noted }

def add_arp (s : Recorder T) (obs : ArpObservation) (observed_at : T) (now : ℚ) (answers : Bool) :
    Recorder T :=
  let s := s.load_arp_state answers
  let accept (row : ArpRow T) : Recorder T :=
    let taken : Recorder T :=
      { s with
        arp := s.arp.set obs.key (row.add obs observed_at)
        counters := { s.counters with arp := s.counters.arp + 1 }
        log := s.log ++ [.arp true obs observed_at] }
    let told := ((s.memory.changes obs observed_at).foldl event taken).mismatch_event obs
      observed_at now
    { told with memory := told.memory.learn obs.key }
  match s.arp.rows.lookup obs.key with
  | some row => accept row
  | none =>
    if s.max_pending ≤ s.arp.rows.length then s.drop (.arp false obs observed_at)
    else accept (.new obs observed_at)

end Recorder

structure HistoryConfig where
  dns_enabled : Bool
  arp_enabled : Bool
  deriving DecidableEq, Repr

/-- What `dns_observations` and `arp_observation` make of a packet. -/
structure Observed (T : Type) where
  observed_at : T
  dns : List DnsObservation
  arp : Option ArpObservation
  deriving DecidableEq

namespace Recorder

def observe (s : Recorder T) (config : HistoryConfig) (packet : Observed T) (now : ℚ)
    (answers : Bool) : Recorder T :=
  let observations := if config.dns_enabled then packet.dns else []
  let arp := if config.arp_enabled then packet.arp else none
  let s := observations.foldl (fun s obs => s.add_dns obs packet.observed_at) s
  match arp with
  | none => s
  | some obs => s.add_arp obs packet.observed_at now answers

/-- The first half of `flush`, under `_lock`. -/
def take (s : Recorder T) : Recorder T :=
  { s with
    dns := .empty
    arp := .empty
    events := []
    retry := .empty
    writing := some ⟨s.retry.dns ++ s.dns.rows, s.retry.arp ++ s.arp.rows,
      s.retry.events ++ s.events⟩ }

/-- The second half of `flush`; `ok` says whether `write_history` returns. -/
def write (s : Recorder T) (b : Batch T) (ok : Bool) : Recorder T :=
  if b.isEmpty then { s with writing := none }
  else if ok then
    { s with
      store := s.store.write_history b
      counters := { s.counters with flushes := s.counters.flushes + 1 }
      writing := none }
  else
    { s with
      counters := { s.counters with write_errors := s.counters.write_errors + 1 }
      retry := b.truncate (s.max_pending * 4)
      writing := none }

end Recorder

/-- A packet, or one half of a flush. -/
inductive Label (T : Type)
  | observe (config : HistoryConfig) (packet : Observed T) (now : ℚ) (answers : Bool)
  | take
  | write (ok : Bool)
  deriving DecidableEq

def step (s : Recorder T) : Label T → Option (Recorder T)
  | .observe config packet now answers => some (s.observe config packet now answers)
  | .take => if s.writing.isNone then some s.take else none
  | .write ok => s.writing.map fun b => s.write b ok

def run (store : HistoryStore T) (max_pending : Nat) (ls : List (Label T)) : Option (Recorder T) :=
  StepRun.run step (.new store max_pending) ls

end Sniff4Hound.History
