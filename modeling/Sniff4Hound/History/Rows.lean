import Mathlib.Order.Lattice
import Sniff4Hound.Library.KeyedMerge
import Sniff4Hound.Text.Value

/-!
# Rows of the DNS and ARP history

The recorder adds observations to rows in memory, `write_history` merges such rows into the
tables. Both are the same merge: adding an observation to a row merges the row of that single
observation into it (`DnsRow.columns_add`, `ArpRow.add_eq`), and the merge is associative. The
remembered clients and resolvers of a DNS row are left out of this (`DnsRow.columns`), since
the recorder keeps the first twenty and the table the last twenty.

Timestamps are compared only, so they are any linear order.
-/

namespace Sniff4Hound.History

/-! ## Observations -/

/-- `dns_observations` writes `NOERROR` where a message has no code. -/
structure DnsObservation where
  domain : String
  record_type : String
  answer : String
  is_response : Bool
  rcode : String
  ttl : Option Nat
  source : String
  transport : String
  client : String
  resolver : String
  rcode_ne : rcode ≠ ""
  deriving DecidableEq

inductive ArpOperation
  | request
  | reply
  | other
  deriving DecidableEq, Repr

structure ArpObservation where
  ip : String
  mac : String
  operation : ArpOperation
  interface : String
  gratuitous : Bool
  mismatch : String
  deriving DecidableEq, Repr

structure DnsKey where
  domain : String
  record_type : String
  answer : String
  deriving DecidableEq, Repr

structure ArpKey where
  ip : String
  mac : String
  deriving DecidableEq, Repr

def DnsObservation.key (obs : DnsObservation) : DnsKey := ⟨obs.domain, obs.record_type, obs.answer⟩

def ArpObservation.key (obs : ArpObservation) : ArpKey := ⟨obs.ip, obs.mac⟩

/-! ## Rows in memory -/

structure DnsRow (T : Type) where
  source : String
  transport : String
  query_count : Nat
  response_count : Nat
  error_count : Nat
  last_rcode : String
  ttl_min : Option Nat
  ttl_max : Option Nat
  ttl_last : Option Nat
  last_client : String
  last_resolver : String
  clients : List String
  resolvers : List String
  first_seen : T
  last_seen : T
  deriving DecidableEq, Repr

structure ArpRow (T : Type) where
  interface : String
  packet_count : Nat
  request_count : Nat
  reply_count : Nat
  gratuitous_count : Nat
  mismatch_count : Nat
  first_seen : T
  last_seen : T
  deriving DecidableEq, Repr

inductive ArpEventKind
  | new_device
  | ip_mac_changed
  | mac_new_ip
  | mac_mismatch
  deriving DecidableEq, Repr

structure ArpEvent (T : Type) where
  kind : ArpEventKind
  ip : String
  mac : String
  previous_ip : String
  previous_mac : String
  interface : String
  detail : String
  occurred_at : T
  deriving DecidableEq, Repr

variable {T : Type} [LinearOrder T]

def MAX_REMEMBERED_PEERS : Nat := 20

/-- `if peer: ... if peer not in peers and len(peers) < MAX_REMEMBERED_PEERS: ...` -/
def remember (peers : List String) (peer : String) : List String :=
  if peer ≠ "" ∧ peer ∉ peers ∧ peers.length < MAX_REMEMBERED_PEERS then peers ++ [peer] else peers

/-- The row `_add_dns` makes for a new key. -/
def DnsRow.new (obs : DnsObservation) (observed_at : T) : DnsRow T where
  source := obs.source
  transport := obs.transport
  query_count := 0
  response_count := 0
  error_count := 0
  last_rcode := ""
  ttl_min := none
  ttl_max := none
  ttl_last := none
  last_client := ""
  last_resolver := ""
  clients := []
  resolvers := []
  first_seen := observed_at
  last_seen := observed_at

/-- What `_add_dns` does to the row of the observation. -/
def DnsRow.add (row : DnsRow T) (obs : DnsObservation) (observed_at : T) : DnsRow T where
  source := obs.source
  transport := obs.transport
  query_count := if obs.is_response then row.query_count else row.query_count + 1
  response_count := if obs.is_response then row.response_count + 1 else row.response_count
  error_count :=
    if obs.is_response ∧ obs.rcode ≠ "NOERROR" then row.error_count + 1 else row.error_count
  last_rcode := if obs.is_response then obs.rcode else row.last_rcode
  ttl_min :=
    match obs.ttl with
    | none => row.ttl_min
    | some ttl => some (match row.ttl_min with | none => ttl | some least => min least ttl)
  ttl_max :=
    match obs.ttl with
    | none => row.ttl_max
    | some ttl => some (match row.ttl_max with | none => ttl | some most => max most ttl)
  ttl_last :=
    match obs.ttl with
    | none => row.ttl_last
    | some ttl => some ttl
  last_client := if obs.client ≠ "" then obs.client else row.last_client
  last_resolver := if obs.resolver ≠ "" then obs.resolver else row.last_resolver
  clients := remember row.clients obs.client
  resolvers := remember row.resolvers obs.resolver
  first_seen := if observed_at < row.first_seen then observed_at else row.first_seen
  last_seen := if row.last_seen < observed_at then observed_at else row.last_seen

/-- The row `_add_arp` makes for a new key. -/
def ArpRow.new (obs : ArpObservation) (observed_at : T) : ArpRow T where
  interface := obs.interface
  packet_count := 0
  request_count := 0
  reply_count := 0
  gratuitous_count := 0
  mismatch_count := 0
  first_seen := observed_at
  last_seen := observed_at

/-- What `_add_arp` does to the row of the observation. -/
def ArpRow.add (row : ArpRow T) (obs : ArpObservation) (observed_at : T) : ArpRow T where
  interface := if obs.interface ≠ "" then obs.interface else row.interface
  packet_count := row.packet_count + 1
  request_count :=
    if obs.operation = .request then row.request_count + 1 else row.request_count
  reply_count := if obs.operation = .reply then row.reply_count + 1 else row.reply_count
  gratuitous_count := if obs.gratuitous then row.gratuitous_count + 1 else row.gratuitous_count
  mismatch_count := if obs.mismatch ≠ "" then row.mismatch_count + 1 else row.mismatch_count
  first_seen := if observed_at < row.first_seen then observed_at else row.first_seen
  last_seen := if row.last_seen < observed_at then observed_at else row.last_seen

/-! ## Rows in the tables -/

def merge_peers (existing new : List String) : List String :=
  let merged := new.foldl
    (fun merged peer => if peer ≠ "" ∧ peer ∉ merged then merged ++ [peer] else merged) existing
  merged.drop (merged.length - MAX_REMEMBERED_PEERS)

/-- `CASE WHEN new != '' THEN new ELSE old END` -/
def newest (old new : String) : String := if new ≠ "" then new else old

def mergeOption (op : Nat → Nat → Nat) : Option Nat → Option Nat → Option Nat
  | none, new => new
  | some old, none => some old
  | some old, some new => some (op old new)

/-- The INSERT of `_merge_dns_row`. -/
def DnsRow.insert (row : DnsRow T) : DnsRow T :=
  { row with
    clients := merge_peers [] row.clients
    resolvers := merge_peers [] row.resolvers }

/-- The UPDATE of `_merge_dns_row`. -/
def DnsRow.update (existing row : DnsRow T) : DnsRow T where
  source := row.source
  transport := row.transport
  query_count := existing.query_count + row.query_count
  response_count := existing.response_count + row.response_count
  error_count := existing.error_count + row.error_count
  last_rcode := newest existing.last_rcode row.last_rcode
  ttl_min := mergeOption min existing.ttl_min row.ttl_min
  ttl_max := mergeOption max existing.ttl_max row.ttl_max
  ttl_last := row.ttl_last.or existing.ttl_last
  last_client := newest existing.last_client row.last_client
  last_resolver := newest existing.last_resolver row.last_resolver
  clients := merge_peers existing.clients row.clients
  resolvers := merge_peers existing.resolvers row.resolvers
  first_seen := min existing.first_seen row.first_seen
  last_seen := max existing.last_seen row.last_seen

/-- `ON CONFLICT(ip, mac) DO UPDATE` of `_merge_arp_row`. -/
def ArpRow.update (existing excluded : ArpRow T) : ArpRow T where
  interface := newest existing.interface excluded.interface
  packet_count := existing.packet_count + excluded.packet_count
  request_count := existing.request_count + excluded.request_count
  reply_count := existing.reply_count + excluded.reply_count
  gratuitous_count := existing.gratuitous_count + excluded.gratuitous_count
  mismatch_count := existing.mismatch_count + excluded.mismatch_count
  first_seen := min existing.first_seen excluded.first_seen
  last_seen := max existing.last_seen excluded.last_seen

/-- What `_insert_arp_event` writes for an event. -/
def ArpEvent.row {T : Type} (event : ArpEvent T) : ArpEvent T :=
  { event with detail := slice event.detail 500 }

/-! ## The merge -/

theorem newest_assoc (a b c : String) : newest (newest a b) c = newest a (newest b c) := by
  unfold newest
  by_cases hc : c = ""
  · simp [hc]
  · simp [hc]

theorem mergeOption_assoc {op : Nat → Nat → Nat} (hAssoc : ∀ a b c, op (op a b) c = op a (op b c))
    (a b c : Option Nat) :
    mergeOption op (mergeOption op a b) c = mergeOption op a (mergeOption op b c) := by
  cases a <;> cases b <;> cases c <;> simp [mergeOption, hAssoc]

def DnsRow.columns {T : Type} (row : DnsRow T) : DnsRow T :=
  { row with clients := [], resolvers := [] }

def DnsRow.merge (a b : DnsRow T) : DnsRow T := (a.update b).columns

theorem DnsRow.merge_assoc (a b c : DnsRow T) : (a.merge b).merge c = a.merge (b.merge c) := by
  simp only [DnsRow.merge, DnsRow.update, DnsRow.columns, Nat.add_assoc, newest_assoc,
    mergeOption_assoc Nat.min_assoc, mergeOption_assoc Nat.max_assoc, min_assoc, max_assoc,
    Option.or_assoc]

omit [LinearOrder T] in
@[simp] theorem DnsRow.columns_insert (row : DnsRow T) : row.insert.columns = row.columns := by
  simp only [DnsRow.columns, DnsRow.insert]

theorem DnsRow.columns_update (a b : DnsRow T) :
    (a.update b).columns = a.columns.merge b.columns := by
  simp only [DnsRow.merge, DnsRow.columns, DnsRow.update]

def DnsRow.single (obs : DnsObservation) (observed_at : T) : DnsRow T :=
  ((DnsRow.new obs observed_at).add obs observed_at).columns

theorem count_if (p : Prop) [Decidable p] (n : Nat) :
    (if p then n + 1 else n) = n + if p then 0 + 1 else 0 := by
  split
  · rw [Nat.zero_add]
  · rfl

theorem earliest_eq (observed_at first : T) :
    (if observed_at < first then observed_at else first) = min first observed_at := by
  rw [min_comm, min_def_lt]

theorem latest_eq (observed_at last : T) :
    (if last < observed_at then observed_at else last) = max last observed_at := by
  rw [max_def_lt]

theorem DnsRow.columns_add (row : DnsRow T) (obs : DnsObservation) (observed_at : T) :
    (row.add obs observed_at).columns = row.columns.merge (DnsRow.single obs observed_at) := by
  simp only [DnsRow.single, DnsRow.merge, DnsRow.columns, DnsRow.update, DnsRow.add, DnsRow.new,
    DnsRow.mk.injEq, lt_self_iff_false, if_false, true_and]
  refine ⟨?queries, ?responses, ?errors, ?rcode, ?least, ?most, ?ttl, ?client, ?resolver, ?first,
    ?last⟩
  case queries => cases obs.is_response <;> simp
  case responses => exact count_if _ _
  case errors => exact count_if _ _
  case rcode => cases obs.is_response <;> simp [newest, obs.rcode_ne]
  case least => cases obs.ttl <;> cases row.ttl_min <;> rfl
  case most => cases obs.ttl <;> cases row.ttl_max <;> rfl
  case ttl => cases obs.ttl <;> rfl
  case client => by_cases h : obs.client = "" <;> simp [newest, h]
  case resolver => by_cases h : obs.resolver = "" <;> simp [newest, h]
  case first => exact earliest_eq _ _
  case last => exact latest_eq _ _

def ArpRow.single (obs : ArpObservation) (observed_at : T) : ArpRow T :=
  (ArpRow.new obs observed_at).add obs observed_at

theorem ArpRow.update_assoc (a b c : ArpRow T) : (a.update b).update c = a.update (b.update c) := by
  simp only [ArpRow.update, Nat.add_assoc, newest_assoc, min_assoc, max_assoc]

theorem ArpRow.add_eq (row : ArpRow T) (obs : ArpObservation) (observed_at : T) :
    row.add obs observed_at = row.update (ArpRow.single obs observed_at) := by
  simp only [ArpRow.single, ArpRow.update, ArpRow.add, ArpRow.new, ArpRow.mk.injEq,
    lt_self_iff_false, if_false]
  refine ⟨?interface, trivial, ?requests, ?replies, ?gratuitous, ?mismatches, ?first, ?last⟩
  case interface => by_cases h : obs.interface = "" <;> simp [newest, h]
  case requests => exact count_if _ _
  case replies => exact count_if _ _
  case gratuitous => exact count_if _ _
  case mismatches => exact count_if _ _
  case first => exact earliest_eq _ _
  case last => exact latest_eq _ _

end Sniff4Hound.History
