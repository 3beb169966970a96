import Sniff4Hound.Pipeline.StorePacket
import Sniff4Hound.Store.WriteAttempts

/-!
# The counters of a batch

`_process_batch` counts a packet as processed, or as one of two kinds of error, when it has been
evaluated; `_flush_deferred` writes the packets that evaluation has handed over and counts those
that are persisted and those that fail. A packet whose write fails is then counted twice, and a
packet that is handed over before something raises is persisted without being processed. The
counters are exact when neither happens, and only then (`counts_exact_iff`).
-/

namespace Sniff4Hound

open Store SqlTransaction

/-! ## The counts -/

/-- The names that `_count_pipeline` is called with. -/
inductive PipelineCount
  | processed
  | persisted
  | errors
  | write_errors
deriving DecidableEq

/-- The counts of a batch, each with the place of its packet; `pending` holds how many there are of
each name. -/
abbrev CountLog := List (PipelineCount × Nat)

def CountLog.pending (log : CountLog) (name : PipelineCount) : Nat :=
  log.countP fun entry => entry.1 = name

structure PipelineCounters where
  processed : Nat
  persisted : Nat
  errors : Nat
  write_errors : Nat

/-- `_apply_pipeline_counts` -/
def PipelineCounters.apply (k : PipelineCounters) (log : CountLog) : PipelineCounters where
  processed := k.processed + log.pending .processed
  persisted := k.persisted + log.pending .persisted
  errors := k.errors + log.pending .errors
  write_errors := k.write_errors + log.pending .write_errors

/-! ## Evaluation -/

/-- An exception of `sqlite3`, or another one. -/
inductive RaisedKind
  | sqlite
  | other

def RaisedKind.name : RaisedKind → PipelineCount
  | .sqlite => .write_errors
  | .other => .errors

/-- `_store_packet` returns; or it raises before it hands the packet over, leaving the sniffer in
some state; or the trimming of the tables raises, behind everything else. -/
inductive Ending
  | returns
  | fails (raised : RaisedKind) (left : Sniffing)
  | fails_late (raised : RaisedKind)

structure BatchPacket where
  call : PacketCall
  ending : Ending

namespace BatchPacket

variable (env : GateEnv) (s : Sniffing) (p : BatchPacket)

/-- The sniffer after `_store_packet`, with what was handed over for the end of the batch. -/
def stored : Sniffing :=
  store_packet env { s with deferred := [] } { p.call with write := .deferred }

def after : Sniffing :=
  match p.ending with
  | .fails _ left => left
  | _ => p.stored env s

def handed : List Registration :=
  match p.ending with
  | .fails _ _ => []
  | _ => (p.stored env s).deferred

def name : PipelineCount :=
  match p.ending with
  | .returns => .processed
  | .fails raised _ => raised.name
  | .fails_late raised => raised.name

def skipped : Bool :=
  match p.ending with
  | .returns => (p.handed env s).isEmpty
  | _ => false

def late : Bool :=
  match p.ending with
  | .fails_late _ => !(p.handed env s).isEmpty
  | _ => false

end BatchPacket

variable (env : GateEnv)

/-- The loop of `_process_batch` from the packet at place `i`: what is handed over, with the places,
and the counts. -/
def evaluate_each : Nat → Sniffing → List BatchPacket → List (Nat × Registration) × CountLog
  | _, _, [] => ([], [])
  | i, s, p :: batch =>
    let (deferred, log) := evaluate_each (i + 1) (p.after env s) batch
    ((p.handed env s).map (fun registration => (i, registration)) ++ deferred, (p.name, i) :: log)

def skippedPackets : Sniffing → List BatchPacket → Nat
  | _, [] => 0
  | s, p :: batch => (if p.skipped env s then 1 else 0) + skippedPackets (p.after env s) batch

def latePackets : Sniffing → List BatchPacket → Nat
  | _, [] => 0
  | s, p :: batch => (if p.late env s then 1 else 0) + latePackets (p.after env s) batch

/-! ## The writes -/

variable {κ : Type} (rt : Runtime) (store : StoreEnv) (write : Registration → PacketWrite κ)

/-- What `finish` or the loop around it counts for an answer of the store. -/
def outcomeName : PacketOutcome κ → Option PipelineCount
  | .error _ => some .write_errors
  | .ok (some _) => some .persisted
  | .ok none => none

def deferredWrites (deferred : List (Nat × Registration)) : List (DeferredWrite κ) :=
  deferred.map fun entry => (write entry.2, entry.2.allow_raw)

def flush_deferred (attempts : List Attempt) (deferred : List (Nat × Registration))
    (c : Conn (Db κ)) : CountLog × Conn (Db κ) :=
  if deferred.isEmpty then ([], c)
  else
    let (answer, c') := register_retried rt store (deferredWrites write deferred) attempts c
    match answer with
    | none => (deferred.map fun entry => (.write_errors, entry.1), c')
    | some outcomes =>
      ((deferred.zip outcomes).filterMap fun pair =>
        (outcomeName pair.2).map fun name => (name, pair.1.1), c')

/-- `_process_batch`, with what its three attempts to write meet. -/
def process_batch (attempts : Fin 3 → Attempt) (s : Sniffing) (batch : List BatchPacket)
    (c : Conn (Db κ)) : CountLog × Conn (Db κ) :=
  let (deferred, log) := evaluate_each env 0 s batch
  let (written, c') := flush_deferred rt store write (List.ofFn attempts) deferred c
  (log ++ written, c')

/-! ## What evaluation counts and hands over -/

section Evaluation

theorem store_packet_hands (s : Sniffing) {call : PacketCall} (h : call.write = .deferred) :
    (store_packet env s call).deferred = s.deferred ∨
      ∃ registration, (store_packet env s call).deferred = s.deferred ++ [registration] := by
  have hKept (s : Sniffing) (muted : Bool) (verdict : Verdict) :
      (persist_packet env s call muted verdict).deferred = s.deferred ∨ ∃ registration,
        (persist_packet env s call muted verdict).deferred = s.deferred ++ [registration] := by
    unfold persist_packet
    rw [h]
    dsimp only
    split
    · exact .inr ⟨_, rfl⟩
    · exact .inl rfl
  unfold store_packet
  dsimp only
  split
  · exact .inl rfl
  split
  · exact .inl rfl
  split
  · exact hKept _ _ _
  · exact hKept _ _ _

theorem length_handed (p : BatchPacket) (s : Sniffing) : (p.handed env s).length ≤ 1 := by
  unfold BatchPacket.handed
  cases p.ending with
  | fails raised left => exact Nat.zero_le 1
  | returns | fails_late raised =>
    have hWrite : ({ p.call with write := .deferred } : PacketCall).write = .deferred := rfl
    rcases store_packet_hands env { s with deferred := [] } hWrite with
      hNone | ⟨registration, hOne⟩
    · exact (congrArg List.length hNone).trans_le (Nat.zero_le 1)
    · exact (congrArg List.length hOne).le

theorem name_ne_persisted (p : BatchPacket) : p.name ≠ .persisted := by
  unfold BatchPacket.name
  cases p.ending with
  | returns => exact nofun
  | fails raised left => cases raised <;> exact nofun
  | fails_late raised => cases raised <;> exact nofun

def CountLog.times (log : CountLog) (place : Nat) : Nat :=
  log.countP fun entry => entry.1 ≠ .persisted ∧ entry.2 = place

theorem times_append (log log' : CountLog) (place : Nat) :
    (log ++ log').times place = log.times place + log'.times place := List.countP_append

theorem pending_append (log log' : CountLog) (name : PipelineCount) :
    (log ++ log').pending name = log.pending name + log'.pending name := List.countP_append

theorem times_evaluate (i : Nat) (s : Sniffing) (batch : List BatchPacket) (place : Nat) :
    (evaluate_each env i s batch).2.times place =
      if i ≤ place ∧ place < i + batch.length then 1 else 0 := by
  induction batch generalizing i s with
  | nil =>
    rw [if_neg fun h => Nat.not_lt.mpr h.1 h.2]
    rfl
  | cons p batch ih =>
    have hStep : (evaluate_each env i s (p :: batch)).2.times place =
        (evaluate_each env (i + 1) (p.after env s) batch).2.times place +
          if i = place then 1 else 0 := by
      refine List.countP_cons.trans ?_
      simp only [name_ne_persisted, ne_eq, not_false_eq_true, true_and, decide_eq_true_eq]
      rfl
    rw [hStep, ih, List.length_cons]
    split_ifs <;> omega

theorem place_evaluate {i : Nat} {s : Sniffing} {batch : List BatchPacket}
    {entry : Nat × Registration} (h : entry ∈ (evaluate_each env i s batch).1) :
    i ≤ entry.1 ∧ entry.1 < i + batch.length := by
  induction batch generalizing i s with
  | nil => cases h
  | cons p batch ih =>
    rw [List.length_cons]
    rcases List.mem_append.mp h with hHere | hLater
    · obtain ⟨registration, -, rfl⟩ := List.mem_map.mp hHere
      dsimp only
      omega
    · obtain ⟨hFrom, hTo⟩ := ih hLater
      omega

theorem sum_evaluate (i : Nat) (s : Sniffing) (batch : List BatchPacket) :
    (evaluate_each env i s batch).2.pending .processed +
      (evaluate_each env i s batch).2.pending .errors +
        (evaluate_each env i s batch).2.pending .write_errors = batch.length ∧
    (evaluate_each env i s batch).2.pending .persisted = 0 := by
  induction batch generalizing i s with
  | nil => exact ⟨rfl, rfl⟩
  | cons p batch ih =>
    obtain ⟨hSum, hNone⟩ := ih (i + 1) (p.after env s)
    have hName := name_ne_persisted p
    have hStep (name : PipelineCount) : (evaluate_each env i s (p :: batch)).2.pending name =
        (evaluate_each env (i + 1) (p.after env s) batch).2.pending name +
          if p.name = name then 1 else 0 := by
      refine List.countP_cons.trans ?_
      simp only [decide_eq_true_eq]
      rfl
    rw [hStep, hStep, hStep, hStep, List.length_cons]
    cases hCase : p.name with
    | persisted => exact absurd hCase hName
    | processed | errors | write_errors =>
      simp only [reduceCtorEq, if_true, if_false]
      omega

/-- A packet that is processed is handed over or deliberately not stored; one that raises late is
handed over too. -/
theorem processed_evaluate (i : Nat) (s : Sniffing) (batch : List BatchPacket) :
    (evaluate_each env i s batch).2.pending .processed + latePackets env s batch =
      (evaluate_each env i s batch).1.length + skippedPackets env s batch := by
  induction batch generalizing i s with
  | nil => rfl
  | cons p batch ih =>
    have hRest := ih (i + 1) (p.after env s)
    have hStep : (evaluate_each env i s (p :: batch)).2.pending .processed =
        (evaluate_each env (i + 1) (p.after env s) batch).2.pending .processed +
          if p.name = .processed then 1 else 0 := by
      refine List.countP_cons.trans ?_
      simp only [decide_eq_true_eq]
      rfl
    have hLength : (evaluate_each env i s (p :: batch)).1.length =
        (p.handed env s).length + (evaluate_each env (i + 1) (p.after env s) batch).1.length := by
      refine List.length_append.trans ?_
      rw [List.length_map]
    have hOne : (if p.name = .processed then 1 else 0) + (if p.late env s then 1 else 0) =
        (p.handed env s).length + if p.skipped env s then 1 else 0 := by
      have hHanded := length_handed env p s
      unfold BatchPacket.name BatchPacket.late BatchPacket.skipped
      cases hEnding : p.ending with
      | fails raised left =>
        have hNone : p.handed env s = [] := by rw [BatchPacket.handed, hEnding]
        rw [hNone]
        cases raised <;> rfl
      | returns =>
        cases hList : p.handed env s with
        | nil => rfl
        | cons registration rest =>
          rw [hList] at hHanded
          obtain rfl : rest = [] := List.length_eq_zero_iff.mp (by simpa using hHanded)
          rfl
      | fails_late raised =>
        cases hList : p.handed env s with
        | nil => cases raised <;> rfl
        | cons registration rest =>
          rw [hList] at hHanded
          obtain rfl : rest = [] := List.length_eq_zero_iff.mp (by simpa using hHanded)
          cases raised <;> rfl
    rw [hStep, hLength, latePackets, skippedPackets]
    omega

end Evaluation

/-! ## What the writes count -/

section Writes

variable {rt store write} {attempts : List Attempt} {deferred : List (Nat × Registration)}
  {c : Conn (Db κ)}

theorem length_writes : (deferredWrites write deferred).length = deferred.length :=
  List.length_map _

theorem flush_lands (hOpen : c.isOpen = false)
    (hLands : Lands rt store (deferredWrites write deferred) c.durable attempts) :
    (flush_deferred rt store write attempts deferred c).1 =
        deferred.map (fun entry => (.persisted, entry.1)) ∧
      (flush_deferred rt store write attempts deferred c).2.durable.packets.rows.length =
        c.durable.packets.rows.length + deferred.length := by
  obtain ⟨durable, _ | t⟩ := c
  · cases deferred with
    | nil => exact ⟨rfl, rfl⟩
    | cons first rest =>
      obtain ⟨outcomes, db', hRun, hSaved, hLength, hRows⟩ := register_retried_saves hLands
      change register_retried rt store _ attempts ⟨durable, none⟩ = _ at hRun
      rw [length_writes] at hLength hRows
      unfold flush_deferred
      rw [if_neg (by simp), hRun]
      refine ⟨?_, hRows⟩
      have hFirst : ((first :: rest).zip outcomes).map Prod.fst = first :: rest :=
        List.map_fst_zip hLength.ge
      refine Eq.trans ?_ (congrArg (List.map _) hFirst)
      rw [List.map_map]
      dsimp only
      rw [← List.filterMap_eq_map]
      refine List.filterMap_congr ?_
      intro pair hPair
      obtain ⟨row, hRow⟩ := hSaved pair.2 (List.of_mem_zip hPair).2
      rw [hRow]
      rfl
  · cases hOpen

theorem flush_fails (hSome : deferred ≠ [])
    (h : ¬(c.isOpen = false ∧ Lands rt store (deferredWrites write deferred) c.durable attempts)) :
    ∃ entry ∈ deferred,
      (.write_errors, entry.1) ∈ (flush_deferred rt store write attempts deferred c).1 := by
  have hFails := register_retried_fails h
  unfold flush_deferred
  rw [if_neg (by simpa using hSome)]
  generalize register_retried rt store (deferredWrites write deferred) attempts c = run at hFails
  obtain ⟨_ | outcomes, c'⟩ := run
  · obtain ⟨entry, hEntry⟩ := List.exists_mem_of_ne_nil deferred hSome
    exact ⟨entry, hEntry, List.mem_map_of_mem hEntry⟩
  · obtain ⟨hLength, e, hError⟩ := hFails
    rw [length_writes] at hLength
    have hSecond : (deferred.zip outcomes).map Prod.snd = outcomes := List.map_snd_zip hLength.le
    rw [← hSecond] at hError
    obtain ⟨pair, hPair, hError⟩ := List.mem_map.mp hError
    refine ⟨pair.1, (List.of_mem_zip hPair).1, List.mem_filterMap.mpr ⟨pair, hPair, ?_⟩⟩
    rw [hError]
    rfl

theorem times_persisted (deferred : List (Nat × Registration)) (place : Nat) :
    CountLog.times (deferred.map fun entry => (.persisted, entry.1)) place = 0 := by
  unfold CountLog.times
  rw [List.countP_map, List.countP_eq_zero]
  intro entry _
  simp

theorem pending_persisted (deferred : List (Nat × Registration)) (name : PipelineCount) :
    CountLog.pending (deferred.map fun entry => (.persisted, entry.1)) name =
      if name = .persisted then deferred.length else 0 := by
  unfold CountLog.pending
  rw [List.countP_map]
  cases name with
  | persisted => exact List.countP_eq_length.mpr fun _ _ => rfl
  | processed | errors | write_errors => exact List.countP_eq_zero.mpr fun _ _ => by simp

end Writes

/-! ## Exact counters -/

/-- Every packet of the batch is counted once, as processed or as one of the errors; the rows that
are committed are counted as persisted; and what is processed and not persisted was not meant to be
stored. -/
structure CountsExact (s : Sniffing) (batch : List BatchPacket) (c c' : Conn (Db κ))
    (log : CountLog) : Prop where
  once : ∀ place < batch.length, log.times place = 1
  sum : ∀ k : PipelineCounters,
    (k.apply log).processed + (k.apply log).errors + (k.apply log).write_errors =
      k.processed + k.errors + k.write_errors + batch.length
  persisted : ∀ k : PipelineCounters, (k.apply log).persisted + c.durable.packets.rows.length =
    k.persisted + c'.durable.packets.rows.length
  skipped : ∀ k : PipelineCounters, (k.apply log).processed + k.persisted =
    k.processed + (k.apply log).persisted + skippedPackets env s batch

section Exact

variable {rt store write} {attempts : Fin 3 → Attempt} {s : Sniffing} {batch : List BatchPacket}
  {c : Conn (Db κ)}

/-- The packets handed on are saved by one of the attempts, or there are none. -/
def HandedLands (rt : Runtime) (store : StoreEnv) (write : Registration → PacketWrite κ)
    (attempts : Fin 3 → Attempt) (s : Sniffing) (batch : List BatchPacket) (c : Conn (Db κ)) :
    Prop :=
  (evaluate_each env 0 s batch).1 = [] ∨
    c.isOpen = false ∧ Lands rt store (deferredWrites write (evaluate_each env 0 s batch).1)
      c.durable (List.ofFn attempts)

theorem process_lands (h : HandedLands env rt store write attempts s batch c) :
    (process_batch env rt store write attempts s batch c).1 = (evaluate_each env 0 s batch).2 ++
        (evaluate_each env 0 s batch).1.map (fun entry => (.persisted, entry.1)) ∧
      (process_batch env rt store write attempts s batch c).2.durable.packets.rows.length =
        c.durable.packets.rows.length + (evaluate_each env 0 s batch).1.length := by
  unfold process_batch
  dsimp only
  rcases h with hNone | ⟨hOpen, hLands⟩
  · rw [hNone]
    exact ⟨rfl, rfl⟩
  · obtain ⟨hLog, hRows⟩ := flush_lands hOpen hLands
    exact ⟨congrArg _ hLog, hRows⟩

theorem process_counts_twice (h : ¬HandedLands env rt store write attempts s batch c) :
    ∃ place < batch.length,
      2 ≤ (process_batch env rt store write attempts s batch c).1.times place := by
  obtain ⟨hSome, hFails⟩ := not_or.mp h
  obtain ⟨entry, hEntry, hCounted⟩ := flush_fails hSome hFails
  have hPlace := (place_evaluate env hEntry).2
  rw [Nat.zero_add] at hPlace
  refine ⟨entry.1, hPlace, ?_⟩
  have hFirst : (evaluate_each env 0 s batch).2.times entry.1 = 1 := by
    rw [times_evaluate, if_pos ⟨Nat.zero_le _, by omega⟩]
  have hSecond : 0 < (flush_deferred rt store write (List.ofFn attempts)
      (evaluate_each env 0 s batch).1 c).1.times entry.1 :=
    List.countP_pos_iff.mpr ⟨_, hCounted, decide_eq_true ⟨nofun, rfl⟩⟩
  unfold process_batch
  dsimp only
  rw [times_append]
  omega

/-- The counters of a batch are exact when no packet raises behind handing itself over and the
packets handed over all land, and only then. -/
theorem counts_exact_iff (rt : Runtime) (store : StoreEnv) (write : Registration → PacketWrite κ)
    (attempts : Fin 3 → Attempt) (s : Sniffing) (batch : List BatchPacket) (c : Conn (Db κ)) :
    CountsExact env s batch c (process_batch env rt store write attempts s batch c).2
        (process_batch env rt store write attempts s batch c).1 ↔
      latePackets env s batch = 0 ∧ HandedLands env rt store write attempts s batch c := by
  obtain ⟨hSum, hNone⟩ := sum_evaluate env 0 s batch
  have hProcessed := processed_evaluate env 0 s batch
  constructor
  · intro h
    have hLands : HandedLands env rt store write attempts s batch c := by
      by_contra hNot
      obtain ⟨place, hPlace, hTwice⟩ := process_counts_twice env hNot
      have hOnce := h.once place hPlace
      omega
    refine ⟨?_, hLands⟩
    have hSkipped := h.skipped ⟨0, 0, 0, 0⟩
    rw [(process_lands env hLands).1] at hSkipped
    simp only [PipelineCounters.apply, pending_append, pending_persisted, hNone, reduceCtorEq,
      if_true, if_false] at hSkipped
    omega
  · rintro ⟨hLate, hLands⟩
    obtain ⟨hLog, hRows⟩ := process_lands env hLands
    rw [hLog]
    refine ⟨?_, ?_, ?_, ?_⟩
    · intro place hPlace
      rw [times_append, times_persisted, times_evaluate, if_pos ⟨Nat.zero_le _, by omega⟩]
    · intro k
      simp only [PipelineCounters.apply, pending_append, pending_persisted, reduceCtorEq, if_false]
      omega
    · intro k
      rw [hRows]
      simp only [PipelineCounters.apply, pending_append, pending_persisted, hNone, if_true]
      omega
    · intro k
      simp only [PipelineCounters.apply, pending_append, pending_persisted, hNone, reduceCtorEq,
        if_true, if_false]
      omega

end Exact

/-! ## A packet that is counted twice -/

def lockedAttempts : Fin 3 → Attempt := fun _ =>
  ⟨some ⟨"database is locked", false⟩, none, fun _ _ _ => none, none⟩

/-- One muted packet is processed and fails to be written. -/
theorem locked_counts_twice : ¬∀ (env : GateEnv) (rt : Runtime) (store : StoreEnv)
    (write : Registration → PacketWrite String) (attempts : Fin 3 → Attempt) (s : Sniffing)
    (batch : List BatchPacket) (c : Conn (Db String)),
      CountsExact env s batch c (process_batch env rt store write attempts s batch c).2
        (process_batch env rt store write attempts s batch c).1 := by
  intro hAll
  have hExact := hAll GateEnv.ascii Runtime.ascii ⟨false⟩ (fun _ => probeWrite) lockedAttempts
    Sniffing.start [⟨mutedCall, .returns⟩] emptyConn
  have hOnce := hExact.once 0 Nat.zero_lt_one
  have hLog : (process_batch GateEnv.ascii Runtime.ascii ⟨false⟩ (fun _ => probeWrite)
      lockedAttempts Sniffing.start [⟨mutedCall, .returns⟩] emptyConn).1 =
        [(.processed, 0), (.write_errors, 0)] := by decide
  rw [hLog] at hOnce
  cases hOnce

end Sniff4Hound
