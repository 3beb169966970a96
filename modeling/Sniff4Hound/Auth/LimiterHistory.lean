import Sniff4Hound.Auth.RateContract
import Sniff4Hound.Library.EventLog

/-!
# What the limiter answers, told by its history

The calls are logged with their answers. From the log alone `failures` and `lockouts` say what has
happened to a source since its last success, and `LimiterConfig.law` what each call has to answer after
that. The limiter keeps the law (`limiter_law_iff`) until the power of two of the 1025th lockout in a row,
which has no value as a float (`long_attack_raises`).
-/

namespace Sniff4Hound.Auth

open EventLog CappedTable

/-! ## Logged runs -/

inductive Answer
  | checked (allowed : Bool) (retry_after : Rat)
  /-- the lockout; `none` when the call raises -/
  | failed (lockout : Option Rat)
  | done

structure LogEntry where
  time : Rat
  call : AuthCall
  answer : Answer

structure LoggedState extends LimiterState where
  log : List LogEntry

def LoggedState.initial (clock : NNRat) : LoggedState := ⟨.initial clock, []⟩

namespace LimiterConfig

variable (cfg : LimiterConfig)

def answer (clients : Clients) (now : Rat) : AuthCall → Answer
  | .check client => .checked (cfg.check clients client now).1.1 (cfg.check clients client now).1.2
  | .failure client => .failed (cfg.register_failure clients client now).1
  | .success _ => .done
  | .reset => .done

def logged (s : LoggedState) (label : NNRat × AuthCall) : Option LoggedState :=
  let now := s.clock + label.1
  if s.clients.length < cfg.max_clients then
    some
      { clock := now
        clients := cfg.after s.clients now label.2
        log := s.log ++ [⟨now, label.2, cfg.answer s.clients now label.2⟩] }
  else none

end LimiterConfig

/-! ## The history of a source -/

namespace LogEntry

/-- `reset` is taken for a success of every source. -/
def concerns (key : String) (entry : LogEntry) : Bool :=
  match entry.call with
  | .check client => client_key client = key
  | .failure client => client_key client = key
  | .success client => client_key client = key
  | .reset => true

theorem concerns_failure (key : String) (now : Rat) (client : Option String) (answer : Answer) :
    concerns key ⟨now, .failure client, answer⟩ = decide (client_key client = key) := rfl

theorem concerns_success (key : String) (now : Rat) (client : Option String) (answer : Answer) :
    concerns key ⟨now, .success client, answer⟩ = decide (client_key client = key) := rfl

def clears (entry : LogEntry) : Bool :=
  match entry.call with
  | .success _ => true
  | .reset => true
  | _ => false

def fails (entry : LogEntry) : Bool :=
  match entry.call with
  | .failure _ => true
  | _ => false

def lockout? (entry : LogEntry) : Option Rat :=
  match entry.answer with
  | .failed (some lockout) => if 0 < lockout then some lockout else none
  | _ => none

end LogEntry

def sinceSuccess (key : String) (log : List LogEntry) : List LogEntry :=
  (log.filter (LogEntry.concerns key)).rtakeWhile fun entry => !entry.clears

/-- The lockouts of a source since its last success, with the times at which they were applied. -/
def lockouts (key : String) (log : List LogEntry) : List (Rat × Rat) :=
  (sinceSuccess key log).filterMap fun entry => entry.lockout?.map fun lockout => (entry.time, lockout)

def failures (key : String) (log : List LogEntry) : List Rat :=
  (((sinceSuccess key log).rtakeWhile fun entry => entry.lockout?.isNone).filter LogEntry.fails).map
    LogEntry.time

namespace LimiterConfig

variable (cfg : LimiterConfig)

/-- How many of these failures, with one at `now`, lie within the last window. -/
def recent (key : String) (log : List LogEntry) (now : Rat) : Nat :=
  ((failures key log ++ [now]).filter fun time => decide (now - cfg.window < time)).length

/-- The length of a lockout, after `k` others since the last success. -/
def lockoutAfter (k : Nat) : Rat := min (cfg.base_lockout * 2 ^ k) cfg.max_lockout

/-- The answer that the failures and lockouts before a call ask for. -/
def law (before : List LogEntry) (entry : LogEntry) : Prop :=
  match entry.call, entry.answer with
  | .check client, .checked allowed _ =>
    allowed = false ↔
      ∃ lock ∈ lockouts (client_key client) before, entry.time < lock.1 + lock.2
  | .failure client, .failed lockout =>
    lockout = some (if cfg.threshold ≤ cfg.recent (client_key client) before entry.time then
      cfg.lockoutAfter (lockouts (client_key client) before).length else 0)
  | .success _, .done => True
  | .reset, .done => True
  | _, _ => False

/-- A failure that locks finds the limiter on and fewer than 1024 lockouts before it. -/
def bound (before : List LogEntry) (entry : LogEntry) : Prop :=
  match entry.call with
  | .failure client =>
    cfg.threshold ≤ cfg.recent (client_key client) before entry.time →
      cfg.enabled = true ∧ (lockouts (client_key client) before).length < 1024
  | _ => True

def failureWindow : Window Rat where
  keeps now time := decide (now - cfg.window < time)
  leaves hLater hKeeps := decide_eq_true ((sub_le_sub_right hLater _).trans_lt (of_decide_eq_true hKeeps))
  newer hNewer hKeeps := decide_eq_true ((of_decide_eq_true hKeeps).trans_le hNewer)

end LimiterConfig

/-! ## One more entry -/

section Snoc

variable {key : String} {log : List LogEntry} {entry : LogEntry}

theorem sinceSuccess_snoc : sinceSuccess key (log ++ [entry]) =
    if entry.concerns key then if entry.clears then [] else sinceSuccess key log ++ [entry]
    else sinceSuccess key log := by
  rw [sinceSuccess, List.filter_append, List.filter_singleton]
  by_cases hConcerns : entry.concerns key = true
  · rw [hConcerns, if_pos rfl, cond_true, List.rtakeWhile_concat]
    cases entry.clears with
    | true => rfl
    | false => rfl
  · rw [Bool.eq_false_iff.mpr hConcerns, cond_false, List.append_nil]
    rfl

theorem lockouts_snoc : lockouts key (log ++ [entry]) =
    if entry.concerns key then if entry.clears then []
      else lockouts key log ++ (entry.lockout?.map fun lockout => (entry.time, lockout)).toList
    else lockouts key log := by
  rw [lockouts, sinceSuccess_snoc]
  split
  · split
    · rfl
    · rw [List.filterMap_append, List.filterMap_cons, List.filterMap_nil]
      cases entry.lockout? with
      | none => rfl
      | some lockout => rfl
  · rfl

theorem failures_snoc : failures key (log ++ [entry]) =
    if entry.concerns key then if entry.clears then []
      else if entry.lockout?.isSome then []
      else failures key log ++ if entry.fails then [entry.time] else []
    else failures key log := by
  rw [failures, sinceSuccess_snoc]
  split
  · split
    · rfl
    · rw [List.rtakeWhile_concat]
      cases entry.lockout? with
      | some lockout => rfl
      | none =>
        rw [if_pos Option.isNone_none, List.filter_append, List.filter_singleton, List.map_append]
        cases entry.fails with
        | true => rfl
        | false => rfl
  · rfl

theorem history_snoc (h : entry.concerns key = false ∨
      entry.clears = false ∧ entry.lockout? = none ∧ entry.fails = false) :
    lockouts key (log ++ [entry]) = lockouts key log ∧
      failures key (log ++ [entry]) = failures key log := by
  rw [lockouts_snoc, failures_snoc]
  rcases h with hOther | ⟨hClears, hNone, hFails⟩
  · rw [hOther]
    exact ⟨rfl, rfl⟩
  · rw [hClears, hNone, hFails, Option.map_none, Option.toList_none, List.append_nil]
    refine ⟨ite_self _, ?_⟩
    change (if entry.concerns key then failures key log ++ [] else failures key log) = _
    rw [List.append_nil, ite_self]

end Snoc

/-! ## The entry of a source -/

section Entries

variable {cfg : LimiterConfig} {key : String} {clock now : Rat} {log : List LogEntry}
variable {found : Option ClientEntry} {e : ClientEntry}

structure Tracks (cfg : LimiterConfig) (key : String) (clock : Rat) (log : List LogEntry)
    (found : Option ClientEntry) : Prop where
  lengths : (lockouts key log).map Prod.snd =
    (List.range (lockouts key log).length).map cfg.lockoutAfter
  past : ∀ lock ∈ lockouts key log, lock.1 ≤ clock
  unknown : found = none → failures key log = [] ∧ lockouts key log = []
  strikes : ∀ e, found = some e → e.strikes = (lockouts key log).length
  kept : ∀ e, found = some e → Kept cfg.failureWindow id clock (failures key log) e.failures
  blocked : ∀ e, found = some e → ∀ later, clock ≤ later →
    (later < e.blocked_until ↔ ∃ lock ∈ lockouts key log, later < lock.1 + lock.2)

theorem lockoutAfter_mono {k n : Nat} (h : k ≤ n) : cfg.lockoutAfter k ≤ cfg.lockoutAfter n := by
  refine min_le_min_right _ (mul_le_mul_of_nonneg_left ?_ ?_)
  · exact pow_le_pow_right₀ one_le_two h
  · exact zero_le_one.trans cfg.base_lockout_bound

theorem lockoutAfter_pos (cfg : LimiterConfig) (k : Nat) : 0 < cfg.lockoutAfter k := by
  have hBase : 0 < cfg.base_lockout := zero_lt_one.trans_le cfg.base_lockout_bound
  exact lt_min (mul_pos hBase (pow_pos two_pos k)) (hBase.trans_le cfg.max_lockout_bound)

theorem lockout_succ (cfg : LimiterConfig) (k : Nat) :
    cfg.lockout (k + 1) = if k < 1024 then some (cfg.lockoutAfter k) else none := by
  rw [LimiterConfig.lockout, Nat.add_sub_cancel]
  by_cases hFew : k < 1024
  · rw [if_pos hFew, if_neg (by omega)]
    rfl
  · rw [if_neg hFew, if_pos (by omega)]

theorem Tracks.wait (h : Tracks cfg key clock log found) (hNow : clock ≤ now) :
    Tracks cfg key now log found where
  lengths := h.lengths
  past lock hLock := (h.past lock hLock).trans hNow
  unknown := h.unknown
  strikes := h.strikes
  kept e hFound := (h.kept e hFound).wait hNow
  blocked e hFound later hLater := h.blocked e hFound later (hNow.trans hLater)

theorem Tracks.keep (h : Tracks cfg key clock log found) (hNow : clock ≤ now) {entry : LogEntry}
    (hLeft : lockouts key (log ++ [entry]) = lockouts key log ∧
      failures key (log ++ [entry]) = failures key log) :
    Tracks cfg key now (log ++ [entry]) found := by
  obtain ⟨hLockouts, hFailures⟩ := hLeft
  obtain ⟨hLengths, hPast, hUnknown, hStrikes, hKept, hBlocked⟩ := h.wait hNow
  rw [← hLockouts] at hLengths hPast hUnknown hStrikes hBlocked
  rw [← hFailures] at hUnknown hKept
  exact ⟨hLengths, hPast, hUnknown, hStrikes, hKept, hBlocked⟩

variable (h : Tracks cfg key clock log (some e))

include h

theorem Tracks.seen (seen_at : Rat) : Tracks cfg key clock log (some { e with seen_at := seen_at }) where
  lengths := h.lengths
  past := h.past
  unknown := nofun
  strikes := by
    rintro _ ⟨⟩
    exact h.strikes e rfl
  kept := by
    rintro _ ⟨⟩
    exact h.kept e rfl
  blocked := by
    rintro _ ⟨⟩
    exact h.blocked e rfl

omit h in
theorem Tracks.clear (cfg : LimiterConfig) (clock : Rat) (hLockouts : lockouts key log = [])
    (hFailures : failures key log = []) : Tracks cfg key clock log none where
  lengths := by rw [hLockouts]; rfl
  past lock hLock := by
    rw [hLockouts] at hLock
    cases hLock
  unknown _ := ⟨hFailures, hLockouts⟩
  strikes := nofun
  kept := nofun
  blocked := nofun

omit h in
theorem Tracks.fresh (h : Tracks cfg key clock log none) (hClock : 0 ≤ clock) (seen_at : Rat) :
    Tracks cfg key clock log (some ⟨[], 0, 0, seen_at⟩) := by
  obtain ⟨hFailures, hLockouts⟩ := h.unknown rfl
  refine ⟨h.lengths, h.past, nofun, ?_, ?_, ?_⟩
  · rintro _ ⟨⟩
    rw [hLockouts]
    rfl
  · rintro _ ⟨⟩
    rw [hFailures]
    exact .nil clock
  · rintro _ ⟨⟩ later hLater
    rw [hLockouts]
    exact iff_of_false (hClock.trans hLater).not_gt nofun

/-! ## A failure -/

theorem Tracks.pruned (hNow : clock ≤ now) :
    (e.failures ++ [now]).dropWhile (fun time => decide (time ≤ now - cfg.window)) =
        (failures key log ++ [now]).filter (fun time => decide (now - cfg.window < time)) ∧
      Kept cfg.failureWindow id now (failures key log ++ [now])
        ((failures key log ++ [now]).filter fun time => decide (now - cfg.window < time)) := by
  obtain ⟨hPruned, hKept⟩ := (h.kept e rfl).touch now hNow
  refine ⟨Eq.trans ?_ hPruned, hKept⟩
  congr 1
  funext time
  change decide (time ≤ now - cfg.window) = !decide (now - cfg.window < time)
  rw [← decide_not, decide_eq_decide, not_lt]

theorem Tracks.fail_few (hNow : clock ≤ now) (hFew : ¬cfg.threshold ≤ cfg.recent key log now) :
    ∃ queue, cfg.fail now e = (some 0, { e with failures := queue }) ∧
      Kept cfg.failureWindow id now (failures key log ++ [now]) queue := by
  obtain ⟨hPruned, hKept⟩ := h.pruned hNow
  refine ⟨_, ?_, hKept⟩
  rw [LimiterConfig.fail, hPruned]
  exact if_pos (not_le.mp hFew)

theorem Tracks.fail_many (hNow : clock ≤ now) (hMany : cfg.threshold ≤ cfg.recent key log now) :
    (cfg.fail now e).1 = cfg.lockout ((lockouts key log).length + 1) ∧
      ∀ lockout, cfg.lockout ((lockouts key log).length + 1) = some lockout →
        (cfg.fail now e).2 =
          ⟨[], now + lockout, (lockouts key log).length + 1, e.seen_at⟩ := by
  obtain ⟨hPruned, -⟩ := h.pruned hNow
  have hLong : ¬((failures key log ++ [now]).filter
      fun time => decide (now - cfg.window < time)).length < cfg.threshold := not_lt.mpr hMany
  rw [LimiterConfig.fail, hPruned, ← h.strikes e rfl]
  dsimp only
  rw [if_neg hLong]
  cases cfg.lockout (e.strikes + 1) with
  | none => exact ⟨rfl, fun _ hSome => by cases hSome⟩
  | some lockout => exact ⟨rfl, by rintro _ ⟨⟩; rfl⟩

omit h

theorem Tracks.failed {client : Option String} (h : Tracks cfg (client_key client) clock log (some e))
    (hNow : clock ≤ now) {queue : List Rat}
    (hQueue : Kept cfg.failureWindow id now (failures (client_key client) log ++ [now]) queue) :
    Tracks cfg (client_key client) now (log ++ [⟨now, .failure client, .failed (some 0)⟩])
      (some { e with failures := queue }) := by
  have hConcerns : LogEntry.concerns (client_key client)
      ⟨now, .failure client, .failed (some 0)⟩ = true := by
    rw [LogEntry.concerns_failure, decide_eq_true rfl]
  have hLockouts : lockouts (client_key client) (log ++ [⟨now, .failure client, .failed (some 0)⟩]) =
      lockouts (client_key client) log := by
    rw [lockouts_snoc, hConcerns]
    exact List.append_nil _
  have hFailures : failures (client_key client) (log ++ [⟨now, .failure client, .failed (some 0)⟩]) =
      failures (client_key client) log ++ [now] := by
    rw [failures_snoc, hConcerns]
    rfl
  obtain ⟨hLengths, hPast, -, hStrikes, -, hBlocked⟩ := h.wait hNow
  rw [← hLockouts] at hLengths hPast hStrikes hBlocked
  rw [← hFailures] at hQueue
  refine ⟨hLengths, hPast, fun hNone => absurd hNone (Option.some_ne_none _), ?_, ?_, ?_⟩
  · rintro _ ⟨⟩
    exact hStrikes e rfl
  · rintro _ ⟨⟩
    exact hQueue
  · rintro _ ⟨⟩
    exact hBlocked e rfl

theorem Tracks.locked {client : Option String} (h : Tracks cfg (client_key client) clock log found)
    (hNow : clock ≤ now) (seen_at : Rat) :
    Tracks cfg (client_key client) now
      (log ++ [⟨now, .failure client,
        .failed (some (cfg.lockoutAfter (lockouts (client_key client) log).length))⟩])
      (some ⟨[], now + cfg.lockoutAfter (lockouts (client_key client) log).length,
        (lockouts (client_key client) log).length + 1, seen_at⟩) := by
  obtain ⟨hLengths, hPast, -, -, -, -⟩ := h.wait hNow
  have hLater : ∀ lock ∈ lockouts (client_key client) log,
      lock.2 ≤ cfg.lockoutAfter (lockouts (client_key client) log).length := by
    intro lock hLock
    have hLength := List.mem_map_of_mem (f := Prod.snd) hLock
    rw [hLengths] at hLength
    obtain ⟨k, hk, hEq⟩ := List.mem_map.mp hLength
    rw [← hEq]
    exact lockoutAfter_mono (List.mem_range.mp hk).le
  generalize hCount : (lockouts (client_key client) log).length = n at hLengths hLater ⊢
  have hPos := lockoutAfter_pos cfg n
  generalize hLock : cfg.lockoutAfter n = lockout at hLater hPos ⊢
  have hConcerns : LogEntry.concerns (client_key client)
      ⟨now, .failure client, .failed (some lockout)⟩ = true := by
    rw [LogEntry.concerns_failure, decide_eq_true rfl]
  have hApplied : LogEntry.lockout? ⟨now, .failure client, .failed (some lockout)⟩ = some lockout :=
    if_pos hPos
  have hLockouts : lockouts (client_key client) (log ++ [⟨now, .failure client, .failed (some lockout)⟩]) =
      lockouts (client_key client) log ++ [(now, lockout)] := by
    rw [lockouts_snoc, hConcerns, hApplied]
    rfl
  have hFailures : failures (client_key client)
      (log ++ [⟨now, .failure client, .failed (some lockout)⟩]) = [] := by
    rw [failures_snoc, hConcerns, hApplied]
    rfl
  constructor
  · rw [hLockouts, List.map_append, hLengths, List.length_append, hCount, List.length_singleton,
      List.range_succ, List.map_append, List.map_singleton, List.map_singleton, hLock]
  · intro lock hMem
    rw [hLockouts] at hMem
    rcases List.mem_append.mp hMem with hOld | hNew
    · exact hPast lock hOld
    · rw [List.mem_singleton.mp hNew]
  · exact fun hNone => absurd hNone (Option.some_ne_none _)
  · rintro _ ⟨⟩
    rw [hLockouts, List.length_append, hCount]
    rfl
  · rintro _ ⟨⟩
    rw [hFailures]
    exact .nil now
  · rintro _ ⟨⟩ later -
    rw [hLockouts]
    constructor
    · intro hBefore
      exact ⟨_, List.mem_append_right _ (List.mem_singleton_self _), hBefore⟩
    · rintro ⟨lock, hMem, hBefore⟩
      change later < now + lockout
      rcases List.mem_append.mp hMem with hOld | hNew
      · linarith [hPast lock hOld, hLater lock hOld]
      · rw [List.mem_singleton.mp hNew] at hBefore
        exact hBefore

end Entries

/-! ## Steps -/

section Steps

variable {cfg : LimiterConfig} {clock now : Rat} {clients : Clients} {log : List LogEntry}

def Tracked (cfg : LimiterConfig) (clock : Rat) (clients : Clients) (log : List LogEntry) : Prop :=
  ∀ key, Tracks cfg key clock log (clients.lookup key)

theorem tracked_check (hEnabled : cfg.enabled = true) (h : Tracked cfg clock clients log)
    (hNow : clock ≤ now) (client : Option String) :
    cfg.law log ⟨now, .check client, cfg.answer clients now (.check client)⟩ ∧
      Tracked cfg now (cfg.after clients now (.check client))
        (log ++ [⟨now, .check client, cfg.answer clients now (.check client)⟩]) := by
  have hKeep : ∀ key found, Tracks cfg key clock log found → Tracks cfg key now
      (log ++ [⟨now, .check client, cfg.answer clients now (.check client)⟩]) found :=
    fun key found hTracks => hTracks.keep hNow (history_snoc (.inr ⟨rfl, rfl, rfl⟩))
  have hOwn := h (client_key client)
  cases hEntry : clients.lookup (client_key client) with
  | none =>
    rw [hEntry] at hOwn
    rw [LimiterConfig.answer, LimiterConfig.after] at *
    rw [check_unknown hEntry] at *
    refine ⟨?_, fun key => hKeep key _ (h key)⟩
    change true = false ↔ _
    rw [(hOwn.unknown rfl).2]
    refine iff_of_false Bool.false_ne_true.symm ?_
    rintro ⟨_, hMem, -⟩
    cases hMem
  | some e =>
    obtain ⟨hAllowed, hTable⟩ := @check_known cfg clients client now e hEnabled hEntry
    rw [hEntry] at hOwn
    constructor
    · change (cfg.check clients client now).1.1 = false ↔ _
      rw [hAllowed, decide_eq_false_iff_not, not_le]
      exact hOwn.blocked e rfl now hNow
    · intro key
      rw [LimiterConfig.after, hTable, Dict.lookup_set]
      split
      · next hKey =>
        rw [hKey]
        exact hKeep _ _ (hOwn.seen now)
      · exact hKeep key _ (h key)

theorem tracked_success (hEnabled : cfg.enabled = true) (h : Tracked cfg clock clients log)
    (hNow : clock ≤ now) (client : Option String) :
    Tracked cfg now (cfg.after clients now (.success client)) (log ++ [⟨now, .success client, .done⟩]) := by
  intro key
  rw [LimiterConfig.after, LimiterConfig.register_success, hEnabled, if_neg Bool.true_eq_false_eq_False,
    Dict.lookup_erase]
  by_cases hKey : key = client_key client
  · have hConcerns : LogEntry.concerns key ⟨now, .success client, .done⟩ = true := by
      rw [LogEntry.concerns_success, decide_eq_true hKey.symm]
    rw [if_pos hKey]
    refine .clear cfg now ?_ ?_
    · rw [lockouts_snoc, hConcerns]
      rfl
    · rw [failures_snoc, hConcerns]
      rfl
  · have hOther : LogEntry.concerns key ⟨now, .success client, .done⟩ = false := by
      rw [LogEntry.concerns_success, decide_eq_false (Ne.symm hKey)]
    rw [if_neg hKey]
    exact (h key).keep hNow (history_snoc (.inl hOther))

theorem tracked_reset (now : Rat) (log : List LogEntry) :
    Tracked cfg now [] (log ++ [⟨now, .reset, .done⟩]) := fun key =>
  .clear cfg now (by rw [lockouts_snoc]; rfl) (by rw [failures_snoc]; rfl)

theorem register_failure_roomy (now : Rat) (hEnabled : cfg.enabled = true) (hRoom : clients.length < cfg.max_clients)
    (hClock : 0 ≤ clock) (h : Tracked cfg clock clients log) (client : Option String) :
    ∃ e, Tracks cfg (client_key client) clock log (some e) ∧
      cfg.register_failure clients client now =
        ((cfg.fail now e).1, clients.set (client_key client) (cfg.fail now e).2) := by
  have hOwn := h (client_key client)
  cases hEntry : clients.lookup (client_key client) with
  | none =>
    rw [hEntry] at hOwn
    refine ⟨_, hOwn.fresh hClock now, ?_⟩
    rw [register_failure_new hEnabled hEntry, LimiterConfig.evict, makeRoom, if_pos hRoom]
  | some e =>
    rw [hEntry] at hOwn
    exact ⟨_, hOwn.seen now, register_failure_known hEnabled hEntry⟩

theorem tracked_failure (hEnabled : cfg.enabled = true) (hRoom : clients.length < cfg.max_clients)
    (hClock : 0 ≤ clock) (h : Tracked cfg clock clients log) (hNow : clock ≤ now)
    (client : Option String) :
    (cfg.law log ⟨now, .failure client, cfg.answer clients now (.failure client)⟩ ↔
      cfg.bound log ⟨now, .failure client, cfg.answer clients now (.failure client)⟩) ∧
    (cfg.law log ⟨now, .failure client, cfg.answer clients now (.failure client)⟩ →
      Tracked cfg now (cfg.after clients now (.failure client))
        (log ++ [⟨now, .failure client, cfg.answer clients now (.failure client)⟩])) := by
  obtain ⟨e, hTracks, hCall⟩ := register_failure_roomy now hEnabled hRoom hClock h client
  rw [LimiterConfig.answer, LimiterConfig.after, hCall]
  have hOthers : ∀ answer e' key, key ≠ client_key client →
      Tracks cfg key now (log ++ [⟨now, .failure client, answer⟩])
        ((clients.set (client_key client) e').lookup key) := by
    intro answer e' key hKey
    have hOther : LogEntry.concerns key ⟨now, .failure client, answer⟩ = false := by
      rw [LogEntry.concerns_failure, decide_eq_false (Ne.symm hKey)]
    rw [Dict.lookup_set, if_neg hKey]
    exact (h key).keep hNow (history_snoc (.inl hOther))
  have hOwn : ∀ answer e', Tracks cfg (client_key client) now
      (log ++ [⟨now, .failure client, answer⟩]) (some e') →
      Tracked cfg now (clients.set (client_key client) e') (log ++ [⟨now, .failure client, answer⟩]) := by
    intro answer e' hNew key
    by_cases hKey : key = client_key client
    · rw [hKey, Dict.lookup_set, if_pos rfl]
      exact hNew
    · exact hOthers answer e' key hKey
  by_cases hMany : cfg.threshold ≤ cfg.recent (client_key client) log now
  · obtain ⟨hAnswer, hEntry⟩ := hTracks.fail_many hNow hMany
    have hLaw : cfg.law log ⟨now, .failure client, .failed (cfg.fail now e).1⟩ ↔
        (lockouts (client_key client) log).length < 1024 := by
      change (cfg.fail now e).1 = some (if cfg.threshold ≤ cfg.recent (client_key client) log now then _
        else 0) ↔ _
      rw [if_pos hMany, hAnswer, lockout_succ]
      exact ite_eq_left_iff.trans ⟨fun hIf => by_contra fun hNot => (by cases hIf hNot),
        fun hFew hNot => absurd hFew hNot⟩
    refine ⟨hLaw.trans ⟨fun hFew _ => ⟨hEnabled, hFew⟩, fun hBound => (hBound hMany).2⟩, ?_⟩
    intro hLawful
    have hLockout := (lockout_succ cfg _).trans (if_pos (hLaw.mp hLawful))
    rw [hAnswer, hLockout, hEntry _ hLockout]
    exact hOwn _ _ (hTracks.locked hNow _)
  · obtain ⟨queue, hFail, hQueue⟩ := hTracks.fail_few hNow hMany
    have hLaw : cfg.law log ⟨now, .failure client, .failed (some 0)⟩ := by
      change some 0 = some (if cfg.threshold ≤ cfg.recent (client_key client) log now then _ else 0)
      rw [if_neg hMany]
    rw [hFail]
    exact ⟨iff_of_true hLaw fun hDue => absurd hDue hMany,
      fun _ => hOwn _ _ (hTracks.failed hNow hQueue)⟩

end Steps

/-! ## Runs -/

section Runs

variable {cfg : LimiterConfig}

theorem off_step {now : Rat} {clients : Clients} {log : List LogEntry}
    (hOff : cfg.enabled = false) (h : ∀ key, lockouts key log = []) (call : AuthCall) :
    (cfg.law log ⟨now, call, cfg.answer clients now call⟩ ↔
      cfg.bound log ⟨now, call, cfg.answer clients now call⟩) ∧
    ∀ key, lockouts key (log ++ [⟨now, call, cfg.answer clients now call⟩]) = [] := by
  have hNone : (⟨now, call, cfg.answer clients now call⟩ : LogEntry).lockout? = none := by
    cases call with
    | failure client =>
      rw [LimiterConfig.answer, LimiterConfig.register_failure, if_pos hOff]
      rfl
    | check client => rfl
    | success client => rfl
    | reset => rfl
  refine ⟨?_, fun key => ?_⟩
  · cases call with
    | check client =>
      refine iff_of_true ?_ trivial
      rw [LimiterConfig.answer, LimiterConfig.check, if_pos hOff]
      change true = false ↔ _
      rw [h]
      refine iff_of_false Bool.false_ne_true.symm ?_
      rintro ⟨_, hMem, -⟩
      cases hMem
    | success client => exact Iff.rfl
    | reset => exact Iff.rfl
    | failure client =>
      rw [LimiterConfig.answer, LimiterConfig.register_failure, if_pos hOff]
      change some 0 = some (if cfg.threshold ≤ cfg.recent (client_key client) log now then _ else 0) ↔
        (cfg.threshold ≤ cfg.recent (client_key client) log now → _)
      by_cases hMany : cfg.threshold ≤ cfg.recent (client_key client) log now
      · rw [if_pos hMany, Option.some.injEq]
        refine iff_of_false (lockoutAfter_pos cfg _).ne fun hDue => ?_
        cases hOff.symm.trans (hDue hMany).1
      · rw [if_neg hMany]
        exact iff_of_true rfl fun hDue => absurd hDue hMany
  · rw [lockouts_snoc, h, hNone]
    split
    · exact ite_self _
    · rfl

/-- What a run keeps: the law and its condition stand and fall together, and as long as they stand the
table tells the history. -/
structure Faithful (cfg : LimiterConfig) (s : LoggedState) : Prop where
  clock : 0 ≤ s.clock
  lawful : Lawful cfg.law s.log ↔ Lawful cfg.bound s.log
  off : cfg.enabled = false → ∀ key, lockouts key s.log = []
  tracked : cfg.enabled = true → Lawful cfg.law s.log → Tracked cfg s.clock s.clients s.log

theorem faithful_invariant : StepRun.Invariant cfg.logged (Faithful cfg) := by
  rintro s ⟨delay, call⟩ s' h hStep
  obtain ⟨hRoom, hStep⟩ := Option.ite_none_right_eq_some.mp hStep
  cases hStep
  have hDelay : (0 : Rat) ≤ delay := delay.2
  have hNow : s.clock ≤ s.clock + delay := le_add_of_nonneg_right hDelay
  have hClock : 0 ≤ s.clock + delay := h.clock.trans hNow
  generalize s.clock + (delay : Rat) = now at hNow hClock ⊢
  cases hEnabled : cfg.enabled with
  | false =>
    obtain ⟨hLaw, hNone⟩ := @off_step cfg now s.clients s.log hEnabled
      (h.off hEnabled) call
    refine ⟨hClock, ?_, fun _ => hNone, fun hOn => ?_⟩
    · exact lawful_snoc.trans ((and_congr h.lawful hLaw).trans lawful_snoc.symm)
    · cases hEnabled.symm.trans hOn
  | true =>
    have hStep : Lawful cfg.law s.log →
        (cfg.law s.log ⟨now, call, cfg.answer s.clients now call⟩ ↔
          cfg.bound s.log ⟨now, call, cfg.answer s.clients now call⟩) ∧
        (cfg.law s.log ⟨now, call, cfg.answer s.clients now call⟩ →
          Tracked cfg now (cfg.after s.clients now call)
            (s.log ++ [⟨now, call, cfg.answer s.clients now call⟩])) := by
      intro hLawful
      have hTracked := h.tracked hEnabled hLawful
      cases call with
      | check client =>
        obtain ⟨hLaw, hNew⟩ := tracked_check hEnabled hTracked hNow client
        exact ⟨iff_of_true hLaw trivial, fun _ => hNew⟩
      | failure client => exact tracked_failure hEnabled hRoom h.clock hTracked hNow client
      | success client => exact ⟨Iff.rfl, fun _ => tracked_success hEnabled hTracked hNow client⟩
      | reset => exact ⟨Iff.rfl, fun _ => tracked_reset now s.log⟩
    refine ⟨hClock, ?_, fun hOff => ?_, fun _ hLawful => ?_⟩
    · rw [lawful_snoc, lawful_snoc, ← h.lawful]
      exact and_congr_right fun hLawful => (hStep hLawful).1
    · cases hEnabled.symm.trans hOff
    · obtain ⟨hBefore, hEntry⟩ := lawful_snoc.mp hLawful
      exact (hStep hBefore).2 hEntry

theorem faithful_initial (cfg : LimiterConfig) (clock : NNRat) : Faithful cfg (.initial clock) where
  clock := clock.2
  lawful := iff_of_true lawful_nil lawful_nil
  off _ _ := rfl
  tracked _ _ _ := .clear cfg clock rfl rfl

end Runs

/-- As long as the table is not full, the limiter keeps the law in exactly the runs in which it is on
whenever a lockout is due, and none is due after 1024 others in a row; and lockouts do not get shorter. -/
theorem limiter_law_iff {cfg : LimiterConfig} {clock : NNRat} {ls : List (NNRat × AuthCall)}
    {s : LoggedState} (hRun : StepRun.run cfg.logged (.initial clock) ls = some s) :
    (Lawful cfg.law s.log ↔ Lawful cfg.bound s.log) ∧
      (Lawful cfg.law s.log → ∀ key, ((lockouts key s.log).map Prod.snd).Pairwise (· ≤ ·)) := by
  have hFaithful := faithful_invariant.run (faithful_initial cfg clock) hRun
  refine ⟨hFaithful.lawful, fun hLawful key => ?_⟩
  cases hEnabled : cfg.enabled with
  | false =>
    rw [hFaithful.off hEnabled key]
    exact List.Pairwise.nil
  | true =>
    rw [(hFaithful.tracked hEnabled hLawful key).lengths]
    refine List.Pairwise.map _ (fun k n hLt => lockoutAfter_mono hLt.le) List.pairwise_lt_range

/-- A failure and a check, with one failure to a lockout. -/
theorem limiter_law_strict : ∃ s, StepRun.run (strictLimiter 2).logged (.initial 0)
      [(1, .failure none), (1, .check none)] = some s ∧
    (Lawful (strictLimiter 2).law s.log ↔ Lawful (strictLimiter 2).bound s.log) ∧
      (Lawful (strictLimiter 2).law s.log →
        ∀ key, ((lockouts key s.log).map Prod.snd).Pairwise (· ≤ ·)) := by
  have hRun : StepRun.run (strictLimiter 2).logged (.initial 0)
      [(1, .failure none), (1, .check none)] = some _ := rfl
  exact ⟨_, hRun, limiter_law_iff hRun⟩

/-! ## A long attack -/

section Attack

variable {cfg : LimiterConfig} {n : Nat} {s : LoggedState}

def longAttack (n : Nat) : List (NNRat × AuthCall) := List.replicate n (1, .failure none)

theorem longAttack_runs (cfg : LimiterConfig) (hn : n ≤ cfg.max_clients) :
    ∃ s, StepRun.run cfg.logged (.initial 0) (longAttack n) = some s ∧ s.clients.length ≤ n := by
  induction n with
  | zero => exact ⟨_, rfl, le_rfl⟩
  | succ n ih =>
    obtain ⟨s, hRun, hLength⟩ := ih (Nat.le_of_succ_le hn)
    have hRoom : s.clients.length < cfg.max_clients := hLength.trans_lt hn
    obtain ⟨s', hStep, now, hClients⟩ : ∃ s', cfg.logged s (1, .failure none) = some s' ∧
        ∃ now, s'.clients = (cfg.register_failure s.clients none now).2 := ⟨_, if_pos hRoom, _, rfl⟩
    refine ⟨s', ?_, ?_⟩
    · rw [longAttack, List.replicate_succ']
      exact StepRun.run_snoc_eq_some.mpr ⟨s, hRun, hStep⟩
    · rw [hClients, LimiterConfig.register_failure]
      split
      · exact Nat.le_succ_of_le hLength
      · have hTable : ∀ now, (cfg.entry s.clients (client_key none) now).2 = s.clients := by
          intro now
          rw [LimiterConfig.entry]
          split
          · exact if_pos hRoom
          · rfl
        dsimp only
        rw [hTable, Dict.length_set]
        split
        · exact Nat.le_succ_of_le hLength
        · exact Nat.succ_le_succ hLength

theorem recent_pos (key : String) (log : List LogEntry) (now : Rat) : 1 ≤ cfg.recent key log now := by
  have hNow : now ∈ (failures key log ++ [now]).filter fun time => decide (now - cfg.window < time) := by
    refine List.mem_filter.mpr ⟨List.mem_append_right _ (List.mem_singleton_self now), ?_⟩
    exact decide_eq_true (by linarith [cfg.window_bound])
  exact List.length_pos_of_mem hNow

theorem longAttack_lockouts (hThreshold : cfg.threshold = 1)
    (hRun : StepRun.run cfg.logged (.initial 0) (longAttack n) = some s)
    (hLawful : Lawful cfg.law s.log) : (lockouts (client_key none) s.log).length = n := by
  induction n generalizing s with
  | zero =>
    cases hRun
    rfl
  | succ n ih =>
    rw [longAttack, List.replicate_succ'] at hRun
    obtain ⟨before, hBefore, hStep⟩ := StepRun.run_snoc_eq_some.mp hRun
    obtain ⟨-, hStep⟩ := Option.ite_none_right_eq_some.mp hStep
    cases hStep
    obtain ⟨hOld, hLaw⟩ := lawful_snoc.mp hLawful
    have hCount := ih hBefore hOld
    have hAnswer : (cfg.register_failure before.clients none (before.clock + (1 : NNRat))).1 = some _ :=
      hLaw
    rw [if_pos (hThreshold.trans_le (recent_pos _ _ _))] at hAnswer
    change (lockouts (client_key none) (before.log ++
      [⟨_, .failure none, .failed (cfg.register_failure before.clients none _).1⟩])).length = n + 1
    have hConcerns : ∀ entry : LogEntry, entry.call = .failure none →
        entry.concerns (client_key none) = true := by
      intro entry hCall
      rw [LogEntry.concerns, hCall]
      exact decide_eq_true rfl
    rw [hAnswer, lockouts_snoc, hConcerns _ rfl]
    have hApplied : ∀ time call, LogEntry.lockout? ⟨time, call, .failed (some (cfg.lockoutAfter
        (lockouts (client_key none) before.log).length))⟩ = some _ :=
      fun _ _ => if_pos (lockoutAfter_pos cfg _)
    rw [hApplied, ← hCount]
    exact List.length_append

end Attack

/-- The 1025th failure in a row raises, where each is due a lockout. -/
theorem long_attack_raises : ¬∀ (cfg : LimiterConfig) (clock : NNRat) (ls : List (NNRat × AuthCall))
    (s : LoggedState), cfg.enabled = true →
    StepRun.run cfg.logged (.initial clock) ls = some s → Lawful cfg.law s.log := by
  intro h
  obtain ⟨s, hRun, -⟩ := longAttack_runs (n := 1025) (strictLimiter 2000) (by decide)
  have hLawful := h _ _ _ s rfl hRun
  have hBound := (faithful_invariant.run (faithful_initial _ _) hRun).lawful.mp hLawful
  have hSplit : longAttack 1025 = longAttack 1024 ++ [(1, .failure none)] := List.replicate_succ'
  rw [hSplit] at hRun
  obtain ⟨before, hBefore, hStep⟩ := StepRun.run_snoc_eq_some.mp hRun
  obtain ⟨-, hStep⟩ := Option.ite_none_right_eq_some.mp hStep
  cases hStep
  have hCount := longAttack_lockouts rfl hBefore (lawful_snoc.mp hLawful).1
  have hFew := ((lawful_snoc.mp hBound).2 (recent_pos _ _ _)).2
  rw [hCount] at hFew
  exact lt_irrefl _ hFew

end Sniff4Hound.Auth
