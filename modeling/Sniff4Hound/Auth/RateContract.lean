import Mathlib.Algebra.Order.Field.Basic
import Mathlib.Tactic.Linarith
import Sniff4Hound.Auth.RateLimiter

/-!
# What a lockout is worth

Failures of the locked source itself only prolong a lockout, and the calls of others leave its
entry alone, with one exception: a source that is new to a full table takes the place of the one
that was seen longest ago, locked out or not. `lockout_kept_iff` says that the lockout holds
exactly in the runs in which this does not happen to it.

* `table_bounded`: the table keeps to its size, with one entry for each source.
-/

namespace Sniff4Hound.Auth

open CappedTable

variable {cfg : LimiterConfig} {clients : Clients} {client : Option String} {key : String}
variable {now since till : Rat} {strikes : Nat} {e : ClientEntry}

/-! ## Single calls -/

theorem register_failure_known (hEnabled : cfg.enabled = true)
    (hEntry : clients.lookup (client_key client) = some e) :
    cfg.register_failure clients client now =
      ((cfg.fail now { e with seen_at := now }).1,
        clients.set (client_key client) (cfg.fail now { e with seen_at := now }).2) := by
  simp only [LimiterConfig.register_failure, LimiterConfig.entry, hEnabled, hEntry]
  rfl

theorem register_failure_new (hEnabled : cfg.enabled = true)
    (hEntry : clients.lookup (client_key client) = none) :
    cfg.register_failure clients client now =
      ((cfg.fail now ⟨[], 0, 0, now⟩).1,
        (cfg.evict now clients).set (client_key client) (cfg.fail now ⟨[], 0, 0, now⟩).2) := by
  simp only [LimiterConfig.register_failure, LimiterConfig.entry, hEnabled, hEntry]
  rfl

theorem check_known (hEnabled : cfg.enabled = true)
    (hEntry : clients.lookup (client_key client) = some e) :
    (cfg.check clients client now).1.1 = decide (e.blocked_until ≤ now) ∧
    (cfg.check clients client now).2 =
      clients.set (client_key client) { e with seen_at := now } := by
  simp only [LimiterConfig.check, hEnabled, hEntry]
  by_cases hRunning : 0 < e.blocked_until - now
  · rw [if_neg Bool.true_eq_false_eq_False, if_pos hRunning, decide_eq_false (by linarith)]
    exact ⟨rfl, rfl⟩
  · rw [if_neg Bool.true_eq_false_eq_False, if_neg hRunning, decide_eq_true (by linarith)]
    exact ⟨rfl, rfl⟩

theorem check_unknown (hEntry : clients.lookup (client_key client) = none) :
    cfg.check clients client now = ((true, 0), clients) := by
  rw [LimiterConfig.check, hEntry]
  split
  · rfl
  · rfl

theorem after_disabled (hDisabled : cfg.enabled = false) {call : AuthCall} (h : call ≠ .reset) :
    cfg.after clients now call = clients := by
  cases call with
  | check client => rw [LimiterConfig.after, LimiterConfig.check, if_pos hDisabled]
  | failure client => rw [LimiterConfig.after, LimiterConfig.register_failure, if_pos hDisabled]
  | success client => rw [LimiterConfig.after, LimiterConfig.register_success, if_pos hDisabled]
  | reset => exact absurd rfl h

/-! ## The table -/

structure Sized (cfg : LimiterConfig) (clients : Clients) : Prop where
  nodup : clients.keys.Nodup
  length : clients.length ≤ cfg.max_clients

theorem Sized.set_of_mem (h : Sized cfg clients) (hEntry : clients.lookup key = some e)
    (e' : ClientEntry) : Sized cfg (clients.set key e') := by
  refine ⟨Dict.nodup_keys_set h.nodup key e', ?_⟩
  rw [Dict.length_set, hEntry]
  exact h.length

theorem Sized.set_new (hNodup : clients.keys.Nodup) (hRoom : clients.length < cfg.max_clients)
    (key : String) (e : ClientEntry) : Sized cfg (clients.set key e) := by
  refine ⟨Dict.nodup_keys_set hNodup key e, ?_⟩
  rw [Dict.length_set]
  split
  · omega
  · omega

theorem Sized.after (h : Sized cfg clients) (now : Rat) (call : AuthCall) :
    Sized cfg (cfg.after clients now call) := by
  by_cases hReset : call = .reset
  · rw [hReset]
    exact ⟨List.nodup_nil, Nat.zero_le _⟩
  cases hEnabled : cfg.enabled with
  | false =>
    rw [after_disabled hEnabled hReset]
    exact h
  | true =>
    cases call with
    | check client =>
      rw [LimiterConfig.after]
      cases hEntry : clients.lookup (client_key client) with
      | none =>
        rw [check_unknown hEntry]
        exact h
      | some e =>
        rw [(check_known hEnabled hEntry).2]
        exact h.set_of_mem hEntry _
    | failure client =>
      rw [LimiterConfig.after]
      cases hEntry : clients.lookup (client_key client) with
      | none =>
        rw [register_failure_new hEnabled hEntry]
        exact .set_new (nodup_keys_makeRoom h.nodup)
          (length_makeRoom_lt h.nodup cfg.max_clients_bound) _ _
      | some e =>
        rw [register_failure_known hEnabled hEntry]
        exact h.set_of_mem hEntry _
    | success client =>
      rw [LimiterConfig.after, LimiterConfig.register_success, hEnabled]
      exact ⟨Dict.nodup_keys_erase h.nodup _, (List.length_filter_le _ _).trans h.length⟩
    | reset => exact absurd rfl hReset

theorem sized_run {clock : Rat} {ls : List (NNRat × AuthCall)} {s : LimiterState}
    (hRun : StepRun.run cfg.step (.initial clock) ls = some s) : Sized cfg s.clients := by
  refine StepRun.Invariant.run (I := fun s : LimiterState => Sized cfg s.clients) ?_ ?_ hRun
  · rintro s label _ hSized ⟨⟩
    exact hSized.after _ _
  · exact ⟨List.nodup_nil, Nat.zero_le _⟩

/-! ## Lockouts -/

theorem lockout_mono {n m : Nat} {L L' : Rat} (hLe : n ≤ m) (h : cfg.lockout n = some L)
    (h' : cfg.lockout m = some L') : L ≤ L' := by
  rw [LimiterConfig.lockout] at h h'
  split at h
  · cases h
  split at h'
  · cases h'
  cases h
  cases h'
  have hBase : 0 ≤ cfg.base_lockout := by linarith [cfg.base_lockout_bound]
  have hPow : (2 : Rat) ^ (n - 1) ≤ 2 ^ (m - 1) :=
    pow_le_pow_right₀ (by norm_num) (Nat.sub_le_sub_right hLe 1)
  exact min_le_min_right _ (mul_le_mul_of_nonneg_left hPow hBase)

theorem fail_cases (cfg : LimiterConfig) (now : Rat) (e : ClientEntry) :
    (∃ failures, cfg.fail now e = (some 0, { e with failures := failures })) ∨
    (∃ failures, cfg.fail now e =
      (none, { e with failures := failures, strikes := e.strikes + 1 })) ∨
    ∃ L, cfg.lockout (e.strikes + 1) = some L ∧ cfg.fail now e = (some L, { e with
      blocked_until := now + L, failures := [], strikes := e.strikes + 1 }) := by
  rw [LimiterConfig.fail]
  dsimp only
  split
  · exact Or.inl ⟨_, rfl⟩
  · cases hLockout : cfg.lockout (e.strikes + 1) with
    | none => exact Or.inr (Or.inl ⟨_, rfl⟩)
    | some L => exact Or.inr (Or.inr ⟨L, rfl, rfl⟩)

/-- The entry of a source that is locked out as long as until `till`. -/
structure Lasts (till : Rat) (strikes : Nat) (e : ClientEntry) : Prop where
  blocked : till ≤ e.blocked_until
  strikes : strikes ≤ e.strikes

theorem Lasts.fail {L : Rat} (h : Lasts (since + L) strikes e) (hL : cfg.lockout strikes = some L)
    (hSince : since ≤ now) : Lasts (since + L) strikes (cfg.fail now e).2 := by
  rcases fail_cases cfg now e with ⟨failures, hFail⟩ | ⟨failures, hFail⟩ | ⟨L', hL', hFail⟩
  · rw [hFail]
    exact ⟨h.blocked, h.strikes⟩
  · rw [hFail]
    exact ⟨h.blocked, Nat.le_succ_of_le h.strikes⟩
  · rw [hFail]
    have hLonger : L ≤ L' := lockout_mono (Nat.le_succ_of_le h.strikes) hL hL'
    refine ⟨?_, Nat.le_succ_of_le h.strikes⟩
    change since + L ≤ now + L'
    linarith

def Held (till : Rat) (strikes : Nat) (key : String) (clients : Clients) : Prop :=
  ∃ e, clients.lookup key = some e ∧ Lasts till strikes e

/-- The call takes nothing from the failures of the key. -/
def Unrelated (key : String) (call : AuthCall) : Prop :=
  call ≠ .reset ∧ ∀ client, call = .success client → client_key client ≠ key

/-- A source that is new to the table takes the place of `key`. -/
def LimiterConfig.evicts (cfg : LimiterConfig) (key : String) (clients : Clients) (now : Rat) :
    AuthCall → Bool
  | .failure client => (clients.lookup (client_key client)).isNone &&
      decide (Victim ClientEntry.seen_at (cfg.stale now) cfg.max_clients clients key)
  | _ => false

theorem Held.set_of_ne {key' : String} (h : Held till strikes key clients) (hNe : key' ≠ key)
    (e' : ClientEntry) : Held till strikes key (clients.set key' e') := by
  obtain ⟨e, hEntry, hLasts⟩ := h
  refine ⟨e, ?_, hLasts⟩
  rw [Dict.lookup_set, if_neg hNe.symm, hEntry]

theorem Held.after {L : Rat} (hEnabled : cfg.enabled = true) (hSized : Sized cfg clients)
    (h : Held (since + L) strikes key clients) (hL : cfg.lockout strikes = some L)
    (hSince : since ≤ now) (hRunning : now < since + L) {call : AuthCall}
    (hCall : Unrelated key call) :
    if cfg.evicts key clients now call then (cfg.after clients now call).lookup key = none
    else Held (since + L) strikes key (cfg.after clients now call) := by
  obtain ⟨e, hEntry, hLasts⟩ := h
  have hHeld : Held (since + L) strikes key clients := ⟨e, hEntry, hLasts⟩
  -- the entry that is rewritten is that of the source, or another one
  have hSet : ∀ {client e'}, (client_key client = key → Lasts (since + L) strikes e') →
      Held (since + L) strikes key (clients.set (client_key client) e') := by
    intro client e' hOwn
    by_cases hKey : client_key client = key
    · exact ⟨e', by rw [hKey, Dict.lookup_set, if_pos rfl], hOwn hKey⟩
    · exact hHeld.set_of_ne hKey e'
  cases call with
  | check client =>
    change Held _ _ _ (cfg.check clients client now).2
    cases hClient : clients.lookup (client_key client) with
    | none =>
      rw [check_unknown hClient]
      exact hHeld
    | some e' =>
      rw [(check_known hEnabled hClient).2]
      refine hSet fun hKey => ?_
      rw [hKey, hEntry] at hClient
      cases hClient
      exact ⟨hLasts.blocked, hLasts.strikes⟩
  | failure client =>
    change if (_ && _) = true then (cfg.register_failure clients client now).2.lookup key = none
      else Held _ _ _ (cfg.register_failure clients client now).2
    rcases Option.eq_none_or_eq_some (clients.lookup (client_key client)) with
      hClient | ⟨e', hClient⟩
    · have hKey : client_key client ≠ key := by
        rintro rfl
        rw [hEntry] at hClient
        cases hClient
      have hFresh : cfg.stale now e = false := by
        have hBlocked : ¬ e.blocked_until ≤ now := by linarith [hLasts.blocked]
        rw [LimiterConfig.stale, decide_eq_false hBlocked, Bool.false_and]
      have hLookup : (makeRoom ClientEntry.seen_at (cfg.stale now) _ clients).lookup key = _ :=
        lookup_makeRoom hSized.nodup hSized.length hEntry hFresh
      rw [register_failure_new hEnabled hClient, hClient, Option.isNone_none, Bool.true_and,
        LimiterConfig.evict]
      split at hLookup
      · rename_i hVictim
        rw [if_pos (decide_eq_true hVictim), Dict.lookup_set, if_neg hKey.symm, hLookup]
      · rename_i hVictim
        rw [if_neg (by simpa only [decide_eq_true_eq] using hVictim)]
        exact Held.set_of_ne ⟨e, hLookup, hLasts⟩ hKey _
    · rw [register_failure_known hEnabled hClient, hClient]
      refine hSet fun hKey => ?_
      rw [hKey, hEntry] at hClient
      cases hClient
      exact Lasts.fail ⟨hLasts.blocked, hLasts.strikes⟩ hL hSince
  | success client =>
    change Held _ _ _ (cfg.register_success clients client)
    rw [LimiterConfig.register_success, hEnabled]
    refine ⟨e, ?_, hLasts⟩
    rw [if_neg Bool.true_eq_false_eq_False, Dict.lookup_erase, if_neg (hCall.2 client rfl).symm,
      hEntry]
  | reset => exact absurd rfl hCall.1

/-! ## Runs -/

/-- Every check of the client up to the time `till` is refused. -/
def Denied (cfg : LimiterConfig) (client : Option String) (till : Rat) (s : LimiterState) : Prop :=
  ∀ now, s.clock ≤ now → now < till → (cfg.check s.clients client now).1.1 = false

/-- As long as the lockout runs, the call does not make room by dropping the entry of the
source. -/
abbrev Spares (cfg : LimiterConfig) (client : Option String) (till : Rat) (s : LimiterState)
    (label : NNRat × AuthCall) : Prop :=
  s.clock + label.1 < till →
    cfg.evicts (client_key client) s.clients (s.clock + label.1) label.2 = false

theorem Held.denied {s : LimiterState} (hEnabled : cfg.enabled = true)
    (h : s.clock < till → Held till strikes (client_key client) s.clients) :
    Denied cfg client till s := by
  intro now hClock hNow
  obtain ⟨e, hEntry, hLasts⟩ := h (by linarith)
  rw [(check_known hEnabled hEntry).1, decide_eq_false]
  linarith [hLasts.blocked]

theorem held_of_lockout {L : Rat} (hPos : 0 < L)
    (h : (cfg.register_failure clients client now).1 = some L) :
    cfg.enabled = true ∧ ∃ strikes, cfg.lockout strikes = some L ∧
      Held (now + L) strikes (client_key client) (cfg.register_failure clients client now).2 := by
  cases hEnabled : cfg.enabled with
  | false =>
    rw [LimiterConfig.register_failure, if_pos hEnabled] at h
    cases h
    exact absurd hPos (lt_irrefl 0)
  | true =>
    have hFail : ∀ e clients', cfg.register_failure clients client now =
        ((cfg.fail now e).1, Dict.set clients' (client_key client) (cfg.fail now e).2) →
        ∃ strikes, cfg.lockout strikes = some L ∧ Held (now + L) strikes (client_key client)
          (cfg.register_failure clients client now).2 := by
      intro e clients' hCall
      rw [hCall] at h ⊢
      rcases fail_cases cfg now e with ⟨failures, hFail⟩ | ⟨failures, hFail⟩ | ⟨L', hL', hFail⟩
      · rw [hFail] at h
        cases h
        exact absurd hPos (lt_irrefl 0)
      · rw [hFail] at h
        cases h
      · rw [hFail] at h ⊢
        cases h
        refine ⟨_, hL', _, by rw [Dict.lookup_set, if_pos rfl], ⟨le_refl _, Nat.le_refl _⟩⟩
    refine ⟨rfl, ?_⟩
    rcases Option.eq_none_or_eq_some (clients.lookup (client_key client)) with
      hClient | ⟨e, hClient⟩
    · exact hFail _ _ (register_failure_new hEnabled hClient)
    · exact hFail _ _ (register_failure_known hEnabled hClient)

/-- After a lockout of `L` seconds, and without a success of its source or a reset: the source is
denied at every time before the end of the lockout, in every state of the run, exactly when no
new source ever took the place of its entry. -/
theorem lockout_kept_iff {clock : Rat} {ls ms : List (NNRat × AuthCall)} {s s₁ : LimiterState}
    {elapsed : NNRat} {L : Rat} (hRun : StepRun.run cfg.step (.initial clock) ls = some s)
    (hLockout : (cfg.register_failure s.clients client (s.clock + elapsed)).1 = some L)
    (hPos : 0 < L) (hStep : cfg.step s (elapsed, .failure client) = some s₁)
    (hCalls : ∀ label ∈ ms, Unrelated (client_key client) label.2) :
    (∀ front, front <+: ms → ∀ u, StepRun.run cfg.step s₁ front = some u →
        Denied cfg client (s.clock + elapsed + L) u) ↔
      ∃ u, StepRun.run (StepRun.guarded (Spares cfg client (s.clock + elapsed + L)) cfg.step) s₁
        ms = some u := by
  obtain ⟨hEnabled, strikes, hL, hHeld⟩ := held_of_lockout hPos hLockout
  cases hStep
  refine (StepRun.guarded_run_iff_of
    (P := fun label : NNRat × AuthCall => Unrelated (client_key client) label.2)
    (I := fun u : LimiterState => Sized cfg u.clients ∧ s.clock + elapsed ≤ u.clock ∧
      (u.clock < s.clock + elapsed + L →
        Held (s.clock + elapsed + L) strikes (client_key client) u.clients))
    (fun u label => ⟨_, rfl⟩) (fun u hu => Held.denied hEnabled hu.2.2) ?keep ?bad ?start
    hCalls).symm
  case start =>
    exact ⟨(sized_run hRun).after _ (.failure client), le_refl _, fun _ => hHeld⟩
  case keep =>
    rintro u label _ hCall ⟨hSized, hSince, hOpen⟩ hSpares ⟨⟩
    have hElapsed : (0 : Rat) ≤ label.1 := label.1.cast_nonneg
    refine ⟨hSized.after _ _, by change _ ≤ u.clock + (label.1 : Rat); linarith, fun hRunning => ?_⟩
    have hBefore : u.clock < s.clock + elapsed + L := by linarith
    have hNext := (hOpen hBefore).after hEnabled hSized hL
      (show s.clock + elapsed ≤ u.clock + (label.1 : Rat) by linarith) hRunning hCall
    rwa [hSpares hRunning, if_neg Bool.false_ne_true] at hNext
  case bad =>
    rintro u label _ hCall ⟨hSized, hSince, hOpen⟩ ⟨⟩ hDenied hRunning
    have hElapsed : (0 : Rat) ≤ label.1 := label.1.cast_nonneg
    have hNext := (hOpen (by linarith)).after hEnabled hSized hL
      (show s.clock + elapsed ≤ u.clock + (label.1 : Rat) by linarith) hRunning hCall
    by_contra hEvicts
    rw [if_pos ((Bool.not_eq_false _).mp hEvicts)] at hNext
    have hNow := hDenied _ (le_refl _) hRunning
    rw [check_unknown hNext] at hNow
    cases hNow

def strictLimiter (max_clients : Int) : LimiterConfig := .new true 60 1 5 300 max_clients

theorem lockout_kept_roomy : ∃ s₁, (strictLimiter 2).step (.initial 0)
      (0, .failure (some "10.0.0.1")) = some s₁ ∧
    ∀ front, front <+: [(1, .failure (some "10.0.0.2"))] → ∀ u,
      StepRun.run (strictLimiter 2).step s₁ front = some u →
        Denied (strictLimiter 2) (some "10.0.0.1") 5 u := by
  have hLockout : ((strictLimiter 2).register_failure (LimiterState.initial 0).clients
      (some "10.0.0.1") ((LimiterState.initial 0).clock + (0 : NNRat))).1 = some 5 := by
    decide +kernel
  have hTill : (LimiterState.initial 0).clock + ((0 : NNRat) : Rat) + 5 = 5 := by decide +kernel
  have hRun : StepRun.run (strictLimiter 2).step (.initial 0) [] = some (.initial 0) := rfl
  refine ⟨_, rfl, ?_⟩
  rw [← hTill]
  refine (lockout_kept_iff hRun hLockout (by norm_num) rfl ?_).mpr ?_
  · intro label hMem
    cases List.mem_singleton.mp hMem
    exact ⟨nofun, nofun⟩
  · apply Option.isSome_iff_exists.mp
    decide +kernel

/-- A table of one source: the failure of another lifts the lockout after a second. -/
theorem lockout_lifted : ¬ ∀ (cfg : LimiterConfig) (clock : Rat) (ls ms : List (NNRat × AuthCall))
    (s s₁ : LimiterState) (client : Option String) (elapsed : NNRat) (L : Rat),
    StepRun.run cfg.step (.initial clock) ls = some s →
    (cfg.register_failure s.clients client (s.clock + elapsed)).1 = some L → 0 < L →
    cfg.step s (elapsed, .failure client) = some s₁ →
    (∀ label ∈ ms, Unrelated (client_key client) label.2) →
    ∀ u, StepRun.run cfg.step s₁ ms = some u → Denied cfg client (s.clock + elapsed + L) u := by
  intro h
  have hDenied := h (strictLimiter 1) 0 [] [(1, .failure (some "10.0.0.2"))] (.initial 0) _
    (some "10.0.0.1") 0 5 rfl (by decide +kernel) (by norm_num) rfl ?_ _ rfl 1 ?_ ?_
  · revert hDenied
    decide +kernel
  · rintro label hMem
    cases List.mem_singleton.mp hMem
    exact ⟨nofun, nofun⟩
  · decide +kernel
  · decide +kernel

/-- However many sources fail, each has one entry, and the table stays within its limit. -/
theorem table_bounded {clock : Rat} {ls : List (NNRat × AuthCall)} {s : LimiterState}
    (hRun : StepRun.run cfg.step (.initial clock) ls = some s) :
    s.clients.keys.Nodup ∧ s.clients.length ≤ cfg.max_clients :=
  ⟨(sized_run hRun).nodup, (sized_run hRun).length⟩

theorem table_bounded_one : ∃ s, StepRun.run (strictLimiter 1).step (.initial 0)
    [(0, .failure (some "10.0.0.1")), (1, .failure (some "10.0.0.2"))] = some s ∧
      s.clients.length ≤ (strictLimiter 1).max_clients :=
  StepRun.exists_end rfl fun _ hRun => (table_bounded hRun).2

end Sniff4Hound.Auth
