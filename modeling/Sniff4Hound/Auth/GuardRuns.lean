import Mathlib.Algebra.BigOperators.Intervals
import Sniff4Hound.Auth.JwtContract
import Sniff4Hound.Auth.RateContract
import Sniff4Hound.Auth.RequestGuard
import Sniff4Hound.Library.SlidingWindow

/-!
# Guessing the code

What the guard and the limiter together allow to one source address. The credential is checked
before the lockout, on purpose, so that a lockout does not hold the right code back; while it runs,
the wrong codes are all answered alike. Between two right codes, the answers that count against the
source are bounded by the threshold and by the lockouts that had to run out in between.

* `guesses_law`: the right code during a lockout, and the bound on the wrong ones.
-/

namespace Sniff4Hound.Auth

open SlidingWindow

/-- A request, and what the guard reads with it. -/
structure Attempt where
  elapsed : NNRat
  time : NNRat
  revoked : List String
  request : Request
  allow_query : Bool

/-- The limiter's table and the verdicts so far. -/
structure GuardRun where
  clock : Rat
  clients : Clients
  answers : List Verdict

def GuardModule.serve {φ : Type} (m : GuardModule φ) (s : GuardRun) (a : Attempt) :
    Option GuardRun :=
  let now := s.clock + a.elapsed
  let answer := m.guard_request_auth ⟨now, a.time, a.revoked⟩ s.clients a.request a.allow_query
  some ⟨now, answer.2, s.answers ++ [answer.1]⟩

deriving instance DecidableEq for Verdict

def Verdict.counted : Verdict → Bool
  | .unauthorized => true
  | _ => false

/-- The entry of a source, as `_entry` begins it. -/
def known (clients : Clients) (client : String) : ClientEntry :=
  (clients.lookup (client_key (some client))).getD ⟨[], 0, 0, 0⟩

def LimiterConfig.schedule (cfg : LimiterConfig) (strikes k : Nat) : Rat :=
  ∑ i ∈ Finset.range k, (cfg.lockout (strikes + i + 1)).getD 0

variable {φ : Type} {m : GuardModule φ} {cfg : LimiterConfig} {clients clients' : Clients}
variable {client : String} {now since remaining : Rat} {strikes : Nat}

/-! ## The calls of the guard -/

theorem lookup_check (hEnabled : cfg.enabled = true) (clients : Clients) (client : Option String)
    (now : Rat) : (cfg.check clients client now).2.lookup (client_key client) =
      (clients.lookup (client_key client)).map fun e => { e with seen_at := now } := by
  cases hEntry : clients.lookup (client_key client) with
  | none =>
    rw [check_unknown hEntry, hEntry]
    rfl
  | some e =>
    rw [(check_known hEnabled hEntry).2, Dict.lookup_set, if_pos rfl]
    rfl

theorem free_of_check (hEnabled : cfg.enabled = true)
    (h : (cfg.check clients (some client) now).1.1 = true) {e : ClientEntry}
    (hEntry : clients.lookup (client_key (some client)) = some e) : e.blocked_until ≤ now := by
  rw [(check_known hEnabled hEntry).1] at h
  exact of_decide_eq_true h

theorem register_failure_known_entry (hEnabled : cfg.enabled = true) :
    (cfg.register_failure clients (some client) now).1 =
        (cfg.fail now { known clients client with seen_at := now }).1 ∧
      (cfg.register_failure clients (some client) now).2.lookup (client_key (some client)) =
        some (cfg.fail now { known clients client with seen_at := now }).2 := by
  rw [known]
  cases hEntry : clients.lookup (client_key (some client)) with
  | none =>
    rw [register_failure_new hEnabled hEntry, Dict.lookup_set, if_pos rfl]
    exact ⟨rfl, rfl⟩
  | some e =>
    rw [register_failure_known hEnabled hEntry, Dict.lookup_set, if_pos rfl]
    exact ⟨rfl, rfl⟩

theorem guard_locked (hAuth : m.REQUIRE_AUTH = true) {moment : Moment} {request : Request}
    {allow_query : Bool} (hCheck : m.RATE_LIMITER.check clients (some (client_address request))
      moment.now = ((false, remaining), clients'))
    (hWrong : m.authenticate_request moment (extract_request_token request allow_query) =
      some false) :
    m.guard_request_auth moment clients request allow_query =
      (.rate_limited remaining, clients') := by
  simp only [GuardModule.guard_request_auth, hAuth, hWrong, hCheck]
  rfl

theorem guard_right (hAuth : m.REQUIRE_AUTH = true) {moment : Moment} {request : Request}
    {allow_query : Bool} (clients : Clients)
    (hRight : m.authenticate_request moment (extract_request_token request allow_query) =
      some true) :
    m.guard_request_auth moment clients request allow_query =
      (.passed, m.RATE_LIMITER.register_success clients (some (client_address request))) := by
  simp only [GuardModule.guard_request_auth, hAuth, hRight]
  rfl

/-- What an answer other than `passed` did with the entry of the source: nothing, or it counted
a failure of a source that may try. -/
structure Untouched (clients clients' : Clients) (client : String) : Prop where
  failures : (known clients' client).failures = (known clients client).failures
  strikes : (known clients' client).strikes = (known clients client).strikes
  blocked : (known clients' client).blocked_until = (known clients client).blocked_until
  isSome : (clients'.lookup (client_key (some client))).isSome =
    (clients.lookup (client_key (some client))).isSome

theorem Untouched.refl (clients : Clients) (client : String) : Untouched clients clients client :=
  ⟨rfl, rfl, rfl, rfl⟩

theorem untouched_check (hEnabled : cfg.enabled = true) (clients : Clients) (client : String)
    (now : Rat) : Untouched clients (cfg.check clients (some client) now).2 client := by
  constructor <;> simp only [known, lookup_check hEnabled]
  all_goals cases clients.lookup (client_key (some client)) <;> rfl

theorem guard_cases (hAuth : m.REQUIRE_AUTH = true) (hEnabled : m.RATE_LIMITER.enabled = true)
    (clients : Clients) (moment : Moment) (request : Request) (allow_query : Bool) :
    let answer := m.guard_request_auth moment clients request allow_query
    let client := client_address request
    let failed := m.RATE_LIMITER.fail moment.now
      { known clients client with seen_at := moment.now }
    answer.1 = .passed ∨
    (answer.1.counted = false ∧ Untouched clients answer.2 client) ∨
    ((∀ e, clients.lookup (client_key (some client)) = some e → e.blocked_until ≤ moment.now) ∧
      answer.2.lookup (client_key (some client)) = some failed.2 ∧
      answer.1.counted = failed.1.isSome) := by
  dsimp only
  simp only [GuardModule.guard_request_auth, hAuth]
  rw [if_neg Bool.true_eq_false_eq_False]
  cases m.authenticate_request moment (extract_request_token request allow_query) with
  | none => exact Or.inr (Or.inl ⟨rfl, .refl _ _⟩)
  | some right =>
    cases right with
    | true => exact Or.inl rfl
    | false =>
      have hTouch := untouched_check hEnabled clients (client_address request) moment.now
      have hFree := @free_of_check _ clients (client_address request) moment.now hEnabled
      have hLookup := lookup_check hEnabled clients (some (client_address request)) moment.now
      revert hTouch hFree hLookup
      rcases m.RATE_LIMITER.check clients (some (client_address request)) moment.now with
        ⟨⟨allowed, remaining⟩, seen⟩
      intro hTouch hFree hLookup
      cases allowed with
      | false => exact Or.inr (Or.inl ⟨rfl, hTouch⟩)
      | true =>
        have hFail := @register_failure_known_entry _ seen (client_address request)
          moment.now hEnabled
        have hKnown : { known seen (client_address request) with seen_at := moment.now } =
            { known clients (client_address request) with seen_at := moment.now } := by
          rw [known, hLookup, known]
          cases clients.lookup (client_key (some (client_address request))) <;> rfl
        rw [hKnown] at hFail
        refine Or.inr (Or.inr ⟨fun e hEntry => hFree rfl hEntry, ?_⟩)
        dsimp only
        revert hFail
        rcases m.RATE_LIMITER.register_failure seen (some (client_address request))
          moment.now with ⟨lockout, after⟩
        rintro ⟨hLockout, hAfter⟩
        rw [← hLockout]
        cases lockout with
        | none => exact ⟨hAfter, rfl⟩
        | some L => exact ⟨hAfter, rfl⟩

/-! ## Counting -/

/-- `n` wrong answers since a time, in which the source got `k` further strikes. -/
structure Tally (cfg : LimiterConfig) (since : Rat) (before k n : Nat) (now : Rat)
    (e : ClientEntry) : Prop where
  strikes : e.strikes = before + k
  count : n ≤ cfg.threshold * k + min (recent since e.failures) (cfg.threshold - 1)
  paid : since + cfg.schedule before (k - 1) ≤ now
  owed : since + cfg.schedule before k ≤ max now e.blocked_until

theorem schedule_succ (cfg : LimiterConfig) (strikes k : Nat) :
    cfg.schedule strikes (k + 1) =
      cfg.schedule strikes k + (cfg.lockout (strikes + k + 1)).getD 0 :=
  Finset.sum_range_succ _ k

/-- A failure of a source that may try adds one to the count, and the threshold of them a
strike. -/
theorem Tally.fail {k n : Nat} {e : ClientEntry} (h : Tally cfg since strikes k n now e)
    (hFree : since + cfg.schedule strikes k ≤ now) (hSince : since ≤ now)
    (hWindow : now < since + cfg.window) :
    ∃ k', Tally cfg since strikes k' (n + if (cfg.fail now e).1.isSome then 1 else 0) now
      (cfg.fail now e).2 := by
  have hRecent : recent since ((e.failures ++ [now]).dropWhile fun time =>
      decide (time ≤ now - cfg.window)) = recent since e.failures + 1 := by
    rw [recent_dropWhile_of fun t hOld => by linarith [of_decide_eq_true hOld],
      recent_snoc hSince]
  have hCount := h.count
  have hThreshold := cfg.threshold_bound
  rw [LimiterConfig.fail]
  dsimp only
  generalize (e.failures ++ [now]).dropWhile (fun time => decide (time ≤ now - cfg.window)) =
    failures at hRecent
  have hLength := recent_le_length since failures
  by_cases hShort : failures.length < cfg.threshold
  · rw [if_pos hShort]
    refine ⟨k, h.strikes, ?_, h.paid, h.owed⟩
    change n + 1 ≤ cfg.threshold * k + min (recent since failures) (cfg.threshold - 1)
    omega
  · have hStrikes : e.strikes + 1 = strikes + k + 1 := by rw [h.strikes]
    have hNext := schedule_succ cfg strikes k
    rw [if_neg hShort, hStrikes]
    cases hLockout : cfg.lockout (strikes + k + 1) with
    | none =>
      rw [hLockout, Option.getD_none, add_zero] at hNext
      refine ⟨k + 1, rfl, ?_, hFree, ?_⟩
      · change n ≤ cfg.threshold * (k + 1) + _
        rw [Nat.mul_succ]
        omega
      · rw [hNext]
        exact le_max_of_le_left hFree
    | some L =>
      rw [hLockout, Option.getD_some] at hNext
      refine ⟨k + 1, rfl, ?_, hFree, ?_⟩
      · change n + 1 ≤ cfg.threshold * (k + 1) + _
        rw [Nat.mul_succ]
        omega
      · refine le_max_of_le_right ?_
        change _ ≤ now + L
        linarith

def Counted (cfg : LimiterConfig) (client : String) (since : Rat) (before : Nat) (s : GuardRun) :
    Prop :=
  since ≤ s.clock ∧
    ((∀ v ∈ s.answers, v ≠ .passed) → s.clock < since + cfg.window →
      ∃ k, Tally cfg since before k (s.answers.countP Verdict.counted) s.clock
          (known s.clients client) ∧
        (s.clients.lookup (client_key (some client)) = none → k = 0))

theorem Tally.free {k n : Nat} {later : Rat}
    (h : Tally cfg since strikes k n now (known clients client)) (hSince : since ≤ now)
    (hLater : now ≤ later)
    (hNew : clients.lookup (client_key (some client)) = none → k = 0)
    (hMay : ∀ e, clients.lookup (client_key (some client)) = some e → e.blocked_until ≤ later) :
    since + cfg.schedule strikes k ≤ later := by
  cases hEntry : clients.lookup (client_key (some client)) with
  | none =>
    rw [hNew hEntry, LimiterConfig.schedule, Finset.range_zero, Finset.sum_empty]
    linarith
  | some e =>
    have hOwed := h.owed
    rw [known, hEntry, Option.getD_some] at hOwed
    exact hOwed.trans (max_le hLater (hMay e hEntry))

theorem Tally.later {k n : Nat} {e e' : ClientEntry} {later : Rat}
    (h : Tally cfg since strikes k n now e) (hLater : now ≤ later)
    (hFailures : e'.failures = e.failures) (hStrikes : e'.strikes = e.strikes)
    (hBlocked : e'.blocked_until = e.blocked_until) : Tally cfg since strikes k n later e' where
  strikes := hStrikes.trans h.strikes
  count := by
    rw [hFailures]
    exact h.count
  paid := h.paid.trans hLater
  owed := by
    rw [hBlocked]
    exact h.owed.trans (max_le_max_right _ hLater)

theorem Counted.serve (hAuth : m.REQUIRE_AUTH = true) (hEnabled : m.RATE_LIMITER.enabled = true)
    {s u : GuardRun} {a : Attempt} (hClient : client_address a.request = client)
    (h : Counted m.RATE_LIMITER client since strikes s) (hStep : m.serve s a = some u) :
    Counted m.RATE_LIMITER client since strikes u := by
  have hElapsed : (0 : Rat) ≤ a.elapsed := a.elapsed.cast_nonneg
  obtain ⟨hSince, hTally⟩ := h
  have hCases := guard_cases hAuth hEnabled s.clients ⟨s.clock + a.elapsed, a.time, a.revoked⟩
    a.request a.allow_query
  unfold GuardModule.serve at hStep
  revert hStep hCases
  dsimp only
  rcases m.guard_request_auth ⟨s.clock + a.elapsed, a.time, a.revoked⟩ s.clients a.request
    a.allow_query with ⟨verdict, after⟩
  rintro ⟨⟩ hCases
  rw [hClient] at hCases
  refine ⟨by dsimp only; linarith, ?_⟩
  dsimp only
  intro hWrong hWindow
  obtain ⟨k, hk, hNew⟩ := hTally (fun v hv => hWrong v (List.mem_append_left _ hv)) (by linarith)
  rw [List.countP_append, List.countP_singleton]
  rcases hCases with hPassed | ⟨hQuiet, hSame⟩ | ⟨hMay, hAfter, hCount⟩
  · exact absurd hPassed (hWrong verdict (by simp))
  · rw [hQuiet, if_neg Bool.false_ne_true, add_zero]
    refine ⟨k, hk.later (by linarith) hSame.failures hSame.strikes hSame.blocked, fun hNone => ?_⟩
    refine hNew (Option.isNone_iff_eq_none.mp ?_)
    rw [← Option.not_isSome, ← hSame.isSome, hNone]
    rfl
  · have hLater : Tally m.RATE_LIMITER since strikes k _ (s.clock + a.elapsed)
        { known s.clients client with seen_at := s.clock + a.elapsed } :=
      hk.later (by linarith) rfl rfl rfl
    have hFree := hk.free hSince (by linarith) hNew hMay
    obtain ⟨k', hk'⟩ := hLater.fail hFree (by linarith) hWindow
    refine ⟨k', ?_, fun hNone => ?_⟩
    · rw [known, hAfter, Option.getD_some, hCount]
      exact hk'
    · rw [hAfter] at hNone
      cases hNone

/-- To a locked source all wrong candidates are answered alike, and leave the same table; the right
code passes and ends the lockout. In a run of one source without a right code, shorter than the
window, the candidates answered as wrong are at most the threshold for each strike that the run
brought, and less than the threshold more; and the run lasts as long as all lockouts of these
strikes but the last. -/
theorem guesses_law (m : GuardModule φ) (hAuth : m.REQUIRE_AUTH = true) :
    (∀ moment clients request allow_query remaining clients',
      m.RATE_LIMITER.check clients (some (client_address request)) moment.now =
        ((false, remaining), clients') →
      (m.authenticate_request moment (extract_request_token request allow_query) = some false →
        m.guard_request_auth moment clients request allow_query =
          (.rate_limited remaining, clients')) ∧
      (m.authenticate_request moment (extract_request_token request allow_query) = some true →
        m.guard_request_auth moment clients request allow_query =
          (.passed, clients.erase (client_key (some (client_address request)))))) ∧
    (m.RATE_LIMITER.enabled = true → ∀ client clock clients attempts s,
      (∀ a ∈ attempts, client_address a.request = client) →
      StepRun.run m.serve ⟨clock, clients, []⟩ attempts = some s →
      (∀ v ∈ s.answers, v ≠ .passed) → s.clock < clock + m.RATE_LIMITER.window →
      ∃ k, (known s.clients client).strikes = (known clients client).strikes + k ∧
        s.answers.countP Verdict.counted ≤
          m.RATE_LIMITER.threshold * k + (m.RATE_LIMITER.threshold - 1) ∧
        m.RATE_LIMITER.schedule (known clients client).strikes (k - 1) ≤ s.clock - clock) := by
  constructor
  · intro moment clients request allow_query remaining clients' hCheck
    refine ⟨guard_locked hAuth hCheck, fun hRight => ?_⟩
    have hEnabled : m.RATE_LIMITER.enabled = true := by
      by_contra hOff
      rw [LimiterConfig.check, if_pos (Bool.eq_false_of_not_eq_true hOff)] at hCheck
      cases hCheck
    rw [guard_right hAuth clients hRight, LimiterConfig.register_success, hEnabled]
    rfl
  · intro hEnabled client clock clients attempts s hClients hRun hWrong hWindow
    have hStart : Counted m.RATE_LIMITER client clock (known clients client).strikes
        ⟨clock, clients, []⟩ := by
      refine ⟨le_refl _, fun _ _ => ⟨0, ⟨rfl, Nat.zero_le _, ?_, ?_⟩, fun _ => rfl⟩⟩
      all_goals rw [LimiterConfig.schedule, Finset.range_zero, Finset.sum_empty, add_zero]
      exact le_max_left _ _
    obtain ⟨-, hTally⟩ := StepRun.run_keeps
      (P := fun a : Attempt => client_address a.request = client)
      (fun _ _ _ hClient hCounted hStep => hCounted.serve hAuth hEnabled hClient hStep)
      hStart hClients hRun
    obtain ⟨k, hk, -⟩ := hTally hWrong hWindow
    have hCount := hk.count
    have hPaid := hk.paid
    exact ⟨k, hk.strikes, by omega, by linarith⟩

/-- An installation with the code `Ab12Cd34`, where one failure locks a source out. -/
def guardedModule : GuardModule Unit where
  toJwtModule := plainModule
  REQUIRE_AUTH := true
  SESSION_TOKEN := "Ab12Cd34"
  RATE_LIMITER := strictLimiter 2

def guess (code : String) : Request where
  headers := [("x-security-code", code)]
  query := []
  client := some "203.0.113.10"

def lockedRun : GuardRun where
  clock := 5 + ((0 : NNRat) : Rat)
  clients := (guardedModule.guard_request_auth ⟨5 + ((0 : NNRat) : Rat), 0, []⟩ [] (guess "wrong")
    false).2
  answers := [.unauthorized]

theorem lockedRun_reached : StepRun.run guardedModule.serve ⟨5, [], []⟩
    [⟨0, 0, [], guess "wrong", false⟩] = some lockedRun := by
  have hVerdict : (guardedModule.guard_request_auth ⟨5 + ((0 : NNRat) : Rat), 0, []⟩ []
      (guess "wrong") false).1 = .unauthorized := by decide +kernel
  rw [lockedRun, ← hVerdict]
  rfl

theorem lockedRun_check :
    guardedModule.RATE_LIMITER.check lockedRun.clients (some "203.0.113.10") 6 =
      ((false, 4),
        (guardedModule.RATE_LIMITER.check lockedRun.clients (some "203.0.113.10") 6).2) :=
  Prod.ext (by decide +kernel) rfl

theorem guesses_locked :
    guardedModule.guard_request_auth ⟨6, 1, []⟩ lockedRun.clients (guess "guess") false =
        guardedModule.guard_request_auth ⟨6, 1, []⟩ lockedRun.clients (guess "other") false ∧
      ∃ s, StepRun.run guardedModule.serve ⟨5, [], []⟩
          [⟨0, 0, [], guess "wrong", false⟩, ⟨1, 1, [], guess "guess", false⟩] = some s ∧
        ∃ k, (known s.clients "203.0.113.10").strikes = 0 + k ∧
          s.answers.countP Verdict.counted ≤ 1 * k + (1 - 1) ∧
          (strictLimiter 2).schedule 0 (k - 1) ≤ s.clock - 5 := by
  obtain ⟨hLocked, hBounded⟩ := guesses_law guardedModule rfl
  constructor
  · rw [(hLocked ⟨6, 1, []⟩ lockedRun.clients (guess "guess") false 4 _ lockedRun_check).1
        (by decide +kernel),
      (hLocked ⟨6, 1, []⟩ lockedRun.clients (guess "other") false 4 _ lockedRun_check).1
        (by decide +kernel)]
  · refine ⟨_, rfl, ?_⟩
    refine hBounded rfl "203.0.113.10" 5 []
      [⟨0, 0, [], guess "wrong", false⟩, ⟨1, 1, [], guess "guess", false⟩] _ ?_ rfl ?_ ?_
    · rw [List.forall_mem_cons, List.forall_mem_singleton]
      exact ⟨rfl, rfl⟩
    · decide +kernel
    · decide +kernel

/-- A locked source is told whether its candidate is the right code. -/
theorem lockout_tells : ¬ ∀ (m : GuardModule Unit) (clock : Rat) (attempts : List Attempt)
    (s : GuardRun) (moment : Moment) (request request' : Request) (remaining : Rat)
    (clients : Clients),
    StepRun.run m.serve ⟨clock, [], []⟩ attempts = some s →
    (∀ a ∈ attempts, client_address a.request = client_address request) →
    client_address request' = client_address request → s.clock ≤ moment.now →
    m.RATE_LIMITER.check s.clients (some (client_address request)) moment.now =
      ((false, remaining), clients) →
    (m.guard_request_auth moment s.clients request false).1 =
      (m.guard_request_auth moment s.clients request' false).1 := by
  intro h
  have hSame := h guardedModule 5 _ lockedRun ⟨6, 1, []⟩ (guess "Ab12Cd34") (guess "other") 4 _
    lockedRun_reached (List.forall_mem_singleton.mpr rfl) rfl (by decide +kernel) lockedRun_check
  revert hSame
  decide +kernel

end Sniff4Hound.Auth
