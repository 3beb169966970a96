import Mathlib.Algebra.GroupWithZero.Nat
import Sniff4Hound.Library.EventLog
import Sniff4Hound.Pipeline.StorePacket

/-!
# Silenced alerts are counted

`RuleAlertThrottle.partition` lets an alert of a monitor and a source through and silences the ones
that follow within a window. Two dictionaries hold all it knows: when a key was last let through,
and how many of its hits have been silenced since. Over any run of calls on a clock that does not go
back, the first is read off the log and the second is what the log has silenced and not yet reported
(`Tallied`), so every hit that is silenced is reported once or still pending (`throttle_runs`).
-/

namespace Sniff4Hound

open EventLog

/-! ## What was decided -/

/-- A hit with what the throttle made of it: the count that goes out with it, or nothing when it is
silenced. -/
structure Judged where
  hit : MonitorHit
  source : String
  now : Ticks
  reported : Option Nat

namespace Judged

def key (v : Judged) : String × String :=
  (if v.hit.monitor_id = "" then v.hit.tag else v.hit.monitor_id, v.source)

variable (rt : Runtime)

def Throttled (v : Judged) : Prop := v.hit.level rt ∈ THROTTLED_SEVERITIES

instance (v : Judged) : Decidable (v.Throttled rt) := inferInstanceAs (Decidable (_ ∈ _))

def allowed (v : Judged) : Option MonitorHit :=
  v.reported.map fun silenced => { v.hit with silenced := silenced }

def suppressed (v : Judged) : Option MonitorHit :=
  match v.reported with
  | none => some v.hit
  | some _ => none

def emits (key : String × String) (v : Judged) : Bool :=
  v.key = key && decide (v.Throttled rt) && v.reported.isSome

def silences (key : String × String) (v : Judged) : Bool := v.key = key && v.reported.isNone

def reports (key : String × String) (v : Judged) : Nat :=
  if v.key = key then v.reported.getD 0 else 0

end Judged

namespace RuleAlertThrottle

variable (rt : Runtime)

def judge (t : RuleAlertThrottle) (source : String) (now : Ticks) (hit : MonitorHit) : Judged where
  hit := hit
  source := source
  now := now
  reported := (t.round rt source now hit).2.1.head?.map MonitorHit.silenced

/-- The verdicts of the rounds of `partition`. -/
def verdicts (t : RuleAlertThrottle) (source : String) (now : Ticks) :
    List MonitorHit → List Judged
  | [] => []
  | hit :: rest => t.judge rt source now hit ::
    (t.round rt source now hit).1.verdicts source now rest

end RuleAlertThrottle

/-- The hits of a call go to one of two lists, in their order; those that are let through may get a
count. -/
inductive Split : List MonitorHit → List MonitorHit → List MonitorHit → Prop
  | nil : Split [] [] []
  | allow {hits allowed suppressed : List MonitorHit} (hit : MonitorHit) (silenced : Nat)
      (rest : Split hits allowed suppressed) :
      Split (hit :: hits) ({ hit with silenced := silenced } :: allowed) suppressed
  | silence {hits allowed suppressed : List MonitorHit} (hit : MonitorHit)
      (rest : Split hits allowed suppressed) :
      Split (hit :: hits) allowed (hit :: suppressed)

/-! ## Runs -/

/-- A call of `partition`, and how long after the last one it comes. No hit has a count yet:
`partition` alone sets one, and it is given the hits of `evaluate_packet`
(`ThrottleCall.ofPacket`). -/
structure ThrottleCall where
  source : String
  waited : Nat
  hits : List MonitorHit
  uncounted : ∀ hit ∈ hits, hit.silenced = 0

theorem filtered_uncounted (rt : Runtime) (min_severity : String) (suppress : Bool)
    (hits : List Hit) : ∀ hit ∈ filter_monitor_hits rt min_severity suppress (hits.map Hit.raised),
      hit.silenced = 0 := by
  intro hit hHit
  obtain ⟨raised, -, rfl⟩ := List.mem_map.mp (List.mem_of_mem_filter hHit)
  rfl

/-- The call that `_store_packet` makes for a packet. -/
def ThrottleCall.ofPacket (env : GateEnv) (c : Caches) (packet : Packet) (waited : Nat) :
    ThrottleCall where
  source := (packet "src_ip").text env.toRuntime
  waited := waited
  hits := filter_monitor_hits env.toRuntime c.min_severity c.suppress_generated_info
    ((evaluate_packet env.toEnv c.index packet c.monitors).map Hit.raised)
  uncounted := filtered_uncounted _ _ _ _

/-- The throttle with the last reading of its clock; `log` is not in the code. -/
structure ThrottleRun where
  throttle : RuleAlertThrottle
  time : Ticks
  log : List Judged

namespace ThrottleRun

def start (window_seconds : Int) (time : Ticks) : ThrottleRun :=
    ⟨⟨window_seconds, [], []⟩, time, []⟩

variable (rt : Runtime)

/-- The result of `partition` in a call. -/
def answer (r : ThrottleRun) (call : ThrottleCall) :
    RuleAlertThrottle × List MonitorHit × List MonitorHit :=
  r.throttle.partition rt (strip call.source) (r.time + call.waited) call.hits

def call (r : ThrottleRun) (call : ThrottleCall) : ThrottleRun where
  throttle := (r.answer rt call).1
  time := r.time + call.waited
  log := r.log ++ r.throttle.verdicts rt (strip call.source) (r.time + call.waited) call.hits

def calls (r : ThrottleRun) (list : List ThrottleCall) : ThrottleRun := list.foldl (call rt) r

end ThrottleRun

/-! ## One hit -/

section Admit

variable (rt : Runtime) (t : RuleAlertThrottle) (source : String) (now : Ticks) (hit : MonitorHit)

def hitKey : String × String := (if hit.monitor_id = "" then hit.tag else hit.monitor_id, source)

def waiting : Nat := (t.suppressed_since_last.lookup (hitKey source hit)).getD 0

theorem round_free (h : hit.level rt ∉ THROTTLED_SEVERITIES) :
    t.round rt source now hit = (t, [hit], []) := if_pos h

theorem round_cooling (h : hit.level rt ∈ THROTTLED_SEVERITIES)
    (hCooling : cooling (t.last_emit.lookup (hitKey source hit)) now (seconds t.window_seconds)) :
    t.round rt source now hit =
      ({ t with
          suppressed_since_last :=
            t.suppressed_since_last.set (hitKey source hit) (waiting t source hit + 1) },
        [], [hit]) :=
  (if_neg (not_not.mpr h)).trans (if_pos hCooling)

theorem round_emits (h : hit.level rt ∈ THROTTLED_SEVERITIES)
    (hCooling : ¬cooling (t.last_emit.lookup (hitKey source hit)) now (seconds t.window_seconds)) :
    t.round rt source now hit =
      ({ t with
          suppressed_since_last := t.suppressed_since_last.erase (hitKey source hit)
          last_emit := t.last_emit.set (hitKey source hit) now },
        [if waiting t source hit = 0 then hit else { hit with silenced := waiting t source hit }],
        []) :=
  (if_neg (not_not.mpr h)).trans (if_neg hCooling)

end Admit

/-! ## What the dictionaries hold -/

/-- A hit that is not throttled is let through, a throttled one is let through only a window after
the last of its key and silenced only within a window of one. -/
def throttleLaw (rt : Runtime) (window : Ticks) (before : List Judged) (v : Judged) : Prop :=
  (¬v.Throttled rt → v.reported ≠ none) ∧
    (v.Throttled rt → v.reported ≠ none →
      ∀ u ∈ before, u.emits rt v.key = true → window ≤ v.now - u.now) ∧
    (v.reported = none → ∃ u ∈ before, u.emits rt v.key = true ∧ v.now - u.now < window)

structure Tallied (rt : Runtime) (t : RuleAlertThrottle) (time : Ticks) (log : List Judged) :
    Prop where
  last : ∀ key, t.last_emit.lookup key =
    ((log.filter (Judged.emits rt key)).getLast?).map Judged.now
  ordered : log.Pairwise fun u v => u.now ≤ v.now
  past : ∀ v ∈ log, v.now ≤ time
  pending : ∀ key, log.countP (Judged.silences key) =
    (log.map (Judged.reports key)).sum + (t.suppressed_since_last.lookup key).getD 0
  lawful : Lawful (throttleLaw rt (seconds t.window_seconds)) log

theorem tallied_start (rt : Runtime) (window_seconds : Int) (time : Ticks) :
    Tallied rt ⟨window_seconds, [], []⟩ time [] where
  last _ := rfl
  ordered := List.Pairwise.nil
  past _ hv := absurd hv List.not_mem_nil
  pending _ := rfl
  lawful := lawful_nil

section Tallied

variable {rt : Runtime} {t : RuleAlertThrottle} {time now : Ticks} {log : List Judged}

variable (h : Tallied rt t time log)

include h

theorem Tallied.last_max {key : String × String} {last : Ticks}
    (hLast : t.last_emit.lookup key = some last) :
    (∃ u ∈ log, u.emits rt key = true ∧ u.now = last) ∧
      ∀ u ∈ log, u.emits rt key = true → u.now ≤ last := by
  rw [h.last key] at hLast
  obtain ⟨w, hw, rfl⟩ := Option.map_eq_some_iff.mp hLast
  obtain ⟨front, hFront⟩ := List.getLast?_eq_some_iff.mp hw
  have hMem : w ∈ log.filter (Judged.emits rt key) := List.mem_of_mem_getLast? hw
  refine ⟨⟨w, (List.mem_filter.mp hMem).1, (List.mem_filter.mp hMem).2, rfl⟩, ?_⟩
  intro u hu hEmits
  have hOrdered := h.ordered.filter (Judged.emits rt key)
  rw [hFront] at hOrdered
  have hFilter : u ∈ front ++ [w] := hFront ▸ List.mem_filter.mpr ⟨hu, hEmits⟩
  rcases List.mem_append.mp hFilter with hOld | hNew
  · exact (List.pairwise_append.mp hOrdered).2.2 u hOld w List.mem_cons_self
  · rw [List.mem_singleton.mp hNew]

theorem Tallied.last_none {key : String × String} (hLast : t.last_emit.lookup key = none) :
    ∀ u ∈ log, ¬u.emits rt key = true := by
  rw [h.last key, Option.map_eq_none_iff, List.getLast?_eq_none_iff,
    List.filter_eq_nil_iff] at hLast
  exact hLast

omit h in
theorem last_append (key : String × String) (log : List Judged) (v : Judged) :
    (((log ++ [v]).filter (Judged.emits rt key)).getLast?).map Judged.now =
      if v.emits rt key then some v.now
      else ((log.filter (Judged.emits rt key)).getLast?).map Judged.now := by
  rw [List.filter_append, List.filter_singleton]
  cases v.emits rt key with
  | true => rw [cond_true, List.getLast?_concat, Option.map_some, if_pos rfl]
  | false => rw [cond_false, List.append_nil, if_neg (by decide)]

omit h in
theorem beq_pair : (instBEqOfDecidableEq : BEq (String × String)) = instBEqProd :=
  lawful_beq_subsingleton _ _

omit h in
theorem lookup_set_pair {ν : Type} (d : Dict (String × String) ν) (k k' : String × String) (v : ν) :
    (d.set k v).lookup k' = if k' = k then some v else d.lookup k' := by
  have h := Dict.lookup_set d k k' v
  rwa [beq_pair] at h

omit h in
theorem lookup_erase_pair {ν : Type} (d : Dict (String × String) ν) (k k' : String × String) :
    (d.erase k).lookup k' = if k' = k then none else d.lookup k' := by
  have h := Dict.lookup_erase d k k'
  rwa [beq_pair] at h

theorem Tallied.snoc {v : Judged} {t' : RuleAlertThrottle}
    (hAt : v.now = now) (hNow : time ≤ now) (hWindow : t'.window_seconds = t.window_seconds)
    (hLast : ∀ key, t'.last_emit.lookup key =
      if v.emits rt key then some v.now else t.last_emit.lookup key) (hPending : ∀ key,
      (t.suppressed_since_last.lookup key).getD 0 + (if v.silences key then 1 else 0) =
        v.reports key + (t'.suppressed_since_last.lookup key).getD 0)
    (hLaw : throttleLaw rt (seconds t.window_seconds) log v) : Tallied rt t' now (log ++ [v]) := by
  subst hAt
  have hPast : ∀ u ∈ log, u.now ≤ v.now := fun u hu => (h.past u hu).trans hNow
  refine ⟨?_, ?_, ?_, ?_, ?_⟩
  · intro key
    rw [last_append, hLast key, h.last key]
  · refine List.pairwise_append.mpr ⟨h.ordered, List.pairwise_singleton _ _, ?_⟩
    intro u hu w hw
    rw [List.mem_singleton.mp hw]
    exact hPast u hu
  · intro u hu
    rcases List.mem_append.mp hu with hOld | hNew
    · exact hPast u hOld
    · rw [List.mem_singleton.mp hNew]
  · intro key
    rw [List.countP_append, List.map_append, List.sum_append, h.pending key, List.countP_singleton,
      List.map_singleton, List.sum_singleton, Nat.add_assoc, Nat.add_assoc, hPending key]
  · rw [hWindow]
    exact lawful_snoc.mpr ⟨h.lawful, hLaw⟩

variable (source : String) (hit : MonitorHit)

theorem Tallied.free (hNow : time ≤ now) (hCount : hit.silenced = 0)
    (hFree : hit.level rt ∉ THROTTLED_SEVERITIES) :
    Tallied rt (t.round rt source now hit).1 now (log ++ [t.judge rt source now hit]) := by
  have hRound := round_free rt t source now hit hFree
  have hReported : (t.judge rt source now hit).reported = some 0 := by
    rw [RuleAlertThrottle.judge, hRound]
    exact congrArg some hCount
  rw [hRound]
  refine h.snoc (v := t.judge rt source now hit) rfl hNow rfl ?_ ?_ ⟨?_, ?_, ?_⟩
  · intro key
    have hNot : ¬(t.judge rt source now hit).Throttled rt := hFree
    rw [Judged.emits, decide_eq_false hNot, Bool.and_false, Bool.false_and, if_neg (by decide)]
  · intro key
    rw [Judged.silences, Judged.reports, hReported, Option.isNone_some, Bool.and_false,
      Option.getD_some, ite_self, if_neg (by decide), Nat.add_zero, Nat.zero_add]
  · intro _ hNone
    cases hReported.symm.trans hNone
  · exact fun hThrottled => absurd hThrottled hFree
  · intro hNone
    cases hReported.symm.trans hNone

theorem Tallied.silenced (hNow : time ≤ now) (hThrottled : hit.level rt ∈ THROTTLED_SEVERITIES)
    (hCooling : cooling (t.last_emit.lookup (hitKey source hit)) now (seconds t.window_seconds)) :
    Tallied rt (t.round rt source now hit).1 now (log ++ [t.judge rt source now hit]) := by
  have hRound := round_cooling rt t source now hit hThrottled hCooling
  have hKey : (t.judge rt source now hit).key = hitKey source hit := rfl
  have hReported : (t.judge rt source now hit).reported = none := by
    rw [RuleAlertThrottle.judge, hRound]
    rfl
  rw [hRound]
  refine h.snoc (v := t.judge rt source now hit) rfl hNow rfl ?_ ?_
    ⟨fun hFree => absurd hThrottled hFree, ?_, ?_⟩
  · intro key
    rw [Judged.emits, hReported, Option.isSome_none, Bool.and_false, if_neg (by decide)]
  · intro key
    dsimp only
    rw [Judged.silences, Judged.reports, hReported, hKey, Option.isNone_none, Bool.and_true,
      Option.getD_none, ite_self, Nat.zero_add, lookup_set_pair]
    by_cases hSame : key = hitKey source hit
    · rw [if_pos (decide_eq_true hSame.symm), if_pos hSame, hSame]
      rfl
    · rw [if_neg (by simp [Ne.symm hSame]), if_neg hSame, Nat.add_zero]
  · exact fun _ hSome => absurd hReported hSome
  · intro _
    cases hLast : t.last_emit.lookup (hitKey source hit) with
    | none =>
      rw [hLast] at hCooling
      cases hCooling
    | some last =>
      rw [hLast] at hCooling
      obtain ⟨u, hu, hEmits, hAt⟩ := (h.last_max hLast).1
      refine ⟨u, hu, hEmits, ?_⟩
      rw [hAt]
      exact of_decide_eq_true hCooling

theorem Tallied.emitted (hNow : time ≤ now) (hCount : hit.silenced = 0)
    (hThrottled : hit.level rt ∈ THROTTLED_SEVERITIES)
    (hCooling : ¬cooling (t.last_emit.lookup (hitKey source hit)) now (seconds t.window_seconds)) :
    Tallied rt (t.round rt source now hit).1 now (log ++ [t.judge rt source now hit]) := by
  have hRound := round_emits rt t source now hit hThrottled hCooling
  have hKey : (t.judge rt source now hit).key = hitKey source hit := rfl
  have hReported : (t.judge rt source now hit).reported = some (waiting t source hit) := by
    rw [RuleAlertThrottle.judge, hRound]
    by_cases hNone : waiting t source hit = 0
    · rw [if_pos hNone, hNone]
      exact congrArg some hCount
    · rw [if_neg hNone]
      rfl
  rw [hRound]
  refine h.snoc (v := t.judge rt source now hit) rfl hNow rfl ?_ ?_
    ⟨fun hFree => absurd hThrottled hFree, ?_, ?_⟩
  · intro key
    have hThrottled' : (t.judge rt source now hit).Throttled rt := hThrottled
    dsimp only
    rw [Judged.emits, hReported, hKey, decide_eq_true hThrottled', Option.isSome_some,
      Bool.and_true,
      Bool.and_true, lookup_set_pair]
    by_cases hSame : key = hitKey source hit
    · rw [if_pos hSame, if_pos (decide_eq_true hSame.symm)]
      rfl
    · rw [if_neg hSame, if_neg (by simp [Ne.symm hSame])]
  · intro key
    dsimp only
    rw [Judged.silences, Judged.reports, hReported, hKey, Option.isNone_some, Bool.and_false,
      if_neg (by decide), Option.getD_some, lookup_erase_pair]
    by_cases hSame : key = hitKey source hit
    · rw [if_pos hSame, if_pos hSame.symm, hSame]
      rfl
    · rw [if_neg hSame, if_neg (Ne.symm hSame), Nat.add_zero, Nat.zero_add]
  · intro _ _ u hu hEmits
    cases hLast : t.last_emit.lookup (hitKey source hit) with
    | none => exact absurd hEmits (h.last_none hLast u hu)
    | some last =>
      rw [hLast, cooling, decide_eq_true_eq] at hCooling
      have hBefore := (h.last_max hLast).2 u hu hEmits
      exact (Int.not_lt.mp hCooling).trans (Int.sub_le_sub_left hBefore now)
  · intro hNone
    cases hReported.symm.trans hNone

theorem Tallied.round (hNow : time ≤ now) (hCount : hit.silenced = 0) :
    Tallied rt (t.round rt source now hit).1 now (log ++ [t.judge rt source now hit]) := by
  by_cases hThrottled : hit.level rt ∈ THROTTLED_SEVERITIES
  · by_cases hCooling :
        cooling (t.last_emit.lookup (hitKey source hit)) now (seconds t.window_seconds) = true
    · exact h.silenced source hit hNow hThrottled hCooling
    · exact h.emitted source hit hNow hCount hThrottled hCooling
  · exact h.free source hit hNow hCount hThrottled

omit h

theorem Tallied.partition {hits : List MonitorHit} (hCount : ∀ hit ∈ hits, hit.silenced = 0)
    (h : Tallied rt t time log) (hNow : time ≤ now) :
    Tallied rt (t.partition rt source now hits).1 now
      (log ++ t.verdicts rt source now hits) := by
  induction hits generalizing t time log with
  | nil =>
    rw [RuleAlertThrottle.verdicts, List.append_nil]
    exact ⟨h.last, h.ordered, fun v hv => (h.past v hv).trans hNow, h.pending, h.lawful⟩
  | cons hit rest ih =>
    have hHere := h.round source hit hNow (hCount hit List.mem_cons_self)
    have hRest := ih (fun other hOther => hCount other (List.mem_cons_of_mem _ hOther)) hHere
      (le_refl now)
    rw [List.append_assoc] at hRest
    exact hRest

end Tallied

variable (rt : Runtime) (t : RuleAlertThrottle) (source : String)

theorem window_round (now : Ticks)
    (hit : MonitorHit) : (t.round rt source now hit).1.window_seconds = t.window_seconds := by
  by_cases hThrottled : hit.level rt ∈ THROTTLED_SEVERITIES
  · by_cases hCooling :
        cooling (t.last_emit.lookup (hitKey source hit)) now (seconds t.window_seconds) = true
    · rw [round_cooling rt t source now hit hThrottled hCooling]
    · rw [round_emits rt t source now hit hThrottled hCooling]
  · rw [round_free rt t source now hit hThrottled]

theorem window_partition (now : Ticks) (hits : List MonitorHit) :
    (t.partition rt source now hits).1.window_seconds = t.window_seconds := by
  induction hits generalizing t with
  | nil => rfl
  | cons hit rest ih =>
    exact (ih (t.round rt source now hit).1).trans (window_round rt t source now hit)

/-! ## Calls -/

theorem round_cases (now : Ticks) (hit : MonitorHit) :
    (∃ silenced, (t.round rt source now hit).2 = ([{ hit with silenced := silenced }], [])) ∨
      (t.round rt source now hit).2 = ([], [hit]) := by
  by_cases hThrottled : hit.level rt ∈ THROTTLED_SEVERITIES
  · by_cases hCooling :
        cooling (t.last_emit.lookup (hitKey source hit)) now (seconds t.window_seconds) = true
    · rw [round_cooling rt t source now hit hThrottled hCooling]
      exact .inr rfl
    · rw [round_emits rt t source now hit hThrottled hCooling]
      by_cases hNone : waiting t source hit = 0
      · rw [if_pos hNone]
        exact .inl ⟨hit.silenced, rfl⟩
      · rw [if_neg hNone]
        exact .inl ⟨waiting t source hit, rfl⟩
  · rw [round_free rt t source now hit hThrottled]
    exact .inl ⟨hit.silenced, rfl⟩

theorem partition_cons (now : Ticks) (hit : MonitorHit) (rest : List MonitorHit) :
    (t.partition rt source now (hit :: rest)).2 =
      ((t.round rt source now hit).2.1 ++
          ((t.round rt source now hit).1.partition rt source now rest).2.1,
        (t.round rt source now hit).2.2 ++
          ((t.round rt source now hit).1.partition rt source now rest).2.2) := rfl

theorem split_partition (now : Ticks) (hits : List MonitorHit) :
    Split hits (t.partition rt source now hits).2.1 (t.partition rt source now hits).2.2 := by
  induction hits generalizing t with
  | nil => exact .nil
  | cons hit rest ih =>
    have hRest := ih (t.round rt source now hit).1
    rw [partition_cons]
    rcases round_cases rt t source now hit with ⟨silenced, hRound⟩ | hRound
    · rw [hRound]
      exact .allow hit silenced hRest
    · rw [hRound]
      exact .silence hit hRest

theorem partition_verdicts (now : Ticks) (hits : List MonitorHit) :
    (t.partition rt source now hits).2 =
      ((t.verdicts rt source now hits).filterMap Judged.allowed,
        (t.verdicts rt source now hits).filterMap Judged.suppressed) := by
  induction hits generalizing t with
  | nil => rfl
  | cons hit rest ih =>
    have hJudge : (t.judge rt source now hit).reported =
        (t.round rt source now hit).2.1.head?.map MonitorHit.silenced := rfl
    rw [partition_cons, ih, RuleAlertThrottle.verdicts, List.filterMap_cons, List.filterMap_cons,
      Judged.allowed, Judged.suppressed, hJudge]
    rcases round_cases rt t source now hit with ⟨silenced, hRound⟩ | hRound
    · rw [hRound]
      rfl
    · rw [hRound]
      rfl

theorem tallied_calls (window_seconds : Int) (time : Ticks) (calls : List ThrottleCall) :
    Tallied rt ((ThrottleRun.start window_seconds time).calls rt calls).throttle
        ((ThrottleRun.start window_seconds time).calls rt calls).time
        ((ThrottleRun.start window_seconds time).calls rt calls).log ∧
      ((ThrottleRun.start window_seconds time).calls rt calls).throttle.window_seconds =
        window_seconds := by
  induction calls using List.reverseRecOn with
  | nil => exact ⟨tallied_start rt window_seconds time, rfl⟩
  | append_singleton calls call ih =>
    rw [ThrottleRun.calls, List.foldl_append]
    exact ⟨ih.1.partition _ call.uncounted (Int.le_add_of_nonneg_right (Int.natCast_nonneg _)),
      (window_partition rt _ _ _ _).trans ih.2⟩

/-- In every run, the next call puts each of its hits in one of the two lists, in order; what is of
a low severity is let through; two throttled hits of a key that are let through are a window apart,
and one is silenced only within a window of such a hit; and what has been silenced of a key is what
was reported with its hits and what is pending. -/
theorem throttle_runs (rt : Runtime) (window_seconds : Int) (time : Ticks)
    (calls : List ThrottleCall) :
    let r := (ThrottleRun.start window_seconds time).calls rt calls
    (∀ call, Split call.hits (r.answer rt call).2.1 (r.answer rt call).2.2 ∧
        ∃ judged, (r.call rt call).log = r.log ++ judged ∧
          (r.answer rt call).2 =
            (judged.filterMap Judged.allowed, judged.filterMap Judged.suppressed)) ∧
      (∀ v ∈ r.log, v.hit.level rt ∈ ["info", "low"] → v.reported ≠ none) ∧
      (∀ before u between v after key, r.log = before ++ u :: (between ++ v :: after) →
        u.emits rt key = true → v.emits rt key = true → seconds window_seconds ≤ v.now - u.now) ∧
      (∀ before v after, r.log = before ++ v :: after → v.reported = none →
        ∃ u ∈ before, u.emits rt v.key = true ∧ v.now - u.now < seconds window_seconds) ∧
      ∀ key, r.log.countP (Judged.silences key) = (r.log.map (Judged.reports key)).sum +
        (r.throttle.suppressed_since_last.lookup key).getD 0 := by
  intro r
  obtain ⟨hTallied, hWindow⟩ := tallied_calls rt window_seconds time calls
  have hLawful := hTallied.lawful
  rw [hWindow] at hLawful
  refine ⟨?_, ?_, ?_, ?_, hTallied.pending⟩
  · intro call
    exact ⟨split_partition rt _ _ _ _, _, rfl, partition_verdicts rt _ _ _ _⟩
  · intro v hv hLevel
    obtain ⟨before, after, hLog⟩ := List.append_of_mem hv
    refine (hLawful before v after hLog).1 ?_
    have hFree : ∀ level ∈ ["info", "low"], level ∉ THROTTLED_SEVERITIES := by decide
    exact hFree _ hLevel
  · intro before u between v after key hLog hu hv
    have hSplit : _ = (before ++ u :: between) ++ v :: after :=
      hLog.trans (by rw [List.append_assoc, List.cons_append])
    have hParts := hv
    rw [Judged.emits, Bool.and_eq_true, Bool.and_eq_true, decide_eq_true_eq, decide_eq_true_eq]
      at hParts
    obtain ⟨⟨hKey, hThrottled⟩, hSome⟩ := hParts
    refine (hLawful _ v after hSplit).2.1 hThrottled (Option.isSome_iff_ne_none.mp hSome) u
      (List.mem_append_right _ List.mem_cons_self) ?_
    rw [hKey]
    exact hu
  · intro before v after hLog hNone
    exact (hLawful before v after hLog).2.2 hNone

def scanCall (waited : Nat) : ThrottleCall where
  source := "10.0.0.5"
  waited := waited
  hits := [⟨"scan", "Scan", "scan", "Port scan", "high", "", 0⟩]
  uncounted hit hHit := by rw [List.mem_singleton.mp hHit]

/-- Two alerts are silenced, and the one after the window reports both. -/
theorem throttle_runs_scans :
    let r := (ThrottleRun.start 45 0).calls Runtime.ascii
      [scanCall 0, scanCall 1000000000, scanCall 1000000000, scanCall 45000000000]
    r.log.countP (Judged.silences ("scan", "10.0.0.5")) = 2 ∧
      (r.log.map (Judged.reports ("scan", "10.0.0.5"))).sum +
        (r.throttle.suppressed_since_last.lookup ("scan", "10.0.0.5")).getD 0 = 2 := by
  intro r
  have hSilenced : r.log.countP (Judged.silences ("scan", "10.0.0.5")) = 2 := by decide +kernel
  obtain ⟨-, -, -, -, hPending⟩ := throttle_runs Runtime.ascii 45 0
    [scanCall 0, scanCall 1000000000, scanCall 1000000000, scanCall 45000000000]
  exact ⟨hSilenced, (hPending ("scan", "10.0.0.5")).symm.trans hSilenced⟩

end Sniff4Hound
