import Sniff4Hound.Detection.Anomaly

/-!
# The remembered candidates

`AnomalyEngine.evaluate` remembers which monitors count packets under the identity of the id map, and
does not keep that map. A new map may have the identity of a dropped one, and the candidates of the
dropped one are then used for it (`stale_candidates`). What is remembered at a call are the candidates
of the map that began the unbroken series of calls with this identity (`evaluated_exactly_iff`).
-/

namespace Sniff4Hound

/-- A call of `evaluate`. -/
structure EvaluateCall where
  now : Ticks
  packet : Packet
  map : MonitorMap

/-- The candidates whose monitor is in the map and enabled: the generic detectors that are run. -/
def evaluatedGenerics (map : MonitorMap) (ids : List String) : List String :=
  ids.filter fun id => (map.monitors.lookup id).any fun monitor => monitor.enabled

/-- The generic detectors that `evaluate` runs. -/
def AnomalyEngine.evaluated (rt : Runtime) (engine : AnomalyEngine) (map : MonitorMap) :
    List String :=
  evaluatedGenerics map (engine.refreshCandidates rt map).generic_candidate_ids

/-- The enabled stateful monitors of the map with a positive threshold, apart from those with a
detector of their own. -/
def eligible (rt : Runtime) (map : MonitorMap) : List String :=
  evaluatedGenerics map (genericCandidates rt map)

def engineAfter (env : Env) (cfg : Thresholds) (calls : List EvaluateCall) : AnomalyEngine :=
  calls.foldl (fun engine call => (engine.evaluate env cfg call.now call.packet call.map).1) {}

def seriesHead (calls : List EvaluateCall) (identity : Nat) : Option MonitorMap :=
  ((calls.reverse.takeWhile fun call => call.map.identity = identity).getLast?).map
    EvaluateCall.map

/-! ## The detectors that are run -/

theorem mem_evaluatedGenerics {map : MonitorMap} {ids : List String} {id : String} :
    id ∈ evaluatedGenerics map ids ↔
      id ∈ ids ∧ ∃ monitor, map.monitors.lookup id = some monitor ∧ monitor.enabled = true := by
  unfold evaluatedGenerics
  rw [List.mem_filter, Option.any_eq_true]

/-! ## What is remembered -/

theorem seriesHead_snoc (calls : List EvaluateCall) (call : EvaluateCall) (identity : Nat) :
    seriesHead (calls ++ [call]) identity =
      if call.map.identity = identity then
        some ((seriesHead calls identity).getD call.map)
      else none := by
  unfold seriesHead
  rw [List.reverse_append, List.reverse_singleton, List.singleton_append, List.takeWhile_cons]
  by_cases hSame : call.map.identity = identity
  · rw [if_pos (decide_eq_true hSame), if_pos hSame, List.getLast?_cons]
    cases (calls.reverse.takeWhile fun call => call.map.identity = identity).getLast? with
    | none => rfl
    | some first => rfl
  · rw [if_neg (by simpa using hSame), if_neg hSame]
    rfl

def Remembers (rt : Runtime) (engine : AnomalyEngine) (calls : List EvaluateCall) : Prop :=
  ∀ identity,
    (engine.generic_candidates_source = some identity ↔
        ∃ first, seriesHead calls identity = some first) ∧
      ∀ first, seriesHead calls identity = some first →
        engine.generic_candidate_ids = genericCandidates rt first

theorem remembers_new (rt : Runtime) : Remembers rt {} [] := by
  intro identity
  constructor
  · exact ⟨nofun, nofun⟩
  · exact nofun

theorem Remembers.candidates {rt : Runtime} {engine : AnomalyEngine} {calls : List EvaluateCall}
    (h : Remembers rt engine calls) (map : MonitorMap) :
    (engine.refreshCandidates rt map).generic_candidate_ids =
      genericCandidates rt ((seriesHead calls map.identity).getD map) := by
  obtain ⟨hSource, hIds⟩ := h map.identity
  unfold AnomalyEngine.refreshCandidates
  split
  · rename_i hSame
    obtain ⟨first, hFirst⟩ := hSource.mp hSame
    rw [hIds first hFirst, hFirst, Option.getD_some]
  · rename_i hOther
    cases hHead : seriesHead calls map.identity with
    | none => rfl
    | some first => exact absurd (hSource.mpr ⟨first, hHead⟩) hOther

theorem refresh_source (rt : Runtime) (engine : AnomalyEngine) (map : MonitorMap) :
    (engine.refreshCandidates rt map).generic_candidates_source = some map.identity := by
  unfold AnomalyEngine.refreshCandidates
  split
  · assumption
  · rfl

theorem Remembers.evaluate {env : Env} {engine : AnomalyEngine} {calls : List EvaluateCall}
    (h : Remembers env.toRuntime engine calls) (cfg : Thresholds) (call : EvaluateCall) :
    Remembers env.toRuntime (engine.evaluate env cfg call.now call.packet call.map).1
      (calls ++ [call]) := by
  -- the fixed detectors leave the memo alone
  have hFixed : Remembers env.toRuntime
      (engine.evaluateFixed env.toRuntime cfg call.now call.packet call.map).1 calls := h
  have hIds := hFixed.candidates call.map
  have hSource := refresh_source env.toRuntime
    (engine.evaluateFixed env.toRuntime cfg call.now call.packet call.map).1 call.map
  intro identity
  rw [seriesHead_snoc]
  constructor
  · refine Iff.trans (Iff.of_eq (congrArg (· = some identity) hSource)) ?_
    split
    · rename_i hSame
      exact iff_of_true (congrArg some hSame) ⟨_, rfl⟩
    · rename_i hOther
      refine iff_of_false (fun hEq => hOther (Option.some.inj hEq)) nofun
  · intro first hFirst
    split at hFirst
    · rename_i hSame
      subst hSame
      cases hFirst
      exact hIds
    · cases hFirst

theorem remembers_after (env : Env) (cfg : Thresholds) (calls : List EvaluateCall) :
    Remembers env.toRuntime (engineAfter env cfg calls) calls := by
  induction calls using List.reverseRecOn with
  | nil => exact remembers_new env.toRuntime
  | append_singleton calls call ih =>
    unfold engineAfter
    rw [List.foldl_append, List.foldl_cons, List.foldl_nil]
    exact ih.evaluate cfg call

/-- After any calls, a call runs the generic detectors of the eligible monitors of its map just when
the map that began the series of calls with this identity has the same candidates among the enabled
monitors of this map. -/
theorem evaluated_exactly_iff (env : Env) (cfg : Thresholds) (calls : List EvaluateCall)
    (map : MonitorMap) :
    (∀ id, id ∈ (engineAfter env cfg calls).evaluated env.toRuntime map ↔
        id ∈ eligible env.toRuntime map) ↔
      ∀ first, seriesHead calls map.identity = some first →
        ∀ id monitor, map.monitors.lookup id = some monitor → monitor.enabled = true →
          (id ∈ genericCandidates env.toRuntime first ↔
            id ∈ genericCandidates env.toRuntime map) := by
  unfold AnomalyEngine.evaluated eligible
  rw [(remembers_after env cfg calls).candidates map]
  simp only [mem_evaluatedGenerics]
  constructor
  · intro hExact first hFirst id monitor hFound hEnabled
    have hId := hExact id
    rw [hFirst, Option.getD_some] at hId
    have hHere : ∃ monitor, map.monitors.lookup id = some monitor ∧ monitor.enabled = true :=
      ⟨monitor, hFound, hEnabled⟩
    constructor
    · exact fun hOld => (hId.mp ⟨hOld, hHere⟩).1
    · exact fun hNew => (hId.mpr ⟨hNew, hHere⟩).1
  · intro hAgree id
    cases hHead : seriesHead calls map.identity with
    | none => rfl
    | some first =>
      refine and_congr_left ?_
      rintro ⟨monitor, hFound, hEnabled⟩
      exact hAgree first hHead id monitor hFound hEnabled

def countMonitor : Monitor where
  id := "count"
  name := "count"
  description := ""
  enabled := true
  priority := 100
  mode := "stateful"
  rule := .node { count_threshold := 3 } [] [] []
  action := ⟨"", "", "info"⟩

/-- A monitor added by a refresh is not run, since the new map has the identity of the old one. -/
theorem stale_candidates :
    "count" ∈ eligible Runtime.ascii ⟨7, [("count", countMonitor)]⟩ ∧
      "count" ∉ (engineAfter Env.ascii {} [⟨0, fun _ => .null, ⟨7, []⟩⟩]).evaluated Runtime.ascii
        ⟨7, [("count", countMonitor)]⟩ := by
  constructor
  · decide +kernel
  · decide +kernel

end Sniff4Hound
