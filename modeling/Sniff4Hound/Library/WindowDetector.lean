import Sniff4Hound.Library.EventLog
import Sniff4Hound.Library.StepRun

/-!
# Detectors that count in windows

A detector sees inputs, some of which have a key, and counts those of each key in a queue that it
prunes when the key is seen. One kind (`ClearingCounter`) empties the queue when it fires, the other
(`CoolingCounter`) keeps it and holds back for a while. Their firings are what a law over the whole
history says (`ClearingCounter.lawful`, `CoolingCounter.lawful`), in which the inputs of one key do
not matter to another (`Separate.own_eq`).
-/

namespace WindowDetector

open EventLog

variable {σ τ ι κ : Type*} [LinearOrder τ] [DecidableEq κ]

structure Sighting (τ ι : Type*) where
  time : τ
  input : ι
  fired : Bool

structure Watch (σ τ ι : Type*) where
  clock : τ
  detector : σ
  log : List (Sighting τ ι)

def watch (evaluate : τ → ι → σ → σ × Bool) (s : Watch σ τ ι) (label : τ × ι) :
    Option (Watch σ τ ι) :=
  if s.clock ≤ label.1 then
    some
      { clock := label.1
        detector := (evaluate label.1 label.2 s.detector).1
        log := s.log ++ [⟨label.1, label.2, (evaluate label.1 label.2 s.detector).2⟩] }
  else none

def own (key : ι → Option κ) (k : κ) (log : List (Sighting τ ι)) : List (Sighting τ ι) :=
  log.filter fun seen => decide (key seen.input = some k)

section Own

variable {key : ι → Option κ} {k : κ} {log : List (Sighting τ ι)} {seen : Sighting τ ι}

omit [LinearOrder τ] in
theorem own_snoc : own key k (log ++ [seen]) =
    if key seen.input = some k then own key k log ++ [seen] else own key k log := by
  rw [own, List.filter_append, List.filter_singleton]
  by_cases hKey : key seen.input = some k
  · rw [if_pos hKey, decide_eq_true hKey]
    rfl
  · rw [if_neg hKey, decide_eq_false hKey]
    exact List.append_nil _

omit [LinearOrder τ] in
theorem own_own : own key k (own key k log) = own key k log :=
  List.filter_eq_self.mpr fun _ hSeen => (List.mem_filter.mp hSeen).2

end Own

/-! ## Laws that look at one key -/

/-- The law for an input looks at the earlier inputs of its key only, and says whether it fires. -/
structure Separate (key : ι → Option κ) (law : List (Sighting τ ι) → Sighting τ ι → Prop) :
    Prop where
  looks : ∀ before seen k, key seen.input = some k → law before seen → law (own key k before) seen
  tells : ∀ before seen seen', seen.time = seen'.time → seen.input = seen'.input → law before seen →
    law before seen' → seen = seen'

omit [LinearOrder τ] in
theorem Separate.own_eq {key : ι → Option κ} {law : List (Sighting τ ι) → Sighting τ ι → Prop}
    (hLaw : Separate key law) {log log' : List (Sighting τ ι)} (h : Lawful law log)
    (h' : Lawful law log') {k : κ}
    (hSame : (own key k log).map (fun seen => (seen.time, seen.input)) =
      (own key k log').map fun seen => (seen.time, seen.input)) : own key k log =
        own key k log' := by
  have hOwn : ∀ {log : List (Sighting τ ι)}, Lawful law log → Lawful law (own key k log) :=
    fun hLog =>
    hLog.filter fun before seen hKey => hLaw.looks before seen k (of_decide_eq_true hKey)
  refine Lawful.determined (fun before seen seen' hSeen => ?_) (hOwn h) (hOwn h') hSame
  exact hLaw.tells before seen seen' (congrArg Prod.fst hSeen) (congrArg Prod.snd hSeen)

/-! ## Counters that are cleared -/

def sinceFiring (key : ι → Option κ) (k : κ) (log : List (Sighting τ ι)) : List (Sighting τ ι) :=
  (own key k log).rtakeWhile fun seen => !seen.fired

/-- An input fires when it is the last of `threshold` inside the window since the key fired last. -/
def clearingLaw (w : Window τ) (threshold : Nat) (key : ι → Option κ)
    (before : List (Sighting τ ι)) (seen : Sighting τ ι) : Prop :=
  seen.fired = true ↔ ∃ k, key seen.input = some k ∧
    threshold ≤ (((sinceFiring key k before).map Sighting.time ++ [seen.time]).filter
      (w.keeps seen.time)).length

section Clearing

variable {w : Window τ} {threshold : Nat} {key : ι → Option κ} {evaluate : τ → ι → σ → σ × Bool}

theorem clearing_separate : Separate (τ := τ) key (clearingLaw w threshold key) where
  looks before seen k hKey hLaw := by
    refine hLaw.trans (exists_congr fun k' => and_congr_right fun hKey' => ?_)
    cases hKey.symm.trans hKey'
    rw [sinceFiring, sinceFiring, own_own]
  tells := by
    rintro before ⟨time, input, fired⟩ ⟨_, _, fired'⟩ ⟨⟩ ⟨⟩ hLaw hLaw'
    have hFired : fired = fired' := Bool.eq_iff_iff.mpr (hLaw.trans hLaw'.symm)
    rw [hFired]

structure ClearingCounter (w : Window τ) (threshold : Nat) (key : ι → Option κ)
    (evaluate : τ → ι → σ → σ × Bool) (queue : σ → κ → List τ) : Prop where
  ignores : ∀ now input d, key input = none →
    (evaluate now input d).2 = false ∧ ∀ k, queue (evaluate now input d).1 k = queue d k
  counts : ∀ now input d k, key input = some k → ∃ kept,
    kept = (queue d k ++ [now]).dropWhile (fun time => !w.keeps now time) ∧
    (evaluate now input d).2 = decide (threshold ≤ kept.length) ∧
    ∀ k', queue (evaluate now input d).1 k' =
      if k' = k then if threshold ≤ kept.length then [] else kept else queue d k'

omit [LinearOrder τ] in
theorem sinceFiring_snoc {k : κ} {log : List (Sighting τ ι)} {seen : Sighting τ ι} :
    sinceFiring key k (log ++ [seen]) =
      if key seen.input = some k then if seen.fired then [] else sinceFiring key k log ++ [seen]
      else sinceFiring key k log := by
  rw [sinceFiring, own_snoc]
  split
  · rw [List.rtakeWhile_concat]
    cases seen.fired with
    | true => rfl
    | false => rfl
  · rfl

structure Cleared (w : Window τ) (threshold : Nat) (key : ι → Option κ) (queue : σ → κ → List τ)
    (s : Watch σ τ ι) : Prop where
  lawful : Lawful (clearingLaw w threshold key) s.log
  kept : ∀ k, Kept w id s.clock ((sinceFiring key k s.log).map Sighting.time) (queue s.detector k)

theorem ClearingCounter.step {queue : σ → κ → List τ}
    (h : ClearingCounter w threshold key evaluate queue) :
    StepRun.Invariant (watch evaluate) (Cleared w threshold key queue) := by
  rintro s ⟨now, input⟩ s' ⟨hLawful, hKept⟩ hStep
  obtain ⟨hNow, hStep⟩ := Option.ite_none_right_eq_some.mp hStep
  cases hStep
  cases hKey : key input with
  | none =>
    obtain ⟨hFired, hQueue⟩ := h.ignores now input s.detector hKey
    constructor
    · refine lawful_snoc.mpr ⟨hLawful, ?_⟩
      change (evaluate now input s.detector).2 = true ↔ ∃ k, key input = some k ∧ _
      rw [hFired, hKey]
      exact iff_of_false Bool.false_ne_true (by rintro ⟨k, ⟨⟩, -⟩)
    · intro k
      change Kept w id now _ (queue (evaluate now input s.detector).1 k)
      rw [hQueue, sinceFiring_snoc, if_neg (by rw [hKey]; nofun)]
      exact (hKept k).wait hNow
  | some k =>
    obtain ⟨kept, hPruned, hFired, hQueue⟩ := h.counts now input s.detector k hKey
    obtain ⟨hTouched, hNext⟩ := (hKept k).touch now hNow
    have hSame : kept = ((sinceFiring key k s.log).map Sighting.time ++ [now]).filter
      (w.keeps now) :=
      hPruned.trans hTouched
    constructor
    · refine lawful_snoc.mpr ⟨hLawful, ?_⟩
      change (evaluate now input s.detector).2 = true ↔ ∃ k, key input = some k ∧ _
      rw [hFired, decide_eq_true_iff, hSame]
      constructor
      · exact fun hMany => ⟨k, hKey, hMany⟩
      · rintro ⟨k', hKey', hMany⟩
        cases hKey.symm.trans hKey'
        exact hMany
    · intro k'
      change Kept w id now _ (queue (evaluate now input s.detector).1 k')
      rw [hQueue, sinceFiring_snoc]
      by_cases hOwn : k' = k
      · rw [if_pos hOwn, if_pos (hKey.trans (congrArg some hOwn.symm)), hFired, hOwn]
        by_cases hMany : threshold ≤ kept.length
        · rw [if_pos hMany, decide_eq_true hMany]
          exact .nil now
        · rw [if_neg hMany, decide_eq_false hMany, hSame]
          exact List.map_append ▸ hNext
      · rw [if_neg hOwn, if_neg (fun hEq => hOwn (Option.some.inj (hEq.symm.trans hKey)))]
        exact (hKept k').wait hNow

theorem ClearingCounter.lawful {queue : σ → κ → List τ}
    (h : ClearingCounter w threshold key evaluate queue) {d : σ} (hEmpty : ∀ k, queue d k = [])
    {clock : τ} {labels : List (τ × ι)} {s : Watch σ τ ι}
    (hRun : StepRun.run (watch evaluate) ⟨clock, d, []⟩ labels = some s) :
    Lawful (clearingLaw w threshold key) s.log := by
  refine (h.step.run (s := ⟨clock, d, []⟩) ⟨lawful_nil, fun k => ?_⟩ hRun).lawful
  rw [hEmpty]
  exact .nil clock

end Clearing

/-! ## Counters that hold back -/

structure Pause (τ : Type*) [LinearOrder τ] where
  holds : τ → τ → Bool
  longer : ∀ {last last' now : τ}, last ≤ last' → holds last now = true → holds last' now = true

section Cooling

variable {α : Type*} {w : Window τ} {pause : Pause τ} {threshold : Nat} {key : ι → Option κ}
  {item : τ → ι → α} {time : α → τ} {measure : List α → Nat} {evaluate : τ → ι → σ → σ × Bool}

def itemOf (item : τ → ι → α) (seen : Sighting τ ι) : α := item seen.time seen.input

/-- An input fires when what the window keeps of its key reaches the threshold, and the key has not
fired a short while ago. -/
def coolingLaw (w : Window τ) (pause : Pause τ) (threshold : Nat) (key : ι → Option κ)
    (item : τ → ι → α) (time : α → τ) (measure : List α → Nat) (before : List (Sighting τ ι))
    (seen : Sighting τ ι) : Prop :=
  seen.fired = true ↔ ∃ k, key seen.input = some k ∧
    threshold ≤ measure (((own key k before).map (itemOf item) ++
      [item seen.time seen.input]).filter
      fun x => w.keeps seen.time (time x)) ∧
    ∀ earlier ∈ own key k before, earlier.fired = true → pause.holds earlier.time seen.time = false

theorem cooling_separate : Separate key (coolingLaw w pause threshold key item time measure) where
  looks before seen k hKey hLaw := by
    refine hLaw.trans (exists_congr fun k' => and_congr_right fun hKey' => ?_)
    cases hKey.symm.trans hKey'
    rw [own_own]
  tells := by
    rintro before ⟨t, input, fired⟩ ⟨_, _, fired'⟩ ⟨⟩ ⟨⟩ hLaw hLaw'
    have hFired : fired = fired' := Bool.eq_iff_iff.mpr (hLaw.trans hLaw'.symm)
    rw [hFired]

def Pause.active (pause : Pause τ) (last : Option τ) (now : τ) : Bool :=
  match last with
  | none => false
  | some last => pause.holds last now

structure CoolingCounter (w : Window τ) (pause : Pause τ) (threshold : Nat) (key : ι → Option κ)
    (item : τ → ι → α) (time : α → τ) (measure : List α → Nat) (evaluate : τ → ι → σ → σ × Bool)
    (queue : σ → κ → List α) (last : σ → κ → Option τ) : Prop where
  dated : ∀ now input, time (item now input) = now
  ignores : ∀ now input d, key input = none → (evaluate now input d).2 = false ∧
    ∀ k, queue (evaluate now input d).1 k = queue d k ∧ last (evaluate now input d).1 k = last d k
  counts : ∀ now input d k, key input = some k → ∃ kept,
    kept = (queue d k ++ [item now input]).dropWhile (fun x => !w.keeps now (time x)) ∧
    (evaluate now input d).2 =
      (decide (threshold ≤ measure kept) && !pause.active (last d k) now) ∧
    (∀ k', queue (evaluate now input d).1 k' = if k' = k then kept else queue d k') ∧
    ∀ k', last (evaluate now input d).1 k' =
      if k' = k then if (evaluate now input d).2 = true then some now else last d k' else last d k'

structure Cooled (w : Window τ) (pause : Pause τ) (threshold : Nat) (key : ι → Option κ)
    (item : τ → ι → α) (time : α → τ) (measure : List α → Nat) (queue : σ → κ → List α)
    (last : σ → κ → Option τ) (s : Watch σ τ ι) : Prop where
  lawful : Lawful (coolingLaw w pause threshold key item time measure) s.log
  kept : ∀ k, Kept w time s.clock ((own key k s.log).map (itemOf item)) (queue s.detector k)
  past : ∀ seen ∈ s.log, seen.time ≤ s.clock
  paused : ∀ k now, pause.active (last s.detector k) now = true ↔
    ∃ earlier ∈ own key k s.log, earlier.fired = true ∧ pause.holds earlier.time now = true

theorem active_snoc {k : κ} {log : List (Sighting τ ι)} {last : Option τ} (seen : Sighting τ ι)
    (hPast : ∀ earlier ∈ log, earlier.time ≤ seen.time) (hKey : key seen.input = some k)
    (hPaused : ∀ now, pause.active last now = true ↔
      ∃ earlier ∈ own key k log, earlier.fired = true ∧ pause.holds earlier.time now = true)
    (now : τ) :
    pause.active (if seen.fired = true then some seen.time else last) now = true ↔
      ∃ earlier ∈ own key k (log ++ [seen]), earlier.fired = true ∧
        pause.holds earlier.time now = true := by
  rw [own_snoc, if_pos hKey]
  by_cases hFired : seen.fired = true
  · rw [if_pos hFired]
    constructor
    · intro hHolds
      exact ⟨seen, List.mem_append_right _ (List.mem_singleton_self seen), hFired, hHolds⟩
    · rintro ⟨earlier, hMem, -, hHolds⟩
      rcases List.mem_append.mp hMem with hOld | hNew
      · exact pause.longer (hPast earlier (List.mem_of_mem_filter hOld)) hHolds
      · rw [List.mem_singleton.mp hNew] at hHolds
        exact hHolds
  · rw [if_neg hFired, hPaused]
    constructor
    · rintro ⟨earlier, hOld, hEarlier⟩
      exact ⟨earlier, List.mem_append_left _ hOld, hEarlier⟩
    · rintro ⟨earlier, hMem, hEarlier, hHolds⟩
      rcases List.mem_append.mp hMem with hOld | hNew
      · exact ⟨earlier, hOld, hEarlier, hHolds⟩
      · rw [List.mem_singleton.mp hNew] at hEarlier
        exact absurd hEarlier hFired

theorem CoolingCounter.step {queue : σ → κ → List α} {last : σ → κ → Option τ}
    (h : CoolingCounter w pause threshold key item time measure evaluate queue last) :
    StepRun.Invariant (watch evaluate)
      (Cooled w pause threshold key item time measure queue last) := by
  rintro s ⟨now, input⟩ s' ⟨hLawful, hKept, hPast, hPaused⟩ hStep
  obtain ⟨hNow, hStep⟩ := Option.ite_none_right_eq_some.mp hStep
  cases hStep
  change s.clock ≤ now at hNow
  have hBefore : ∀ seen ∈ s.log, seen.time ≤ now := fun seen hSeen => (hPast seen hSeen).trans hNow
  have hAfter : ∀ seen ∈ s.log ++ [⟨now, input, (evaluate now input s.detector).2⟩],
    seen.time ≤ now := by
    intro seen hSeen
    rcases List.mem_append.mp hSeen with hOld | hNew
    · exact hBefore seen hOld
    · rw [List.mem_singleton.mp hNew]
  cases hKey : key input with
  | none =>
    obtain ⟨hFired, hSame⟩ := h.ignores now input s.detector hKey
    have hOwn : ∀ k, own key k (s.log ++ [⟨now, input, (evaluate now input s.detector).2⟩]) =
        own key k s.log := fun k => own_snoc.trans (if_neg (by rw [hKey]; nofun))
    refine ⟨lawful_snoc.mpr ⟨hLawful, ?_⟩, fun k => ?_, hAfter, fun k later => ?_⟩
    · change (evaluate now input s.detector).2 = true ↔ ∃ k, key input = some k ∧ _
      rw [hFired, hKey]
      exact iff_of_false Bool.false_ne_true (by rintro ⟨k, ⟨⟩, -⟩)
    · change Kept w time now ((own key k (s.log ++ [⟨now, input, _⟩])).map _)
        (queue (evaluate now input s.detector).1 k)
      rw [hOwn, (hSame k).1]
      exact (hKept k).wait hNow
    · change pause.active (last (evaluate now input s.detector).1 k) later = true ↔
        ∃ earlier ∈ own key k (s.log ++ [⟨now, input, (evaluate now input s.detector).2⟩]),
          earlier.fired = true ∧ pause.holds earlier.time later = true
      rw [hOwn, (hSame k).2]
      exact hPaused k later
  | some k =>
    obtain ⟨kept, hPruned, hFired, hQueue, hLast⟩ := h.counts now input s.detector k hKey
    have hDated := h.dated now input
    obtain ⟨hTouched, hNext⟩ := (hKept k).touch (item now input) (hNow.trans_eq hDated.symm)
    rw [hDated] at hTouched hNext
    have hSame := hPruned.trans hTouched
    refine ⟨lawful_snoc.mpr ⟨hLawful, ?_⟩, fun k' => ?_, hAfter, fun k' later => ?_⟩
    · change (evaluate now input s.detector).2 = true ↔ ∃ k, key input = some k ∧ _
      rw [hFired, hSame, Bool.and_eq_true, decide_eq_true_iff, Bool.not_eq_true',
        Bool.eq_false_iff,
        Ne, hPaused]
      constructor
      · rintro ⟨hMany, hFree⟩
        exact ⟨k, hKey, hMany, fun earlier hOld hEarlier =>
          Bool.eq_false_iff.mpr fun hHolds => hFree ⟨earlier, hOld, hEarlier, hHolds⟩⟩
      · rintro ⟨k', hKey', hMany, hFree⟩
        cases hKey.symm.trans hKey'
        refine ⟨hMany, ?_⟩
        rintro ⟨earlier, hOld, hEarlier, hHolds⟩
        cases (hFree earlier hOld hEarlier).symm.trans hHolds
    · change Kept w time now ((own key k' (s.log ++ [⟨now, input, _⟩])).map _)
        (queue (evaluate now input s.detector).1 k')
      rw [hQueue, own_snoc]
      by_cases hOwn : k' = k
      · rw [if_pos hOwn, if_pos (hKey.trans (congrArg some hOwn.symm)), hOwn, hSame,
        List.map_append]
        exact hNext
      · rw [if_neg hOwn, if_neg (fun hEq => hOwn (Option.some.inj (hEq.symm.trans hKey)))]
        exact (hKept k').wait hNow
    · change pause.active (last (evaluate now input s.detector).1 k') later = true ↔ _
      rw [hLast]
      by_cases hOwn : k' = k
      · have hActive := active_snoc ⟨now, input, (evaluate now input s.detector).2⟩ hBefore hKey
          (hPaused k) later
        rw [hOwn, if_pos rfl]
        exact hActive
      · change _ ↔ ∃ earlier ∈ own key k' (s.log ++
        [⟨now, input, (evaluate now input s.detector).2⟩]),
          earlier.fired = true ∧ pause.holds earlier.time later = true
        rw [if_neg hOwn, own_snoc, if_neg (fun hEq => hOwn
          (Option.some.inj (hEq.symm.trans hKey)))]
        exact hPaused k' later

theorem CoolingCounter.lawful {queue : σ → κ → List α} {last : σ → κ → Option τ}
    (h : CoolingCounter w pause threshold key item time measure evaluate queue last) {d : σ}
    (hEmpty : ∀ k, queue d k = [] ∧ last d k = none) {clock : τ} {labels : List (τ × ι)}
    {s : Watch σ τ ι} (hRun : StepRun.run (watch evaluate) ⟨clock, d, []⟩ labels = some s) :
    Lawful (coolingLaw w pause threshold key item time measure) s.log := by
  refine (h.step.run (s := ⟨clock, d, []⟩) ⟨lawful_nil, fun k => ?_, nofun, fun k now => ?_⟩
    hRun).lawful
  · rw [(hEmpty k).1]
    exact .nil clock
  · rw [(hEmpty k).2]
    exact iff_of_false Bool.false_ne_true (by rintro ⟨earlier, hNone, -⟩; cases hNone)

end Cooling

end WindowDetector
