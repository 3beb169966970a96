import Mathlib.Data.List.DropRight
import Mathlib.Data.List.Pairwise
import Mathlib.Order.Lattice

/-!
# Logs of events, and windows over them

A log lists what has happened, the newest last. A law for its entries says what each of them has to
be after the ones before it (`Lawful`). A queue that forgets its front lazily, whenever it is
touched, holds what a window over the whole log still keeps (`Kept.touch`), as long as the clock
does not go back.
-/

namespace EventLog

variable {ρ : Type*}

/-- Every entry answers to the law of the entries before it. -/
def Lawful (law : List ρ → ρ → Prop) (log : List ρ) : Prop :=
  ∀ before entry after, log = before ++ entry :: after → law before entry

variable {law : List ρ → ρ → Prop}

theorem lawful_nil : Lawful law [] := by
  intro before entry after h
  cases List.append_eq_nil_iff.mp h.symm |>.2

variable {log : List ρ}

theorem lawful_snoc {entry : ρ} : Lawful law (log ++ [entry]) ↔ Lawful law log ∧ law log entry := by
  constructor
  · intro h
    refine ⟨fun before other after hLog => ?_, h log entry [] rfl⟩
    exact h before other (after ++ [entry]) (by rw [hLog, List.append_assoc, List.cons_append])
  · rintro ⟨hLog, hEntry⟩ before other after hSplit
    rcases List.eq_nil_or_concat after with rfl | ⟨after', last, rfl⟩
    · obtain ⟨rfl, hLast⟩ := List.append_inj' hSplit rfl
      cases hLast
      exact hEntry
    · rw [List.concat_eq_append, ← List.cons_append, ← List.append_assoc] at hSplit
      obtain ⟨hFront, -⟩ := List.append_inj' hSplit rfl
      exact hLog before other after' hFront

theorem Lawful.filter {law' : List ρ → ρ → Prop} (h : Lawful law log) {own : ρ → Bool}
    (hLaw : ∀ before entry, own entry = true → law before entry → law' (before.filter own) entry) :
    Lawful law' (log.filter own) := by
  intro before entry after hSplit
  obtain ⟨front, back, rfl, rfl, hBack⟩ := List.filter_eq_append_iff.mp hSplit
  obtain ⟨skipped, rest, rfl, hSkipped, hOwn, -⟩ := List.filter_eq_cons_iff.mp hBack
  have hNone : skipped.filter own = [] :=
    List.filter_eq_nil_iff.mpr fun other hOther => hSkipped other hOther
  have hHere := hLaw (front ++ skipped) entry hOwn
    (h (front ++ skipped) entry rest (by rw [List.append_assoc]))
  rw [List.filter_append, hNone, List.append_nil] at hHere
  exact hHere

/-- Two lawful logs with the same questions have the same answers, where the law leaves one answer.
-/
theorem Lawful.determined {α : Type*} {question : ρ → α}
    (hOne : ∀ before entry entry', question entry = question entry' → law before entry →
    law before entry' → entry = entry')
    {log' : List ρ} (h : Lawful law log) (h' : Lawful law log')
    (hQuestions : log.map question = log'.map question) : log = log' := by
  induction log using List.reverseRecOn generalizing log' with
  | nil => exact (List.map_eq_nil_iff.mp hQuestions.symm).symm
  | append_singleton log entry ih =>
    rcases List.eq_nil_or_concat log' with rfl | ⟨front, last, rfl⟩
    · cases List.map_eq_nil_iff.mp hQuestions |> List.append_eq_nil_iff.mp |>.2
    · rw [List.concat_eq_append] at h' hQuestions ⊢
      rw [List.map_append, List.map_append] at hQuestions
      obtain ⟨hFront, hLast⟩ := List.append_inj' hQuestions rfl
      obtain ⟨hLog, hEntry⟩ := lawful_snoc.mp h
      obtain ⟨hLog', hEntry'⟩ := lawful_snoc.mp h'
      obtain rfl := ih hLog hLog' hFront
      rw [hOne log entry last (List.singleton_inj.mp hLast) hEntry hEntry']

/-! ## Windows -/

section Windows

variable {τ α : Type*} [LinearOrder τ]

structure Window (τ : Type*) [LinearOrder τ] where
  keeps : τ → τ → Bool
  leaves : ∀ {now now' t : τ}, now ≤ now' → keeps now' t = true → keeps now t = true
  newer : ∀ {now t t' : τ}, t ≤ t' → keeps now t = true → keeps now t' = true

variable (w : Window τ) {time : α → τ} {clock now : τ} {events queue : List α}

theorem dropWhile_eq_filter (hSorted : (events.map time).Pairwise (· ≤ ·)) (now : τ) :
    events.dropWhile (fun event => !w.keeps now (time event)) =
      events.filter fun event => w.keeps now (time event) := by
  induction events with
  | nil => rfl
  | cons event events ih =>
    rw [List.map_cons, List.pairwise_cons] at hSorted
    obtain ⟨hFirst, hSorted⟩ := hSorted
    by_cases hKeeps : w.keeps now (time event) = true
    · have hAll : ∀ other ∈ event :: events, w.keeps now (time other) = true := by
        intro other hOther
        rcases List.mem_cons.mp hOther with rfl | hRest
        · exact hKeeps
        · exact w.newer (hFirst _ (List.mem_map_of_mem hRest)) hKeeps
      rw [List.dropWhile_cons_of_neg (by rw [hKeeps]; nofun), List.filter_eq_self.mpr hAll]
    · rw [List.dropWhile_cons_of_pos (by rw [Bool.eq_false_iff.mpr hKeeps]; rfl),
        List.filter_cons, if_neg hKeeps]
      exact ih hSorted

structure Kept (w : Window τ) (time : α → τ) (clock : τ) (events queue : List α) : Prop where
  sorted : (events.map time).Pairwise (· ≤ ·)
  past : ∀ event ∈ events, time event ≤ clock
  queue : ∃ touched ≤ clock, queue = events.filter fun event => w.keeps touched (time event)

variable {w}

theorem Kept.nil (clock : τ) : Kept w time clock [] [] :=
  ⟨List.Pairwise.nil, nofun, clock, le_rfl, rfl⟩

theorem Kept.wait (h : Kept w time clock events queue) (hNow : clock ≤ now) :
    Kept w time now events queue := by
  obtain ⟨touched, hTouched, hQueue⟩ := h.queue
  exact ⟨h.sorted, fun event hEvent => (h.past event hEvent).trans hNow, touched,
    hTouched.trans hNow, hQueue⟩

/-- An event is appended, and the front is dropped: what remains is what the window keeps of all. -/
theorem Kept.touch (h : Kept w time clock events queue) (event : α) (hNow : clock ≤ time event) :
    (queue ++ [event]).dropWhile (fun other => !w.keeps (time event) (time other)) =
        (events ++ [event]).filter (fun other => w.keeps (time event) (time other)) ∧
      Kept w time (time event) (events ++ [event])
        ((events ++ [event]).filter fun other => w.keeps (time event) (time other)) := by
  obtain ⟨touched, hTouched, hQueue⟩ := h.queue
  have hSorted : ((events ++ [event]).map time).Pairwise (· ≤ ·) := by
    rw [List.map_append, List.pairwise_append]
    refine ⟨h.sorted, List.pairwise_singleton _ _, ?_⟩
    intro t hOld t' hNew
    obtain ⟨other, hOther, rfl⟩ := List.mem_map.mp hOld
    rw [List.mem_singleton.mp hNew]
    exact (h.past other hOther).trans hNow
  have hPast : ∀ other ∈ events ++ [event], time other ≤ time event := by
    intro other hOther
    rcases List.mem_append.mp hOther with hOld | hNew
    · exact (h.past other hOld).trans hNow
    · rw [List.mem_singleton.mp hNew]
  refine ⟨?_, hSorted, hPast, time event, le_rfl, rfl⟩
  have hQueueSorted : ((queue ++ [event]).map time).Pairwise (· ≤ ·) := by
    refine hSorted.sublist (List.Sublist.map time ?_)
    rw [hQueue]
    exact List.filter_sublist.append_right [event]
  have hTwice : (events.filter fun other => w.keeps touched (time other)).filter
      (fun other => w.keeps (time event) (time other)) =
        events.filter fun other => w.keeps (time event) (time other) := by
    rw [List.filter_filter]
    refine List.filter_congr fun other _ => ?_
    by_cases hKeeps : w.keeps (time event) (time other) = true
    · rw [hKeeps, w.leaves (hTouched.trans hNow) hKeeps]
      rfl
    · rw [Bool.eq_false_iff.mpr hKeeps]
      rfl
  rw [dropWhile_eq_filter w hQueueSorted, List.filter_append, List.filter_append, hQueue, hTwice]

end Windows

end EventLog
