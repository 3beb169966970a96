import Mathlib.Data.List.Induction
import Mathlib.Data.List.Basic

/-!
# Runs of partial step functions

A system is a step function `step : σ → α → Option σ`: in state `s` the label `a` is
enabled when `step s a` is `some`, and then has one result. Interleavings are sequences
of labels, so a run is the fold of the step function over such a sequence. The file
packages the two inductions every safety proof over runs uses: what a step preserves
holds in every state reached (`Invariant.run`), and what relates the labels taken so far
to the state is proved by extending the run at its end (`run_induction`).
-/

namespace StepRun

variable {σ α : Type*} {step : σ → α → Option σ}

/-- The state after the labels `ls`, when each of them is enabled in turn. -/
def run (step : σ → α → Option σ) (s : σ) (ls : List α) : Option σ := ls.foldlM step s

@[simp] theorem run_nil (s : σ) : run step s [] = some s := rfl

theorem run_cons (s : σ) (a : α) (ls : List α) :
    run step s (a :: ls) = (step s a).bind fun t => run step t ls := rfl

theorem run_append (s : σ) (ls ms : List α) :
    run step s (ls ++ ms) = (run step s ls).bind fun t => run step t ms := by
  simp only [run, List.foldlM_append]
  rfl

theorem run_snoc (s : σ) (ls : List α) (a : α) :
    run step s (ls ++ [a]) = (run step s ls).bind fun t => step t a := by
  rw [run_append]
  congr 1
  funext t
  simp [run_cons]

variable {s : σ} {ls : List α} {a : α}

/-- A successful run that ends with `a` is a run followed by an enabled step. -/
theorem run_snoc_eq_some {u : σ} :
    run step s (ls ++ [a]) = some u ↔ ∃ t, run step s ls = some t ∧ step t a = some u := by
  rw [run_snoc, Option.bind_eq_some_iff]

theorem run_append_eq_some {u : σ} {ms : List α} :
    run step s (ls ++ ms) = some u ↔
      ∃ t, run step s ls = some t ∧ run step t ms = some u := by
  rw [run_append, Option.bind_eq_some_iff]

variable {t : σ}

@[elab_as_elim]
theorem run_induction {P : List α → σ → Prop} (hNil : P [] s)
    (hStep : ∀ ls t a u, run step s ls = some t → P ls t → step t a = some u → P (ls ++ [a]) u)
    (hRun : run step s ls = some t) : P ls t := by
  induction ls using List.reverseRecOn generalizing t with
  | nil =>
    cases hRun
    exact hNil
  | append_singleton ls a ih =>
    obtain ⟨u, hu, ha⟩ := run_snoc_eq_some.mp hRun
    exact hStep ls u a t hu (ih hu) ha

/-- A run that comes to an end, with what holds wherever it ends. -/
theorem exists_end {o : Option σ} {p : σ → Prop} (hEnds : o.isSome = true)
    (h : ∀ s, o = some s → p s) : ∃ s, o = some s ∧ p s := by
  obtain ⟨s, hRun⟩ := Option.isSome_iff_exists.mp hEnds
  exact ⟨s, hRun, h s hRun⟩

/-- `I` is kept by every enabled step. -/
def Invariant (step : σ → α → Option σ) (I : σ → Prop) : Prop :=
  ∀ s a t, I s → step s a = some t → I t

namespace Invariant

theorem run {I : σ → Prop} (h : Invariant step I) {s t : σ} {ls : List α} (hs : I s)
    (hRun : StepRun.run step s ls = some t) : I t :=
  run_induction (P := fun _ t => I t) hs (fun _ _ _ _ _ ih hStep => h _ _ _ ih hStep) hRun

theorem strengthen {I J : σ → Prop} (hI : Invariant step I)
    (hJ : ∀ s a t, I s → J s → step s a = some t → J t) :
    Invariant step fun s => I s ∧ J s :=
  fun s a t h hStep => ⟨hI s a t h.1 hStep, hJ s a t h.1 h.2 hStep⟩

end Invariant

variable {I : σ → Prop}

/-- What the labels in `P` keep holds after a run of such labels. -/
theorem run_keeps {P : α → Prop} (hKeep : ∀ s a t, P a → I s → step s a = some t → I t) (hs : I s)
    (hLs : ∀ a ∈ ls, P a) (hRun : run step s ls = some t) : I t := by
  induction ls generalizing s with
  | nil =>
    cases hRun
    exact hs
  | cons a ls ih =>
    rw [run_cons] at hRun
    obtain ⟨u, hu, hRest⟩ := Option.bind_eq_some_iff.mp hRun
    exact ih (hKeep s a u (hLs a List.mem_cons_self) hs hu)
      (fun b hb => hLs b (List.mem_cons_of_mem a hb)) hRest

/-! ## Runs whose steps all meet a condition -/

/-- The steps that are taken in a state where `C` holds of the label. -/
def guarded (C : σ → α → Prop) [∀ s a, Decidable (C s a)] (step : σ → α → Option σ) (s : σ)
    (a : α) : Option σ := if C s a then step s a else none

variable {C : σ → α → Prop}

theorem guarded_eq_some [∀ s a, Decidable (C s a)] :
    guarded C step s a = some t ↔ C s a ∧ step s a = some t := by
  unfold guarded
  split <;> simp [*]

theorem run_of_guarded [∀ s a, Decidable (C s a)] (hRun : run (guarded C step) s ls = some t) :
    run step s ls = some t :=
  run_induction (P := fun ls t => run step s ls = some t) rfl
    (fun _ _ _ _ _ ih hStep => run_snoc_eq_some.mpr ⟨_, ih, (guarded_eq_some.mp hStep).2⟩) hRun

/-- Where no step is disabled, `I` implies `D` and is kept by the steps that meet the condition,
and a step that does not meet it ends in a state without `D`: the condition holds at every step
just when `D` holds of all states. -/
theorem guarded_run_iff_of [∀ s a, Decidable (C s a)] {P : α → Prop} {D : σ → Prop}
    (hTotal : ∀ s a, ∃ t, step s a = some t) (hGood : ∀ s, I s → D s)
    (hKeep : ∀ s a t, P a → I s → C s a → step s a = some t → I t)
    (hBad : ∀ s a t, P a → I s → step s a = some t → D t → C s a) (hs : I s) (hLs : ∀ a ∈ ls, P a) :
    (∃ t, run (guarded C step) s ls = some t) ↔
      ∀ front, front <+: ls → ∀ t, run step s front = some t → D t := by
  induction ls generalizing s with
  | nil =>
    refine iff_of_true ⟨s, rfl⟩ ?_
    intro front hFront t hRun
    rw [List.prefix_nil.mp hFront] at hRun
    cases hRun
    exact hGood s hs
  | cons a ls ih =>
    obtain ⟨u, hu⟩ := hTotal s a
    have hHead := hLs a List.mem_cons_self
    have hTail := fun b hb => hLs b (List.mem_cons_of_mem a hb)
    by_cases hC : C s a
    · have hGuarded : guarded C step s a = some u := guarded_eq_some.mpr ⟨hC, hu⟩
      rw [run_cons, hGuarded, Option.bind_some, ih (hKeep s a u hHead hs hC hu) hTail]
      constructor
      · intro h front hFront t hRun
        cases front with
        | nil =>
          cases hRun
          exact hGood s hs
        | cons b front =>
          obtain ⟨rfl, hRest⟩ := List.cons_prefix_cons.mp hFront
          rw [run_cons, hu, Option.bind_some] at hRun
          exact h front hRest t hRun
      · intro h front hFront t hRun
        refine h (a :: front) (List.cons_prefix_cons.mpr ⟨rfl, hFront⟩) t ?_
        rw [run_cons, hu, Option.bind_some]
        exact hRun
    · refine iff_of_false ?_ ?_
      · rintro ⟨t, hRun⟩
        rw [run_cons] at hRun
        obtain ⟨v, hv, -⟩ := Option.bind_eq_some_iff.mp hRun
        exact hC (guarded_eq_some.mp hv).1
      · intro h
        have hOne := h [a] (List.cons_prefix_cons.mpr ⟨rfl, List.nil_prefix⟩) u
          (by simp [run_cons, hu])
        exact hC (hBad s a u hHead hs hu hOne)

/-- Where no step is disabled and a step from a good state ends in a good state just when it
meets the condition, the condition holds at every step just when all states are good. -/
theorem guarded_run_iff [∀ s a, Decidable (C s a)] (hTotal : ∀ s a, ∃ t, step s a = some t)
    (hStep : ∀ s a t, I s → step s a = some t → (I t ↔ C s a)) (hs : I s) (ls : List α) :
    (∃ t, run (guarded C step) s ls = some t) ↔
      ∀ front, front <+: ls → ∀ t, run step s front = some t → I t :=
  guarded_run_iff_of (P := fun _ => True) hTotal (fun _ => id)
    (fun s a t _ hs hC hu => (hStep s a t hs hu).mpr hC)
    (fun s a t _ hs hu ht => (hStep s a t hs hu).mp ht) hs fun _ _ => trivial

/-! ## Logs that only grow -/

/-- Every entry of the log stands in the relation `P` to what was logged before it. -/
def Ordered (P : List α → α → Prop) (log : List α) : Prop :=
  ∀ pre a post, log = pre ++ a :: post → P pre a

theorem Ordered.nil (P : List α → α → Prop) : Ordered P [] := by
  intro pre a post h
  simp at h

variable {P : List α → α → Prop} {log : List α}

theorem Ordered.snoc (h : Ordered P log) (ha : P log a) : Ordered P (log ++ [a]) := by
  intro pre b post hEq
  rcases List.eq_nil_or_concat post with rfl | ⟨post, c, rfl⟩
  · obtain ⟨rfl, hb⟩ := List.append_inj' hEq rfl
    cases hb
    exact ha
  · have hEq' : log ++ [a] = (pre ++ b :: post) ++ [c] := by simpa using hEq
    exact h pre b post (List.append_inj' hEq' rfl).1

theorem Ordered.append {evs : List α} (h : Ordered P log) (hEvs : ∀ pre, ∀ a ∈ evs, P pre a) :
    Ordered P (log ++ evs) := by
  induction evs using List.reverseRecOn with
  | nil => simpa using h
  | append_singleton evs a ih =>
    rw [← List.append_assoc]
    exact (ih fun pre b hb => hEvs pre b (List.mem_append_left _ hb)).snoc
      (hEvs _ a (by simp))

theorem Ordered.not_after {pre post : List α} {b : α} (h : Ordered P log)
    (hLog : log = pre ++ a :: post) (hNot : ∀ l, a ∈ l → ¬ P l b) (hb : b ∈ log) (hPre : b ∉ pre)
    (hNe : b ≠ a) : False := by
  have hPost : b ∈ post := by simpa [hLog, hPre, hNe] using hb
  obtain ⟨l, r, rfl⟩ := List.append_of_mem hPost
  exact hNot (pre ++ a :: l) (by simp) (h _ b r (by simp [hLog]))

end StepRun
