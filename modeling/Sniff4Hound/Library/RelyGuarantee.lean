import Sniff4Hound.Library.StepRun

/-!
# Rely and guarantee

Threads `τ` with local states `ι` move one at a time over a shared state `σ`. Each thread
has an assertion about its local state and the shared one, and a guarantee: what its steps
may do to the shared state. If every step establishes the assertion of the thread that
moves and keeps its guarantee, and every assertion survives the guarantees of the other
threads, then all assertions hold along every run (`invariant`).
-/

namespace RelyGuarantee

variable {σ α τ ι : Type*}

/-- `ok s t i`: what thread `t` in local state `i` may rely on in `s`. -/
structure Outline (σ τ ι : Type*) where
  loc : σ → τ → ι
  shared : σ → Prop
  ok : σ → τ → ι → Prop
  guar : τ → σ → σ → Prop

def Outline.Holds (O : Outline σ τ ι) (s : σ) : Prop := O.shared s ∧ ∀ t, O.ok s t (O.loc s t)

/-- What a step has to give: some thread moved within its guarantee and is right after it,
and a thread that did not move kept its local state or is right in its new one. -/
structure Outline.Moves (O : Outline σ τ ι) (t : τ) (s s' : σ) : Prop where
  guar : O.guar t s s'
  shared : O.shared s'
  self : O.ok s' t (O.loc s' t)
  others : ∀ u, u ≠ t → O.loc s' u = O.loc s u ∨ O.ok s' u (O.loc s' u)

def Outline.Stable (O : Outline σ τ ι) : Prop :=
  ∀ t u s s' i, u ≠ t → O.guar t s s' → O.ok s u i → O.ok s' u i

theorem Outline.Moves.holds {O : Outline σ τ ι} (hStable : O.Stable) {t : τ} {s s' : σ}
    (hs : O.Holds s) (h : O.Moves t s s') : O.Holds s' := by
  refine ⟨h.shared, fun u => ?_⟩
  by_cases hu : u = t
  · subst hu
    exact h.self
  · rcases h.others u hu with hLoc | hOk
    · rw [hLoc]
      exact hStable t u s s' _ hu h.guar (hs.2 u)
    · exact hOk

theorem invariant {step : σ → α → Option σ} {O : Outline σ τ ι} (hStable : O.Stable)
    (hMoves : ∀ s a s', O.Holds s → step s a = some s' → ∃ t, O.Moves t s s') :
    StepRun.Invariant step O.Holds := by
  intro s a s' hs hStep
  obtain ⟨t, ht⟩ := hMoves s a s' hs hStep
  exact ht.holds hStable hs

end RelyGuarantee
