import Mathlib.Data.List.Count
import Mathlib.Data.List.Perm.Basic

/-!
# Worker pools that replace stuck workers

Workers `τ` take tasks `κ` from a queue and serve one at a time. A task that takes too long
is abandoned: the pool gets one more worker, and the worker that is stuck leaves once its
task is over. `Move` lists what can happen to a pool in one step, with the bookkeeping as the
pool itself does it: the registered tasks, and a counter that goes up with each replacement
and down with each return. `Sound` is the invariant, which ties the counter to the abandoned
tasks, the workers that hold them and the number of workers.
-/

namespace WorkerPool

variable {τ κ : Type*}

/-- What a worker is at. A task is registered from `starting` to `finishing`. -/
inductive Role (κ : Type*)
  | outside
  | free
  | taken (k : κ)
  | registering (k : κ)
  | starting (k : κ)
  | serving (k : κ)
  | settling (k : κ)
  | finishing (k : κ)
  | retiring (k : κ)
  | leaving

def Role.task : Role κ → Option κ
  | .taken k | .registering k | .starting k | .serving k | .settling k | .finishing k
  | .retiring k => some k
  | .outside | .free | .leaving => none

def Role.holds : Role κ → Option κ
  | .starting k | .serving k | .settling k | .finishing k => some k
  | _ => none

def Role.leaves (abandoned : κ → Bool) : Role κ → Bool
  | .retiring k => abandoned k
  | .leaving => true
  | _ => false

def Role.Runs (k : κ) (r : Role κ) : Prop :=
  r = .registering k ∨ r = .starting k ∨ r = .serving k ∨ r = .settling k

def Role.Early (k : κ) (r : Role κ) : Prop :=
  r = .taken k ∨ r = .registering k ∨ r = .starting k

def Role.Late (k : κ) (r : Role κ) : Prop :=
  r = .settling k ∨ r = .finishing k ∨ r = .retiring k

@[ext]
structure Pool (τ κ : Type*) where
  role : τ → Role κ
  workers : List τ
  queue : List κ
  running : List κ
  abandoned : κ → Bool
  clocked : κ → Prop
  returned : κ → Prop
  surplus : Int

namespace Pool

def held (p : Pool τ κ) (t : τ) : Bool := (p.role t).holds.any p.abandoned

def leaves (p : Pool τ κ) (t : τ) : Bool := (p.role t).leaves p.abandoned

def turn [DecidableEq τ] (p : Pool τ κ) (t : τ) (r : Role κ) : Pool τ κ :=
  { p with role := Function.update p.role t r }

/-- What can happen to a pool in one step; a step that touches no worker may drop waiting
tasks, stop clocks and let work on tasks return. -/
inductive Move [DecidableEq τ] [DecidableEq κ] (limit : Nat) (p : Pool τ κ) : Pool τ κ → Prop
  | quiet (queue : List κ) (clocked returned : κ → Prop) (hQueue : queue.Sublist p.queue)
      (hClocked : ∀ k, clocked k → p.clocked k) (hReturned : ∀ k, p.returned k → returned k) :
      Move limit p { p with queue := queue, clocked := clocked, returned := returned }
  | submit (k : κ) (hQueue : k ∉ p.queue) (hTask : ∀ t, (p.role t).task ≠ some k)
      (hAbandoned : p.abandoned k = false) : Move limit p { p with queue := p.queue ++ [k] }
  | take (t : τ) (k : κ) (rest : List κ) (hRole : p.role t = .free) (hQueue : p.queue = k :: rest) :
      Move limit p ({ p with queue := rest }.turn t (.taken k))
  | skip (t : τ) (k : κ) (hRole : p.role t = .taken k) : Move limit p (p.turn t .free)
  | clock (t : τ) (k : κ) (clocked : κ → Prop) (hRole : p.role t = .taken k)
      (hClocked : ∀ i, clocked i → p.clocked i ∨ i = k) :
      Move limit p ({ p with clocked := clocked }.turn t (.registering k))
  | register (t : τ) (k : κ) (hRole : p.role t = .registering k) :
      Move limit p ({ p with
        running := if k ∈ p.running then p.running else p.running ++ [k] }.turn t (.starting k))
  | serve (t : τ) (k : κ) (hRole : p.role t = .starting k) : Move limit p (p.turn t (.serving k))
  | settle (t : τ) (k : κ) (returned : κ → Prop) (hRole : p.role t = .serving k)
      (hReturned : ∀ i, p.returned i → returned i) (hSelf : returned k) :
      Move limit p ({ p with returned := returned }.turn t (.settling k))
  | finish (t : τ) (k : κ) (hRole : p.role t = .settling k) (hClock : ¬ p.clocked k) :
      Move limit p (p.turn t (.finishing k))
  | unregister (t : τ) (k : κ) (hRole : p.role t = .finishing k) :
      Move limit p ({ p with
        running := p.running.erase k
        surplus := if p.abandoned k then p.surplus - 1 else p.surplus }.turn t (.retiring k))
  | retire (t : τ) (k : κ) (hRole : p.role t = .retiring k) :
      Move limit p (p.turn t (if p.abandoned k then .leaving else .free))
  | leave (t : τ) (hRole : p.role t = .leaving) :
      Move limit p ({ p with workers := p.workers.erase t }.turn t .outside)
  | replace (t u : τ) (k : κ) (hRole : p.role t = .serving k ∨ p.role t = .settling k)
      (hNew : p.role u = .outside) (hOnce : p.abandoned k = false) (hRoom : p.surplus < limit) :
      Move limit p ({ p with
        abandoned := Function.update p.abandoned k true
        surplus := p.surplus + 1
        workers := p.workers ++ [u] }.turn u .free)

variable {limit : Nat} {p : Pool τ κ}

theorem Move.of_eq [DecidableEq τ] [DecidableEq κ] {q q' : Pool τ κ} (h : Move limit p q)
    (hEq : q' = q) : Move limit p q' := hEq ▸ h

/-! ## The invariant -/

structure Placed (p : Pool τ κ) : Prop where
  nodup : p.workers.Nodup
  worker : ∀ t, t ∈ p.workers ↔ p.role t ≠ .outside
  queue : p.queue.Nodup
  waiting : ∀ k ∈ p.queue, ∀ t, (p.role t).task ≠ some k
  unique : ∀ t u k, (p.role t).task = some k → (p.role u).task = some k → t = u
  clocked : ∀ k, p.clocked k → ∃ t, (p.role t).Runs k
  early : ∀ k, p.abandoned k = true → k ∉ p.queue ∧ ∀ t, ¬ (p.role t).Early k
  late : ∀ t k, (p.role t).Late k → p.returned k
  returned : ∀ k, p.abandoned k = true → k ∈ p.running ∨ p.returned k
  running : p.running.Nodup
  held : ∀ k, k ∈ p.running ↔ ∃ t, (p.role t).holds = some k

/-- The counter counts the abandoned tasks, the workers that hold one, and the workers the
pool has beyond its size. -/
structure Balanced (limit : Nat) (p : Pool τ κ) : Prop where
  surplus : p.surplus = p.running.countP p.abandoned
  room : p.surplus ≤ limit
  held : p.surplus = p.workers.countP p.held
  workers : (p.workers.length : Int) = limit + p.surplus + p.workers.countP p.leaves

variable {k : κ}

theorem holds_task {r : Role κ} (h : r.holds = some k) : r.task = some k := by
  cases r with
  | starting i | serving i | settling i | finishing i => exact h
  | outside | free | leaving | taken i | registering i | retiring i => cases h

theorem Placed.quiet (h : p.Placed) {queue : List κ} {clocked returned : κ → Prop}
    (hQueue : queue.Sublist p.queue) (hClocked : ∀ k, clocked k → p.clocked k)
    (hReturned : ∀ k, p.returned k → returned k) :
    Placed { p with queue := queue, clocked := clocked, returned := returned } where
  nodup := h.nodup
  worker := h.worker
  queue := h.queue.sublist hQueue
  waiting k hk := h.waiting k (hQueue.subset hk)
  unique := h.unique
  clocked k hk := h.clocked k (hClocked k hk)
  early k hk := ⟨fun hMem => (h.early k hk).1 (hQueue.subset hMem), (h.early k hk).2⟩
  late t k hk := hReturned k (h.late t k hk)
  returned k hk := (h.returned k hk).imp_right (hReturned k)
  running := h.running
  held := h.held

theorem Placed.submit (h : p.Placed) (hQueue : k ∉ p.queue) (hTask : ∀ t, (p.role t).task ≠ some k)
    (hAbandoned : p.abandoned k = false) :
    Placed { p with queue := p.queue ++ [k] } where
  nodup := h.nodup
  worker := h.worker
  queue := List.nodup_append.mpr
    ⟨h.queue, List.pairwise_singleton _ k, fun i hi j hj hEq =>
      hQueue (List.mem_singleton.mp hj ▸ hEq ▸ hi)⟩
  waiting i hi := by
    rcases List.mem_append.mp hi with hi | hi
    · exact h.waiting i hi
    · exact List.mem_singleton.mp hi ▸ hTask
  unique := h.unique
  clocked := h.clocked
  early i hi := by
    refine ⟨fun hMem => ?_, (h.early i hi).2⟩
    rcases List.mem_append.mp hMem with hMem | hMem
    · exact (h.early i hi).1 hMem
    · rw [List.mem_singleton.mp hMem, hAbandoned] at hi
      cases hi
  late := h.late
  returned := h.returned
  running := h.running
  held := h.held

theorem Placed.counted (h : p.Placed) (n : Int) : Placed
    { p with surplus := n } where
  nodup := h.nodup
  worker := h.worker
  queue := h.queue
  waiting := h.waiting
  unique := h.unique
  clocked := h.clocked
  early := h.early
  late := h.late
  returned := h.returned
  running := h.running
  held := h.held

variable {t : τ}

theorem Placed.abandon [DecidableEq κ] (h : p.Placed)
    (hRole : p.role t = .serving k ∨ p.role t = .settling k) :
    Placed { p with abandoned := Function.update p.abandoned k true } := by
  have hHolds : (p.role t).holds = some k := by
    rcases hRole with hRole | hRole <;> rw [hRole] <;> rfl
  have hTask := holds_task hHolds
  have hOld : ∀ i, i ≠ k → Function.update p.abandoned k true i = true → p.abandoned i = true := by
    intro i hi hAbandoned
    rwa [Function.update_of_ne hi] at hAbandoned
  refine ⟨h.nodup, h.worker, h.queue, h.waiting, h.unique, h.clocked, fun i hi => ?_, h.late,
    fun i hi => ?_, h.running, h.held⟩
  · by_cases hik : i = k
    · refine ⟨fun hMem => h.waiting i hMem t (hik ▸ hTask), fun u hu => ?_⟩
      have hEarlyTask : (p.role u).task = some k := by
        rcases hu with hu | hu | hu <;> rw [hu, hik] <;> rfl
      obtain rfl : u = t := h.unique u t k hEarlyTask hTask
      rcases hRole with hRole | hRole <;> rw [hRole] at hu <;> simp [Role.Early] at hu
    · exact h.early i (hOld i hik hi)
  · by_cases hik : i = k
    · exact Or.inl ((h.held i).mpr ⟨t, hik ▸ hHolds⟩)
    · exact h.returned i (hOld i hik hi)

section Turns

variable [DecidableEq τ] {p : Pool τ κ} {t : τ} {r : Role κ}

theorem turn_self (p : Pool τ κ) (t : τ) (r : Role κ) : (p.turn t r).role t = r :=
  Function.update_self ..

theorem turn_other {u : τ} (hNe : u ≠ t) : (p.turn t r).role u = p.role u :=
  Function.update_of_ne hNe ..

theorem Placed.turn (h : p.Placed) {queue running : List κ} {clocked returned : κ → Prop}
    (hIn : p.role t ≠ .outside) (hOut : r ≠ .outside) (hQueue : queue.Sublist p.queue)
    (hTask : ∀ k, r.task = some k → (p.role t).task = some k ∨ k ∈ p.queue ∧ k ∉ queue)
    (hEarly : ∀ k, r.Early k → (p.role t).Early k ∨ k ∈ p.queue)
    (hClocked : ∀ k, clocked k → r.Runs k ∨ p.clocked k ∧ ¬ (p.role t).Runs k)
    (hLate : ∀ k, r.Late k → returned k) (hReturned : ∀ k, p.returned k → returned k)
    (hRunning : running.Nodup)
    (hMem : ∀ k, k ∈ running ↔ r.holds = some k ∨ k ∈ p.running ∧ (p.role t).holds ≠ some k)
    (hGone : ∀ k, (p.role t).holds = some k → r.holds = some k ∨ returned k) :
    Placed ({ p with
      queue := queue, running := running, clocked := clocked, returned := returned }.turn t r) := by
  have hOld : ∀ u k, u ≠ t → (p.role u).task = some k → r.task ≠ some k := by
    intro u k hu hk hr
    rcases hTask k hr with hr | hr
    · exact hu (h.unique u t k hk hr)
    · exact h.waiting k hr.1 u hk
  refine ⟨h.nodup, fun u => ?_, h.queue.sublist hQueue, fun k hk u hu => ?_, fun u v k hu hv => ?_,
    fun k hk => ?_, fun k hk => ⟨fun hk' => (h.early k hk).1 (hQueue.subset hk'), fun u hu => ?_⟩,
    fun u k hu => ?_, fun k hk => ?_, hRunning, fun k => (hMem k).trans ⟨fun hk => ?_, ?_⟩⟩
  · by_cases hut : u = t
    · subst hut
      rw [turn_self]
      exact ⟨fun _ => hOut, fun _ => (h.worker u).mpr hIn⟩
    · rw [turn_other hut]
      exact h.worker u
  · by_cases hut : u = t
    · subst hut
      rw [turn_self] at hu
      rcases hTask k hu with hTask | hTask
      · exact h.waiting k (hQueue.subset hk) u hTask
      · exact hTask.2 hk
    · rw [turn_other hut] at hu
      exact h.waiting k (hQueue.subset hk) u hu
  · by_cases hut : u = t
    · by_cases hvt : v = t
      · rw [hut, hvt]
      · rw [hut, turn_self] at hu
        rw [turn_other hvt] at hv
        exact absurd hu (hOld v k hvt hv)
    · rw [turn_other hut] at hu
      by_cases hvt : v = t
      · rw [hvt, turn_self] at hv
        exact absurd hv (hOld u k hut hu)
      · rw [turn_other hvt] at hv
        exact h.unique u v k hu hv
  · rcases hClocked k hk with hk | ⟨hk, hNot⟩
    · exact ⟨t, by rwa [turn_self]⟩
    · obtain ⟨u, hu⟩ := h.clocked k hk
      have hut : u ≠ t := fun hut => hNot (hut ▸ hu)
      exact ⟨u, by rwa [turn_other hut]⟩
  · by_cases hut : u = t
    · rw [hut, turn_self] at hu
      rcases hEarly k hu with hu | hu
      · exact (h.early k hk).2 t hu
      · exact (h.early k hk).1 hu
    · rw [turn_other hut] at hu
      exact (h.early k hk).2 u hu
  · by_cases hut : u = t
    · rw [hut, turn_self] at hu
      exact hLate k hu
    · rw [turn_other hut] at hu
      exact hReturned k (h.late u k hu)
  · rcases h.returned k hk with hk | hk
    · by_cases hHeld : (p.role t).holds = some k
      · exact (hGone k hHeld).imp_left fun hr => (hMem k).mpr (Or.inl hr)
      · exact Or.inl ((hMem k).mpr (Or.inr ⟨hk, hHeld⟩))
    · exact Or.inr (hReturned k hk)
  · rcases hk with hk | ⟨hk, hNot⟩
    · exact ⟨t, by rwa [turn_self]⟩
    · obtain ⟨u, hu⟩ := (h.held k).mp hk
      have hut : u ≠ t := fun hut => hNot (hut ▸ hu)
      exact ⟨u, by rwa [turn_other hut]⟩
  · rintro ⟨u, hu⟩
    by_cases hut : u = t
    · rw [hut, turn_self] at hu
      exact Or.inl hu
    · rw [turn_other hut] at hu
      refine Or.inr ⟨(h.held k).mpr ⟨u, hu⟩, fun ht => hut ?_⟩
      exact h.unique u t k (holds_task hu) (holds_task ht)

theorem turn_iff {f : Role κ → Prop} (hf : ∀ r, r.task = none → ¬ f r)
    (hOld : (p.role t).task = none) (hNew : r.task = none) (u : τ) :
    f ((p.turn t r).role u) ↔ f (p.role u) := by
  by_cases hut : u = t
  · rw [hut, turn_self]
    exact ⟨fun h => absurd h (hf r hNew), fun h => absurd h (hf _ hOld)⟩
  · rw [turn_other hut]

theorem Placed.swap (h : p.Placed) (hOld : (p.role t).task = none) (hNew : r.task = none)
    {workers : List τ} (hNodup : workers.Nodup)
    (hWorker : ∀ u, u ∈ workers ↔ (p.turn t r).role u ≠ .outside) :
    Placed ({ p with workers := workers }.turn t r) := by
  have hTask : ∀ u k, ((p.turn t r).role u).task = some k ↔ (p.role u).task = some k := fun u k =>
    turn_iff (f := fun r => r.task = some k) (fun r hr hk => by rw [hr] at hk; cases hk) hOld hNew u
  have hRuns : ∀ u k, ((p.turn t r).role u).Runs k ↔ (p.role u).Runs k := fun u k =>
    turn_iff (by rintro r hr (rfl | rfl | rfl | rfl) <;> cases hr) hOld hNew u
  have hEarly : ∀ u k, ((p.turn t r).role u).Early k ↔ (p.role u).Early k := fun u k =>
    turn_iff (by rintro r hr (rfl | rfl | rfl) <;> cases hr) hOld hNew u
  have hLate : ∀ u k, ((p.turn t r).role u).Late k ↔ (p.role u).Late k := fun u k =>
    turn_iff (by rintro r hr (rfl | rfl | rfl) <;> cases hr) hOld hNew u
  have hHolds : ∀ u k, ((p.turn t r).role u).holds = some k ↔ (p.role u).holds = some k :=
    fun u k =>
    turn_iff (f := fun r => r.holds = some k)
      (fun r hr hk => by rw [holds_task hk] at hr; cases hr) hOld hNew u
  refine ⟨hNodup, hWorker, h.queue, fun k hk u hu => h.waiting k hk u ((hTask u k).mp hu),
    fun u v k hu hv => h.unique u v k ((hTask u k).mp hu) ((hTask v k).mp hv), fun k hk => ?_,
    fun k hk => ⟨(h.early k hk).1, fun u hu => (h.early k hk).2 u ((hEarly u k).mp hu)⟩,
    fun u k hu => h.late u k ((hLate u k).mp hu), h.returned, h.running, fun k => ?_⟩
  · obtain ⟨u, hu⟩ := h.clocked k hk
    exact ⟨u, (hRuns u k).mpr hu⟩
  · exact (h.held k).trans (exists_congr fun u => (hHolds u k).symm)

theorem Placed.leave (h : p.Placed) (hRole : p.role t = .leaving) :
    Placed ({ p with workers := p.workers.erase t }.turn t .outside) := by
  refine h.swap (by rw [hRole]; rfl) rfl (h.nodup.erase t) fun u => ?_
  rw [h.nodup.mem_erase_iff]
  by_cases hut : u = t
  · rw [hut, turn_self]
    simp
  · rw [turn_other hut, h.worker u]
    simp [hut]

theorem Placed.come (h : p.Placed) (hRole : p.role t = .outside) :
    Placed ({ p with workers := p.workers ++ [t] }.turn t .free) := by
  have hNot : t ∉ p.workers := fun ht => (h.worker t).mp ht hRole
  refine h.swap (by rw [hRole]; rfl) rfl ?_ fun u => ?_
  · exact List.nodup_append.mpr ⟨h.nodup, List.pairwise_singleton _ t, fun u hu v hv hEq =>
      hNot (List.mem_singleton.mp hv ▸ hEq ▸ hu)⟩
  · rw [List.mem_append, List.mem_singleton]
    by_cases hut : u = t
    · rw [hut, turn_self]
      simp
    · rw [turn_other hut, h.worker u]
      simp [hut]

theorem Placed.goOn (h : p.Placed) {clocked returned : κ → Prop}
    (hIn : p.role t ≠ .outside) (hOut : r ≠ .outside)
    (hTask : ∀ k, r.task = some k → (p.role t).task = some k)
    (hEarly : ∀ k, r.Early k → (p.role t).Early k)
    (hClocked : ∀ k, clocked k → r.Runs k ∨ p.clocked k ∧ ¬ (p.role t).Runs k)
    (hLate : ∀ k, r.Late k → returned k) (hReturned : ∀ k, p.returned k → returned k)
    (hHolds : r.holds = (p.role t).holds) :
    Placed ({ p with clocked := clocked, returned := returned }.turn t r) := by
  refine h.turn hIn hOut (List.Sublist.refl _) (fun k hk => Or.inl (hTask k hk))
    (fun k hk => Or.inl (hEarly k hk)) hClocked hLate hReturned h.running (fun k => ?_)
    fun k hk => Or.inl (hHolds.trans hk)
  rw [hHolds]
  refine ⟨fun hk => ?_, ?_⟩
  · by_cases hHeld : (p.role t).holds = some k
    · exact Or.inl hHeld
    · exact Or.inr ⟨hk, hHeld⟩
  · rintro (hk | hk)
    · exact (h.held k).mpr ⟨t, hk⟩
    · exact hk.1

end Turns

variable {p' : Pool τ κ}

theorem Placed.move [DecidableEq τ] [DecidableEq κ] (h : p.Placed) (hMove : Move limit p p') :
    p'.Placed := by
  cases hMove with
  | quiet queue clocked returned hQueue hClocked hReturned =>
    exact h.quiet hQueue hClocked hReturned
  | submit k hQueue hTask hAbandoned => exact h.submit hQueue hTask hAbandoned
  | take t k rest hRole hQueue =>
    have hNodup := h.queue
    rw [hQueue, List.nodup_cons] at hNodup
    have hHead : k ∈ p.queue := hQueue ▸ List.mem_cons_self
    refine h.turn (by rw [hRole]; nofun) nofun (hQueue ▸ List.sublist_cons_self k rest)
      (fun i hi => ?_) (fun i hi => ?_) (fun i hi => Or.inr ⟨hi, by simp [hRole, Role.Runs]⟩)
      (by simp [Role.Late]) (fun _ => id) h.running (by simp [hRole, Role.holds])
      (by simp [hRole, Role.holds])
    · obtain rfl : k = i := Option.some.inj hi
      exact Or.inr ⟨hHead, hNodup.1⟩
    · obtain rfl : k = i := by simpa [Role.Early] using hi
      exact Or.inr hHead
  | skip t k hRole =>
    exact h.goOn (by rw [hRole]; nofun) nofun nofun (by simp [Role.Early])
      (fun i hi => Or.inr ⟨hi, by simp [hRole, Role.Runs]⟩) (by simp [Role.Late]) (fun _ => id)
      (by rw [hRole]; rfl)
  | clock t k clocked hRole hClocked =>
    refine h.goOn (by rw [hRole]; nofun) nofun (fun i hi => by rw [hRole]; exact hi)
      (by simp [hRole, Role.Early]) (fun i hi => ?_) (by simp [Role.Late]) (fun _ => id)
      (by rw [hRole]; rfl)
    rcases hClocked i hi with hi | rfl
    · exact Or.inr ⟨hi, by simp [hRole, Role.Runs]⟩
    · exact Or.inl (Or.inl rfl)
  | register t k hRole =>
    have hNot : k ∉ p.running := by
      intro hMem
      obtain ⟨u, hu⟩ := (h.held k).mp hMem
      obtain rfl : u = t := h.unique u t k (holds_task hu) (by rw [hRole]; rfl)
      rw [hRole] at hu
      cases hu
    rw [if_neg hNot]
    refine h.turn (by rw [hRole]; nofun) nofun (List.Sublist.refl _)
      (fun i hi => Or.inl (by rw [hRole]; exact hi)) (fun i hi => Or.inl ?_)
      (fun i hi => ?_) (by simp [Role.Late]) (fun _ => id) ?_ (fun i => ?_)
      (by simp [hRole, Role.holds])
    · obtain rfl : k = i := by simpa [Role.Early] using hi
      exact Or.inr (Or.inl hRole)
    · by_cases hik : i = k
      · exact Or.inl (Or.inr (Or.inl (by rw [hik])))
      · exact Or.inr ⟨hi, by simp [hRole, Role.Runs, Ne.symm hik]⟩
    · exact List.nodup_append.mpr ⟨h.running, List.pairwise_singleton _ k,
        fun i hi j hj hEq => hNot (List.mem_singleton.mp hj ▸ hEq ▸ hi)⟩
    · rw [List.mem_append, List.mem_singleton, hRole]
      simp [Role.holds, or_comm, eq_comm]
  | serve t k hRole =>
    refine h.goOn (by rw [hRole]; nofun) nofun (fun i hi => by rw [hRole]; exact hi)
      (by simp [Role.Early]) (fun i hi => ?_) (by simp [Role.Late]) (fun _ => id)
      (by rw [hRole]; rfl)
    by_cases hik : i = k
    · exact Or.inl (Or.inr (Or.inr (Or.inl (by rw [hik]))))
    · exact Or.inr ⟨hi, by simp [hRole, Role.Runs, Ne.symm hik]⟩
  | settle t k returned hRole hReturned hSelf =>
    refine h.goOn (by rw [hRole]; nofun) nofun (fun i hi => by rw [hRole]; exact hi)
      (by simp [Role.Early]) (fun i hi => ?_) (fun i hi => ?_) hReturned (by rw [hRole]; rfl)
    · by_cases hik : i = k
      · exact Or.inl (Or.inr (Or.inr (Or.inr (by rw [hik]))))
      · exact Or.inr ⟨hi, by simp [hRole, Role.Runs, Ne.symm hik]⟩
    · obtain rfl : k = i := by simpa [Role.Late] using hi
      exact hSelf
  | finish t k hRole hClock =>
    refine h.goOn (by rw [hRole]; nofun) nofun (fun i hi => by rw [hRole]; exact hi)
      (by simp [Role.Early]) (fun i hi => Or.inr ⟨hi, ?_⟩) (fun i hi => ?_) (fun _ => id)
      (by rw [hRole]; rfl)
    · have hik : i ≠ k := fun hik => hClock (hik ▸ hi)
      simp [hRole, Role.Runs, Ne.symm hik]
    · obtain rfl : k = i := by simpa [Role.Late] using hi
      exact h.late t k (Or.inl hRole)
  | unregister t k hRole =>
    suffices hTurn : Placed ({ p with running := p.running.erase k }.turn t (.retiring k)) from
      hTurn.counted _
    refine h.turn (by rw [hRole]; nofun) nofun (List.Sublist.refl _)
      (fun i hi => Or.inl (by rw [hRole]; exact hi)) (by simp [Role.Early])
      (fun i hi => Or.inr ⟨hi, by simp [hRole, Role.Runs]⟩) (fun i hi => ?_) (fun _ => id)
      (h.running.erase k) (fun i => ?_) (fun i hi => Or.inr ?_)
    · obtain rfl : k = i := by simpa [Role.Late] using hi
      exact h.late t k (Or.inr (Or.inl hRole))
    · rw [h.running.mem_erase_iff, hRole]
      simp [Role.holds, and_comm, eq_comm]
    · rw [hRole] at hi
      obtain rfl : k = i := Option.some.inj hi
      exact h.late t k (Or.inr (Or.inl hRole))
  | retire t k hRole =>
    refine h.goOn (by rw [hRole]; nofun) (by split <;> nofun) (fun i hi => ?_) (fun i hi => ?_)
      (fun i hi => Or.inr ⟨hi, by simp [hRole, Role.Runs]⟩) (fun i hi => ?_) (fun _ => id)
      (by rw [hRole]; split <;> rfl)
    · split at hi <;> cases hi
    · split at hi <;> simp [Role.Early] at hi
    · split at hi <;> simp [Role.Late] at hi
  | leave t hRole => exact h.leave hRole
  | replace t u k hRole hNew hOnce hRoom => exact ((h.abandon hRole).come hNew).counted _

/-! ## The counter -/

theorem countP_change [DecidableEq τ] {f g : τ → Bool} {l : List τ} (hMem : t ∈ l)
    (hNodup : l.Nodup) (hOther : ∀ u, u ≠ t → g u = f u) :
    l.countP g + (f t).toNat = l.countP f + (g t).toNat := by
  have hPerm := List.perm_cons_erase hMem
  have hRest : (l.erase t).countP g = (l.erase t).countP f := by
    refine List.countP_congr fun u hu => ?_
    rw [hOther u (hNodup.mem_erase_iff.mp hu).1]
  have hCount : ∀ h : τ → Bool, l.countP h = (l.erase t).countP h + (h t).toNat := by
    intro h
    rw [hPerm.countP_eq, List.countP_cons]
    cases h t <;> rfl
  rw [hCount g, hCount f, hRest]
  omega

/-- A task that is given up while a worker holds it changes nothing for the workers that have
left their tasks behind. -/
theorem leaves_abandon [DecidableEq κ] (h : p.Placed) (hHolds : (p.role t).holds = some k) (u : τ) :
    (p.role u).leaves (Function.update p.abandoned k true) = p.leaves u := by
  rw [Pool.leaves]
  cases hAt : p.role u with
  | retiring i =>
    refine Function.update_of_ne (fun hik => ?_) ..
    obtain rfl : u = t := h.unique u t k (by rw [hAt, hik]; rfl) (holds_task hHolds)
    rw [hAt] at hHolds
    cases hHolds
  | outside | free | taken i | registering i | starting i | serving i | settling i | finishing i
  | leaving => rfl

section Counts

variable [DecidableEq τ] {limit : Nat} {p : Pool τ κ} {t : τ} {r : Role κ}

/-- A worker changes its role; what that does to the counts is seen at the worker alone. -/
theorem Balanced.turn (h : Balanced limit p) (hPlaced : p.Placed) (hIn : p.role t ≠ .outside)
    {queue running : List κ} {clocked returned : κ → Prop} {surplus : Int}
    (hSurplus : surplus = running.countP p.abandoned) (hRoom : surplus ≤ limit)
    (hHeld : surplus + (p.held t).toNat = p.surplus + (r.holds.any p.abandoned).toNat)
    (hLeaves : surplus + (r.leaves p.abandoned).toNat = p.surplus + (p.leaves t).toNat) :
    Balanced limit ({ p with
      queue := queue, running := running, clocked := clocked, returned := returned,
      surplus := surplus }.turn t r) := by
  have hMem : t ∈ p.workers := (hPlaced.worker t).mpr hIn
  have hCount := countP_change (f := p.held) (g := (p.turn t r).held) hMem hPlaced.nodup
    fun u hu => by rw [Pool.held, turn_other hu]; rfl
  have hCountLeaves := countP_change (f := p.leaves) (g := (p.turn t r).leaves) hMem hPlaced.nodup
    fun u hu => by rw [Pool.leaves, turn_other hu]; rfl
  have hSelf : (p.turn t r).held t = r.holds.any p.abandoned := by rw [Pool.held, turn_self]; rfl
  have hSelfLeaves : (p.turn t r).leaves t = r.leaves p.abandoned := by
    rw [Pool.leaves, turn_self]
    rfl
  rw [hSelf] at hCount
  rw [hSelfLeaves] at hCountLeaves
  have hOld := h.held
  have hWorkers := h.workers
  refine ⟨hSurplus, hRoom, ?_, ?_⟩
  · change surplus = ((p.workers.countP (p.turn t r).held : Nat) : Int)
    omega
  · change (p.workers.length : Int) = limit + surplus + (p.workers.countP (p.turn t r).leaves : Nat)
    omega

theorem Balanced.goOn (h : Balanced limit p) (hPlaced : p.Placed) (hIn : p.role t ≠ .outside)
    {queue : List κ} {clocked returned : κ → Prop}
    (hHolds : r.holds.any p.abandoned = p.held t) (hLeaves : r.leaves p.abandoned = p.leaves t) :
    Balanced limit ({ p with queue := queue, clocked := clocked, returned := returned }.turn t r) :=
  h.turn hPlaced hIn h.surplus h.room (by rw [hHolds]) (by rw [hLeaves])

theorem Balanced.leave (h : Balanced limit p) (hPlaced : p.Placed) (hRole : p.role t = .leaving) :
    Balanced limit ({ p with workers := p.workers.erase t }.turn t .outside) := by
  have hMem : t ∈ p.workers := (hPlaced.worker t).mpr (by rw [hRole]; nofun)
  have hCount : ∀ f g : τ → Bool, (∀ u, u ≠ t → g u = f u) →
      p.workers.countP f = (p.workers.erase t).countP g + (f t).toNat := by
    intro f g hSame
    rw [(List.perm_cons_erase hMem).countP_eq, List.countP_cons]
    have hRest : (p.workers.erase t).countP f = (p.workers.erase t).countP g :=
      List.countP_congr fun u hu => by rw [hSame u (hPlaced.nodup.mem_erase_iff.mp hu).1]
    rw [hRest]
    cases f t <;> rfl
  have hHeld := hCount p.held (p.turn t .outside).held
    fun u hu => by rw [Pool.held, turn_other hu]; rfl
  have hLeaves := hCount p.leaves (p.turn t .outside).leaves
    fun u hu => by rw [Pool.leaves, turn_other hu]; rfl
  have hSelf : p.held t = false := by rw [Pool.held, hRole]; rfl
  have hSelfLeaves : p.leaves t = true := by rw [Pool.leaves, hRole]; rfl
  have hLength := List.length_erase_of_mem hMem
  have hPos := List.length_pos_of_mem hMem
  have hOld := h.held
  have hWorkers := h.workers
  rw [hSelf, Bool.toNat_false] at hHeld
  rw [hSelfLeaves, Bool.toNat_true] at hLeaves
  refine ⟨h.surplus, h.room, ?_, ?_⟩
  · change p.surplus = (((p.workers.erase t).countP (p.turn t .outside).held : Nat) : Int)
    omega
  · change ((p.workers.erase t).length : Int) =
      limit + p.surplus + ((p.workers.erase t).countP (p.turn t .outside).leaves : Nat)
    omega

theorem Balanced.replace [DecidableEq κ] {u : τ} {k : κ} (h : Balanced limit p)
    (hPlaced : p.Placed) (hRole : p.role t = .serving k ∨ p.role t = .settling k)
    (hNew : p.role u = .outside) (hOnce : p.abandoned k = false) (hRoom : p.surplus < limit) :
    Balanced limit ({ p with
      abandoned := Function.update p.abandoned k true
      surplus := p.surplus + 1
      workers := p.workers ++ [u] }.turn u .free) := by
  have hHolds : (p.role t).holds = some k := by
    rcases hRole with hRole | hRole <;> rw [hRole] <;> rfl
  have hIn : p.role t ≠ .outside := by
    rcases hRole with hRole | hRole <;> rw [hRole] <;> nofun
  have hMem : t ∈ p.workers := (hPlaced.worker t).mpr hIn
  have hRunning : k ∈ p.running := (hPlaced.held k).mpr ⟨t, hHolds⟩
  have hNotU : ∀ v ∈ p.workers, v ≠ u := fun v hv hvu => (hPlaced.worker v).mp hv (hvu ▸ hNew)
  let p' := { p with
      abandoned := Function.update p.abandoned k true
      surplus := p.surplus + 1
      workers := p.workers ++ [u] }.turn u .free
  -- the tasks: only `k` becomes abandoned
  have hTasks := countP_change (f := p.abandoned) (g := Function.update p.abandoned k true)
    hRunning hPlaced.running fun i hi => Function.update_of_ne hi ..
  rw [hOnce, Function.update_self] at hTasks
  -- the workers: `t` holds `k`, no other worker has it
  have hOthers : ∀ v i, v ≠ t → (p.role v).task = some i →
      Function.update p.abandoned k true i = p.abandoned i := by
    intro v i hv hi
    refine Function.update_of_ne (fun hik => hv ?_) ..
    exact hPlaced.unique v t k (hik ▸ hi) (holds_task hHolds)
  have hHeldNow : ∀ v ∈ p.workers, p'.held v =
      (p.role v).holds.any (Function.update p.abandoned k true) := fun v hv => by
    rw [Pool.held, turn_other (hNotU v hv)]
    rfl
  have hLeavesNow : ∀ v ∈ p.workers, p'.leaves v = p.leaves v := fun v hv => by
    rw [Pool.leaves, turn_other (hNotU v hv)]
    exact leaves_abandon hPlaced hHolds v
  have hHeldOld := countP_change (f := p.held)
    (g := fun v => (p.role v).holds.any (Function.update p.abandoned k true)) hMem hPlaced.nodup
    fun v hv => by
      rw [Pool.held]
      cases hAt : (p.role v).holds with
      | none => rfl
      | some i => exact hOthers v i hv (holds_task hAt)
  have hSelf : p.held t = false := by rw [Pool.held, hHolds]; exact hOnce
  simp only [hSelf, hHolds, Option.any_some, Function.update_self] at hHeldOld
  have hHeldCount : (p.workers ++ [u]).countP p'.held =
      p.workers.countP fun v => (p.role v).holds.any (Function.update p.abandoned k true) := by
    rw [List.countP_append, List.countP_congr fun v hv => by rw [hHeldNow v hv]]
    simp [p', Pool.held, turn_self, Role.holds]
  have hLeavesCount : (p.workers ++ [u]).countP p'.leaves = p.workers.countP p.leaves := by
    rw [List.countP_append, List.countP_congr fun v hv => by rw [hLeavesNow v hv]]
    simp [p', Pool.leaves, turn_self, Role.leaves]
  have hLength : (p.workers ++ [u]).length = p.workers.length + 1 := List.length_append
  have hSurplus := h.surplus
  have hOld := h.held
  have hWorkers := h.workers
  simp only [Bool.toNat_true, Bool.toNat_false] at hTasks hHeldOld
  refine ⟨?_, ?_, ?_, ?_⟩
  · change p.surplus + 1 = ((p.running.countP (Function.update p.abandoned k true) : Nat) : Int)
    omega
  · change p.surplus + 1 ≤ limit
    omega
  · change p.surplus + 1 = (((p.workers ++ [u]).countP p'.held : Nat) : Int)
    omega
  · change ((p.workers ++ [u]).length : Int) =
      limit + (p.surplus + 1) + ((p.workers ++ [u]).countP p'.leaves : Nat)
    omega

end Counts

theorem Balanced.move [DecidableEq τ] [DecidableEq κ] (h : Balanced limit p) (hPlaced : p.Placed)
    (hMove : Move limit p p') : Balanced limit p' := by
  cases hMove with
  | quiet queue clocked returned hQueue hClocked hReturned =>
    exact ⟨h.surplus, h.room, h.held, h.workers⟩
  | submit k hQueue hTask hAbandoned => exact ⟨h.surplus, h.room, h.held, h.workers⟩
  | take t k rest hRole hQueue =>
    exact h.goOn hPlaced (by rw [hRole]; nofun) (by rw [Pool.held, hRole]; rfl)
      (by rw [Pool.leaves, hRole]; rfl)
  | skip t k hRole =>
    exact h.goOn hPlaced (by rw [hRole]; nofun) (by rw [Pool.held, hRole]; rfl)
      (by rw [Pool.leaves, hRole]; rfl)
  | clock t k clocked hRole hClocked =>
    exact h.goOn hPlaced (by rw [hRole]; nofun) (by rw [Pool.held, hRole]; rfl)
      (by rw [Pool.leaves, hRole]; rfl)
  | register t k hRole =>
    have hOpen : p.abandoned k = false := by
      cases hAbandoned : p.abandoned k with
      | false => rfl
      | true => exact absurd (Or.inr (Or.inl hRole)) ((hPlaced.early k hAbandoned).2 t)
    refine h.turn hPlaced (by rw [hRole]; nofun) ?_ h.room ?_ (by rw [Pool.leaves, hRole]; rfl)
    · rw [h.surplus]
      split
      · rfl
      · simp [hOpen]
    · rw [Pool.held, hRole]
      simp [Role.holds, hOpen]
  | serve t k hRole =>
    exact h.goOn hPlaced (by rw [hRole]; nofun) (by rw [Pool.held, hRole]; rfl)
      (by rw [Pool.leaves, hRole]; rfl)
  | settle t k returned hRole hReturned hSelf =>
    exact h.goOn hPlaced (by rw [hRole]; nofun) (by rw [Pool.held, hRole]; rfl)
      (by rw [Pool.leaves, hRole]; rfl)
  | finish t k hRole hClock =>
    exact h.goOn hPlaced (by rw [hRole]; nofun) (by rw [Pool.held, hRole]; rfl)
      (by rw [Pool.leaves, hRole]; rfl)
  | unregister t k hRole =>
    have hMem : k ∈ p.running := (hPlaced.held k).mpr ⟨t, by rw [hRole]; rfl⟩
    have hCount : p.running.countP p.abandoned =
        (p.running.erase k).countP p.abandoned + (p.abandoned k).toNat := by
      rw [(List.perm_cons_erase hMem).countP_eq, List.countP_cons]
      cases p.abandoned k <;> rfl
    have hHeld : p.held t = p.abandoned k := by rw [Pool.held, hRole]; rfl
    have hLeaves : p.leaves t = false := by rw [Pool.leaves, hRole]; rfl
    have hSurplus := h.surplus
    have hRoom := h.room
    have hOld := h.held
    refine h.turn hPlaced (by rw [hRole]; nofun) ?_ ?_ ?_ ?_
    · cases hAbandoned : p.abandoned k <;> simp [hAbandoned] at hCount ⊢ <;> omega
    · split <;> omega
    · rw [hHeld]
      cases p.abandoned k <;> simp [Role.holds]
    · rw [hLeaves]
      change _ + ((p.abandoned k).toNat : Int) = _
      cases p.abandoned k <;> simp
  | retire t k hRole =>
    have hHeld : p.held t = false := by rw [Pool.held, hRole]; rfl
    have hLeaves : p.leaves t = p.abandoned k := by rw [Pool.leaves, hRole]; rfl
    refine h.goOn hPlaced (by rw [hRole]; nofun) ?_ ?_
    · rw [hHeld]
      split <;> rfl
    · rw [hLeaves]
      cases hAbandoned : p.abandoned k <;> rfl
  | leave t hRole => exact h.leave hPlaced hRole
  | replace t u k hRole hNew hOnce hRoom => exact h.replace hPlaced hRole hNew hOnce hRoom

/-! ## What holds of a pool -/

/-- The invariant of a pool, for any limit. -/
structure Sound (limit : Nat) (p : Pool τ κ) : Prop where
  placed : p.Placed
  balanced : p.Balanced limit

theorem Sound.move [DecidableEq τ] [DecidableEq κ] (h : p.Sound limit) (hMove : Move limit p p') :
    p'.Sound limit :=
  ⟨h.placed.move hMove, h.balanced.move h.placed hMove⟩

section Facts

variable {limit : Nat} {p p' : Pool τ κ} {t : τ}

theorem not_leaves_of_held (h : p.held t = true) : p.leaves t = false := by
  rw [Pool.held] at h
  rw [Pool.leaves]
  cases hAt : p.role t with
  | outside | free | taken i | registering i | retiring i | leaving =>
    rw [hAt] at h
    cases h
  | starting i | serving i | settling i | finishing i => rfl

/-- The members of a list that have one of two properties that exclude each other, and the
rest. -/
theorem length_eq_of_disjoint {f g : τ → Bool} (hDisjoint : ∀ t, f t = true → g t = false)
    (l : List τ) :
    l.length = l.countP f + l.countP g + l.countP fun t => !f t && !g t := by
  induction l with
  | nil => rfl
  | cons t l ih =>
    rw [List.length_cons, List.countP_cons, List.countP_cons, List.countP_cons, ih]
    have hOnce := hDisjoint t
    cases hf : f t
    · cases hg : g t <;> simp <;> omega
    · rw [hOnce hf]
      simp
      omega

theorem Sound.capacity (h : p.Sound limit) :
    p.workers.countP (fun t => !p.held t && !p.leaves t) = limit := by
  have hLength := length_eq_of_disjoint (f := p.held) (g := p.leaves)
    (fun _ => not_leaves_of_held) p.workers
  have hHeld := h.balanced.held
  have hWorkers := h.balanced.workers
  omega

theorem Sound.surplus_nonneg (h : p.Sound limit) : 0 ≤ p.surplus := by
  rw [h.balanced.surplus]
  exact Int.natCast_nonneg _

theorem Sound.holder (h : p.Sound limit) {k : κ} (hk : k ∈ p.running) :
    ∃ t ∈ p.workers, (p.role t).holds = some k ∧ ∀ u, (p.role u).holds = some k → u = t := by
  obtain ⟨t, ht⟩ := (h.placed.held k).mp hk
  refine ⟨t, (h.placed.worker t).mpr fun hOut => ?_, ht,
    fun u hu => h.placed.unique u t k (holds_task hu) (holds_task ht)⟩
  rw [hOut] at ht
  cases ht

variable [DecidableEq τ] [DecidableEq κ]

structure Keeps (p p' : Pool τ κ) (t : τ) : Prop where
  leaves : p'.leaves t = p.leaves t
  stays : t ∈ p.workers → t ∈ p'.workers
  finishing : ∀ k, p.role t = .finishing k → p'.role t = .finishing k

omit [DecidableEq κ] in
theorem keeps_turn {u : τ} {r : Role κ} (hRole : p'.role = Function.update p.role u r)
    (hAbandoned : p'.abandoned = p.abandoned) (hWorkers : p'.workers = p.workers)
    (hSelf : t = u → r.leaves p.abandoned = p.leaves t ∧ ∀ k, p.role t ≠ .finishing k) :
    Keeps p p' t := by
  by_cases htu : t = u
  · obtain ⟨hLeaves, hNot⟩ := hSelf htu
    refine ⟨?_, fun ht => hWorkers ▸ ht, fun k hk => absurd hk (hNot k)⟩
    rw [← hLeaves, Pool.leaves, hAbandoned, hRole, htu, Function.update_self]
  · refine ⟨?_, fun ht => hWorkers ▸ ht, fun k hk => ?_⟩
    · rw [Pool.leaves, Pool.leaves, hAbandoned, hRole, Function.update_of_ne htu]
    · rw [hRole, Function.update_of_ne htu, hk]

theorem Move.worker (h : p.Placed) (hMove : Move limit p p') (t : τ) :
    Keeps p p' t ∨
    (∃ k, p.role t = .finishing k ∧ p'.role t = .retiring k ∧ p'.leaves t = p.abandoned k ∧
      (t ∈ p.workers → t ∈ p'.workers)) ∨
    (p.role t = .leaving ∧ t ∉ p'.workers) := by
  cases hMove with
  | quiet queue clocked returned hQueue hClocked hReturned => exact Or.inl ⟨rfl, id, fun _ => id⟩
  | submit k hQueue hTask hAbandoned => exact Or.inl ⟨rfl, id, fun _ => id⟩
  | take u k rest hRole hQueue =>
    refine Or.inl (keeps_turn rfl rfl rfl ?_)
    rintro rfl
    exact ⟨by rw [Pool.leaves, hRole]; rfl, by rw [hRole]; nofun⟩
  | skip u k hRole =>
    refine Or.inl (keeps_turn rfl rfl rfl ?_)
    rintro rfl
    exact ⟨by rw [Pool.leaves, hRole]; rfl, by rw [hRole]; nofun⟩
  | clock u k clocked hRole hClocked =>
    refine Or.inl (keeps_turn rfl rfl rfl ?_)
    rintro rfl
    exact ⟨by rw [Pool.leaves, hRole]; rfl, by rw [hRole]; nofun⟩
  | register u k hRole =>
    refine Or.inl (keeps_turn rfl rfl rfl ?_)
    rintro rfl
    exact ⟨by rw [Pool.leaves, hRole]; rfl, by rw [hRole]; nofun⟩
  | serve u k hRole =>
    refine Or.inl (keeps_turn rfl rfl rfl ?_)
    rintro rfl
    exact ⟨by rw [Pool.leaves, hRole]; rfl, by rw [hRole]; nofun⟩
  | settle u k returned hRole hReturned hSelf =>
    refine Or.inl (keeps_turn rfl rfl rfl ?_)
    rintro rfl
    exact ⟨by rw [Pool.leaves, hRole]; rfl, by rw [hRole]; nofun⟩
  | finish u k hRole hClock =>
    refine Or.inl (keeps_turn rfl rfl rfl ?_)
    rintro rfl
    exact ⟨by rw [Pool.leaves, hRole]; rfl, by rw [hRole]; nofun⟩
  | retire u k hRole =>
    refine Or.inl (keeps_turn rfl rfl rfl ?_)
    rintro rfl
    refine ⟨?_, by rw [hRole]; nofun⟩
    rw [Pool.leaves, hRole]
    cases hAbandoned : p.abandoned k
    · exact hAbandoned.symm
    · exact hAbandoned.symm
  | unregister u k hRole =>
    by_cases htu : t = u
    · subst htu
      refine Or.inr (Or.inl ⟨k, hRole, turn_self .., ?_, id⟩)
      rw [Pool.leaves, turn_self]
      rfl
    · exact Or.inl (keeps_turn rfl rfl rfl fun h => absurd h htu)
  | leave u hRole =>
    by_cases htu : t = u
    · subst htu
      exact Or.inr (Or.inr ⟨hRole, fun ht => (h.nodup.mem_erase_iff.mp ht).1 rfl⟩)
    · refine Or.inl ⟨?_, fun ht => h.nodup.mem_erase_iff.mpr ⟨htu, ht⟩, fun i hi => ?_⟩
      · rw [Pool.leaves, turn_other htu]
        rfl
      · rw [turn_other htu]
        exact hi
  | replace v u k hRole hNew hOnce hRoom =>
    have hHolds : (p.role v).holds = some k := by
      rcases hRole with hRole | hRole <;> rw [hRole] <;> rfl
    refine Or.inl ⟨?_, fun ht => List.mem_append_left _ ht, fun i hi => ?_⟩
    · by_cases htu : t = u
      · subst htu
        rw [Pool.leaves, Pool.leaves, turn_self, hNew]
        rfl
      · rw [Pool.leaves, turn_other htu]
        exact leaves_abandon h hHolds t
    · have htu : t ≠ u := fun htu => by rw [htu, hNew] at hi; cases hi
      rw [turn_other htu]
      exact hi

theorem Move.leaves_iff (h : p.Placed) (hMove : Move limit p p') (hNot : p.leaves t = false) :
    p'.leaves t = true ↔
      ∃ k, p.role t = .finishing k ∧ p'.role t = .retiring k ∧ p.abandoned k = true := by
  rcases hMove.worker h t with hKeeps | ⟨k, hRole, hRole', hLeaves, -⟩ | ⟨hRole, -⟩
  · rw [hKeeps.leaves, hNot]
    refine ⟨fun hNo => (by cases hNo), ?_⟩
    rintro ⟨k, hk, hk', -⟩
    rw [hKeeps.finishing k hk] at hk'
    cases hk'
  · rw [hLeaves]
    refine ⟨fun hAbandoned => ⟨k, hRole, hRole', hAbandoned⟩, ?_⟩
    rintro ⟨i, hi, -, hAbandoned⟩
    rw [hRole] at hi
    cases hi
    exact hAbandoned
  · rw [Pool.leaves, hRole] at hNot
    cases hNot

theorem Move.leaves_stays (h : p.Placed) (hMove : Move limit p p') (hLeaves : p.leaves t = true)
    (hIn : t ∈ p'.workers) : p'.leaves t = true := by
  rcases hMove.worker h t with hKeeps | ⟨k, hRole, -, -, -⟩ | ⟨-, hGone⟩
  · rw [hKeeps.leaves, hLeaves]
  · rw [Pool.leaves, hRole] at hLeaves
    cases hLeaves
  · exact absurd hIn hGone

theorem Move.leaves_of_gone (h : p.Placed) (hMove : Move limit p p') (hIn : t ∈ p.workers)
    (hGone : t ∉ p'.workers) : p.leaves t = true := by
  rcases hMove.worker h t with hKeeps | ⟨k, -, -, -, hStays⟩ | ⟨hRole, -⟩
  · exact absurd (hKeeps.stays hIn) hGone
  · exact absurd (hStays hIn) hGone
  · rw [Pool.leaves, hRole]
    rfl

end Facts

end Pool

end WorkerPool
