import Mathlib.Algebra.Order.Group.Int
import Sniff4Hound.Library.StepRun

/-!
# The cached counts of the monitors

`monitors_stats` tests, fills and returns a cache of two fields without a lock, and an edit clears
one of them behind its change. Requests and edits take their steps in any order, each one access to
what they share. The answers are fresh and hold what was edited before as long as the steps do not
cross in three ways (`Careful`, `stats_answered`).
-/

namespace Sniff4Hound.MonitorStats

variable {σ ν : Type}

/-- What `store.monitor_catalog_stats()` gave. Only the counts are in the code: of which catalog
they are, and when it was read. -/
structure Snapshot (ν : Type) where
  counts : ν
  version : Nat
  read : Int

inductive Phase (ν : Type)
  /-- before the look at `value` -/
  | timed
  /-- before the look at `at` -/
  | dating
  | filling
  | holding (snap : Snapshot ν)
  | stamping
  /-- before the last look at `value` -/
  | returning
  | answered (value : Option (Snapshot ν))

/-- A request with its `now`, and the catalog of the last edit that had been answered. -/
structure Request (ν : Type) where
  now : Int
  since : Nat
  phase : Phase ν

/-- An edit that has changed the catalog, or failed; `cleared` behind `_invalidate_monitors_list`. -/
structure Edit where
  version : Nat
  cleared : Bool

/-- The catalog, of which all that there were are kept, by their numbers, and the cache; `cleared` is
the last catalog behind which it was cleared. -/
structure Shared (σ ν : Type) where
  past : Nat → σ
  version : Nat
  value : Option (Snapshot ν)
  stamp : Int
  cleared : Nat

/-- `replied` is the last catalog of an answered edit. -/
structure State (σ ν : Type) where
  shared : Shared σ ν
  clock : Int
  requests : List (Request ν)
  edits : List Edit
  replied : Nat

def initial (ν : Type) (catalog : σ) (clock : Int) : State σ ν :=
  ⟨⟨fun _ => catalog, 0, none, 0, 0⟩, clock, [], [], 0⟩

/-- A step of a request or of an edit. -/
inductive Label (σ : Type)
  | tick (clock : Int)
  | arrive
  | move (i : Nat)
  | edit (catalog : Option σ)
  | clear (j : Nat)
  | reply (j : Nat)

def CACHE_LIFETIME : Int := 5000000000

/-- The next step of a request in `monitors_stats`. -/
def moveRequest (stats : σ → ν) (s : Shared σ ν) (clock : Int) (r : Request ν) :
    Option (Shared σ ν × Request ν) :=
  match r.phase with
  | .timed => some (s, { r with phase := if s.value.isNone then .filling else .dating })
  | .dating =>
    some (s, { r with phase := if CACHE_LIFETIME < r.now - s.stamp then .filling else .returning })
  | .filling =>
    some (s, { r with phase := .holding ⟨stats (s.past s.version), s.version, clock⟩ })
  | .holding snap => some ({ s with value := some snap }, { r with phase := .stamping })
  | .stamping => some ({ s with stamp := r.now }, { r with phase := .returning })
  | .returning => some (s, { r with phase := .answered s.value })
  | .answered _ => none

def step (stats : σ → ν) (s : State σ ν) : Label σ → Option (State σ ν)
  | .tick clock => if s.clock ≤ clock then some { s with clock := clock } else none
  | .arrive => some { s with requests := s.requests ++ [⟨s.clock, s.replied, .timed⟩] }
  | .move i =>
    s.requests[i]?.bind fun r => (moveRequest stats s.shared s.clock r).map fun (shared, r') =>
      { s with shared := shared, requests := s.requests.set i r' }
  | .edit none => some { s with edits := s.edits ++ [⟨s.shared.version, false⟩] }
  | .edit (some catalog) =>
    let next := s.shared.version + 1
    some { s with
      shared := { s.shared with
        past := fun n => if n = next then catalog else s.shared.past n
        version := next }
      edits := s.edits ++ [⟨next, false⟩] }
  | .clear j =>
    s.edits[j]?.map fun e =>
      { s with
        shared := { s.shared with value := none, cleared := max s.shared.cleared e.version }
        edits := s.edits.set j { e with cleared := true } }
  | .reply j =>
    s.edits[j]?.bind fun e =>
      if e.cleared then some { s with replied := max s.replied e.version } else none

/-! ## Careful steps -/

def Relies (s : Shared σ ν) (r : Request ν) : Prop :=
  match r.phase with
  | .dating => r.now - s.stamp ≤ CACHE_LIFETIME
  | .stamping | .returning => True
  | _ => False

instance (s : Shared σ ν) (r : Request ν) : Decidable (Relies s r) := by
  unfold Relies
  split <;> infer_instance

/-- Counts are not stored under a later time than they were read at, nor when the cache has been
cleared behind a later catalog; a time is not stored over a later one, nor over counts that were
read before it. -/
def CarefulMove (s : Shared σ ν) (r : Request ν) : Prop :=
  match r.phase with
  | .holding snap => s.stamp ≤ snap.read ∧ s.cleared ≤ snap.version
  | .stamping => s.stamp ≤ r.now ∧ ∀ snap ∈ s.value, r.now ≤ snap.read
  | _ => True

instance (s : Shared σ ν) (r : Request ν) : Decidable (CarefulMove s r) := by
  unfold CarefulMove
  split <;> infer_instance

def Careful (s : State σ ν) : Label σ → Prop
  | .move i => ∀ r ∈ s.requests[i]?, CarefulMove s.shared r
  | .clear _ => ∀ r ∈ s.requests, ¬ Relies s.shared r
  | _ => True

instance (s : State σ ν) (label : Label σ) : Decidable (Careful s label) := by
  cases label <;> unfold Careful <;> infer_instance

/-! ## The invariant -/

structure Snapshot.Of (stats : σ → ν) (s : Shared σ ν) (snap : Snapshot ν) : Prop where
  counts : snap.counts = stats (s.past snap.version)
  version : snap.version ≤ s.version

/-- The counts are of a catalog that was current in the lifetime of the cache before the request,
and that holds the edits answered before it. -/
def Fresh (stats : σ → ν) (s : Shared σ ν) (r : Request ν) (value : Option (Snapshot ν)) : Prop :=
  ∃ snap, value = some snap ∧ snap.Of stats s ∧ r.now - CACHE_LIFETIME ≤ snap.read ∧
    r.since ≤ snap.version

structure RequestOk (stats : σ → ν) (s : Shared σ ν) (r : Request ν) : Prop where
  since : r.since ≤ s.cleared
  relies : Relies s r → s.value ≠ none
  holding : ∀ snap, r.phase = .holding snap → snap.Of stats s
  returning : r.phase = .returning → r.now - CACHE_LIFETIME ≤ s.stamp
  answered : ∀ value, r.phase = .answered value → Fresh stats s r value

def ValueOk (stats : σ → ν) (s : Shared σ ν) : Prop :=
  ∀ snap, s.value = some snap → snap.Of stats s ∧ s.stamp ≤ snap.read ∧ s.cleared ≤ snap.version

structure Sound (stats : σ → ν) (s : State σ ν) : Prop where
  value : ValueOk stats s.shared
  requests : ∀ r ∈ s.requests, RequestOk stats s.shared r
  edits : ∀ e ∈ s.edits,
    e.version ≤ s.shared.version ∧ (e.cleared = true → e.version ≤ s.shared.cleared)
  cleared : s.shared.cleared ≤ s.shared.version
  replied : s.replied ≤ s.shared.cleared

variable {stats : σ → ν} {s t : Shared σ ν}

theorem Snapshot.Of.mono {snap : Snapshot ν} (h : snap.Of stats s)
    (hPast : ∀ n ≤ s.version, t.past n = s.past n) (hVersion : s.version ≤ t.version) :
    snap.Of stats t :=
  ⟨by rw [hPast _ h.version, h.counts], h.version.trans hVersion⟩

theorem RequestOk.mono {r : Request ν} (h : RequestOk stats s r)
    (hPast : ∀ n ≤ s.version, t.past n = s.past n) (hVersion : s.version ≤ t.version)
    (hStamp : s.stamp ≤ t.stamp) (hCleared : s.cleared ≤ t.cleared)
    (hValue : Relies t r → t.value ≠ none) : RequestOk stats t r where
  since := h.since.trans hCleared
  relies := hValue
  holding snap hPhase := (h.holding snap hPhase).mono hPast hVersion
  returning hPhase := (h.returning hPhase).trans hStamp
  answered value hPhase := by
    obtain ⟨snap, hValue, hOf, hRest⟩ := h.answered value hPhase
    exact ⟨snap, hValue, hOf.mono hPast hVersion, hRest⟩

/-- One step of a request: what holds of it afterwards, and what it leaves of the shared state. -/
structure Moved (stats : σ → ν) (s t : Shared σ ν) (r' : Request ν) : Prop where
  self : RequestOk stats t r'
  others : ∀ r, RequestOk stats s r → RequestOk stats t r
  value : ValueOk stats t
  version : t.version = s.version
  cleared : t.cleared = s.cleared

theorem moveRequest_moved (hValue : ValueOk stats s) {clock : Int} {r r' : Request ν}
    (hOk : RequestOk stats s r) (hCareful : CarefulMove s r)
    (hMove : moveRequest stats s clock r = some (t, r')) : Moved stats s t r' := by
  rw [moveRequest] at hMove
  cases hPhase : r.phase with
  | timed =>
    rw [hPhase] at hMove
    cases hMove
    refine ⟨⟨hOk.since, ?_, ?_, ?_, ?_⟩, fun _ => id, hValue, rfl, rfl⟩
    all_goals cases hNone : s.value <;> simp [Relies]
  | dating =>
    rw [hPhase] at hMove
    cases hMove
    refine ⟨?_, fun _ => id, hValue, rfl, rfl⟩
    by_cases hOld : CACHE_LIFETIME < r.now - s.stamp
    · rw [if_pos hOld]
      exact ⟨hOk.since, False.elim, nofun, nofun, nofun⟩
    · rw [if_neg hOld]
      have hYoung := Int.not_lt.mp hOld
      refine ⟨hOk.since, fun _ => hOk.relies (by rw [Relies, hPhase]; exact hYoung), nofun,
        fun _ => ?_, nofun⟩
      dsimp only
      omega
  | filling =>
    rw [hPhase] at hMove
    cases hMove
    refine ⟨⟨hOk.since, False.elim, fun snap hSnap => ?_, nofun, nofun⟩, fun _ => id, hValue, rfl,
      rfl⟩
    cases hSnap
    exact ⟨rfl, Nat.le_refl _⟩
  | holding snap =>
    rw [hPhase] at hMove
    cases hMove
    rw [CarefulMove, hPhase] at hCareful
    refine ⟨⟨hOk.since, fun _ => Option.some_ne_none snap, nofun, nofun, nofun⟩, fun _ hOther =>
      hOther.mono (fun _ _ => rfl) (Nat.le_refl _) (Int.le_refl _) (Nat.le_refl _)
        fun _ => Option.some_ne_none snap, ?_, rfl, rfl⟩
    rintro _ ⟨⟩
    have hOf := hOk.holding snap hPhase
    exact ⟨⟨hOf.counts, hOf.version⟩, hCareful⟩
  | stamping =>
    rw [hPhase] at hMove
    cases hMove
    rw [CarefulMove, hPhase] at hCareful
    have hSome : s.value ≠ none := hOk.relies (by rw [Relies, hPhase]; trivial)
    refine ⟨⟨hOk.since, fun _ => hSome, nofun, fun _ => ?_, nofun⟩, fun _ hOther =>
      hOther.mono (fun _ _ => rfl) (Nat.le_refl _) hCareful.1 (Nat.le_refl _) fun _ => hSome,
      fun snap hSnap => ?_, rfl, rfl⟩
    · rw [CACHE_LIFETIME]
      dsimp only
      omega
    · obtain ⟨hOf, -, hCleared⟩ := hValue snap hSnap
      exact ⟨⟨hOf.counts, hOf.version⟩, hCareful.2 snap hSnap, hCleared⟩
  | returning =>
    rw [hPhase] at hMove
    cases hMove
    refine ⟨⟨hOk.since, False.elim, nofun, nofun, ?_⟩, fun _ => id, hValue, rfl, rfl⟩
    rintro _ ⟨⟩
    have hSome : s.value ≠ none := hOk.relies (by rw [Relies, hPhase]; trivial)
    obtain ⟨snap, hSnap⟩ := Option.ne_none_iff_exists'.mp hSome
    obtain ⟨hOf, hStamp, hCleared⟩ := hValue snap hSnap
    exact ⟨snap, hSnap, hOf, (hOk.returning hPhase).trans hStamp, hOk.since.trans hCleared⟩
  | answered value =>
    rw [hPhase] at hMove
    cases hMove

variable {s t : State σ ν}

theorem sound_step (h : Sound stats s) (label : Label σ) (hCareful : Careful s label)
    (hStep : step stats s label = some t) : Sound stats t := by
  cases label with
  | tick clock =>
    rw [step] at hStep
    split at hStep
    · cases hStep
      exact ⟨h.value, h.requests, h.edits, h.cleared, h.replied⟩
    · cases hStep
  | arrive =>
    cases hStep
    refine ⟨h.value, fun r hr => ?_, h.edits, h.cleared, h.replied⟩
    rcases List.mem_append.mp hr with hr | hr
    · exact h.requests r hr
    · rw [List.mem_singleton.mp hr]
      exact ⟨h.replied, False.elim, nofun, nofun, nofun⟩
  | move i =>
    obtain ⟨r, hr, hStep⟩ := Option.bind_eq_some_iff.mp hStep
    obtain ⟨⟨shared, r'⟩, hMove, rfl⟩ := Option.map_eq_some_iff.mp hStep
    have m := moveRequest_moved h.value (h.requests r (List.mem_of_getElem? hr)) (hCareful r hr) hMove
    refine ⟨m.value, fun other hOther => ?_, ?_, ?_, ?_⟩
    · rcases List.mem_or_eq_of_mem_set hOther with hOther | rfl
      · exact m.others other (h.requests other hOther)
      · exact m.self
    · simpa only [m.version, m.cleared] using h.edits
    · simpa only [m.version, m.cleared] using h.cleared
    · simpa only [m.cleared] using h.replied
  | edit catalog =>
    cases catalog with
    | none =>
      cases hStep
      refine ⟨h.value, h.requests, fun e he => ?_, h.cleared, h.replied⟩
      rcases List.mem_append.mp he with he | he
      · exact h.edits e he
      · rw [List.mem_singleton.mp he]
        exact ⟨Nat.le_refl _, nofun⟩
    | some catalog =>
      cases hStep
      have hPast : ∀ n ≤ s.shared.version,
          (if n = s.shared.version + 1 then catalog else s.shared.past n) = s.shared.past n :=
        fun n hn => if_neg (by omega)
      refine ⟨fun snap hSnap => ?_, fun r hr => ?_, fun e he => ?_, h.cleared.trans (Nat.le_succ _),
        h.replied⟩
      · exact ⟨(h.value snap hSnap).1.mono hPast (Nat.le_succ _), (h.value snap hSnap).2⟩
      · exact (h.requests r hr).mono hPast (Nat.le_succ _) (Int.le_refl _) (Nat.le_refl _)
          (h.requests r hr).relies
      · rcases List.mem_append.mp he with he | he
        · exact ⟨(h.edits e he).1.trans (Nat.le_succ _), (h.edits e he).2⟩
        · rw [List.mem_singleton.mp he]
          exact ⟨Nat.le_refl _, nofun⟩
  | clear j =>
    obtain ⟨e, he, rfl⟩ := Option.map_eq_some_iff.mp hStep
    have hEdit := h.edits e (List.mem_of_getElem? he)
    refine ⟨nofun, fun r hr => ?_, fun other hOther => ?_, Nat.max_le.mpr ⟨h.cleared, hEdit.1⟩,
      h.replied.trans (Nat.le_max_left _ _)⟩
    · exact (h.requests r hr).mono (fun _ _ => rfl) (Nat.le_refl _) (Int.le_refl _) (Nat.le_max_left _ _)
        fun hRelies => absurd hRelies (hCareful r hr)
    · rcases List.mem_or_eq_of_mem_set hOther with hOther | rfl
      · exact ⟨(h.edits other hOther).1,
          fun hCleared => ((h.edits other hOther).2 hCleared).trans (Nat.le_max_left _ _)⟩
      · exact ⟨hEdit.1, fun _ => Nat.le_max_right _ _⟩
  | reply j =>
    obtain ⟨e, he, hStep⟩ := Option.bind_eq_some_iff.mp hStep
    split at hStep
    · next hDone =>
      cases hStep
      exact ⟨h.value, h.requests, h.edits, h.cleared,
        Nat.max_le.mpr ⟨h.replied, (h.edits e (List.mem_of_getElem? he)).2 hDone⟩⟩
    · cases hStep

theorem sound_initial (stats : σ → ν) (catalog : σ) (clock : Int) :
    Sound stats (initial ν catalog clock) := ⟨nofun, nofun, nofun, Nat.le_refl _, Nat.le_refl _⟩

/-- In every run of careful steps each answer is fresh. -/
theorem stats_answered (stats : σ → ν) (catalog : σ) (clock : Int) (labels : List (Label σ))
    (hRun : StepRun.run (StepRun.guarded Careful (step stats)) (initial ν catalog clock) labels =
      some s) :
    ∀ r ∈ s.requests, ∀ value, r.phase = .answered value → Fresh stats s.shared r value := by
  have hKept : StepRun.Invariant (StepRun.guarded Careful (step stats)) (Sound stats) := by
    intro s label t h hStep
    obtain ⟨hCareful, hStep⟩ := StepRun.guarded_eq_some.mp hStep
    exact sound_step h label hCareful hStep
  have hSound := hKept.run (sound_initial stats catalog clock) hRun
  exact fun r hr value hPhase => (hSound.requests r hr).answered value hPhase

/-! ## An edit between two looks -/

def filled : List (Label Nat) := .arrive :: List.replicate 5 (.move 0)

theorem stats_answered_filled : ∃ s,
    StepRun.run (StepRun.guarded Careful (step id)) (initial Nat 3 0) filled = some s ∧
      ∀ r ∈ s.requests, ∀ value, r.phase = .answered value → Fresh id s.shared r value :=
  ⟨_, rfl, stats_answered id 3 0 filled rfl⟩

/-- A request finds the cache filled, and an edit clears it before it is returned. -/
theorem cleared_returned : ∃ s,
    StepRun.run (step id) (initial Nat 3 0) (filled ++
      [.arrive, .move 1, .move 1, .edit (some 4), .clear 0, .move 1]) = some s ∧
      ¬ ∀ r ∈ s.requests, ∀ value, r.phase = .answered value → Fresh id s.shared r value := by
  refine ⟨_, rfl, fun h => ?_⟩
  obtain ⟨snap, hSnap, -⟩ := h ⟨0, 0, .answered none⟩ (List.mem_cons_of_mem _ List.mem_cons_self)
    none rfl
  cases hSnap

end Sniff4Hound.MonitorStats
