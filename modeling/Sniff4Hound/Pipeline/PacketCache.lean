import Sniff4Hound.Library.RetainedWindow
import Sniff4Hound.Library.StepRun

/-!
# The packet cache

`packet_pipeline.py`: the bounded queue between the capture threads and the processing
jobs. Each method holds `_cond` from its first line to its last, the wait of `get` apart,
which lets go of it; so a step is one method call, or one half of a `get` that waits. A
wait may end at any time: it was notified, or its timeout is over.

* `cache_conserves`: every accepted packet is taken, evicted or waiting, in order.
-/

namespace Sniff4Hound.Pipeline

open RetainedWindow

variable {α : Type}

structure PacketCache (α : Type) where
  items : List α
  limit : Int
  closed : Bool
  accepted : Nat
  dropped : Nat
  peak : Nat
deriving DecidableEq

/-- `PacketCache.__init__` -/
def PacketCache.new (α : Type) (limit : Int) : PacketCache α where
  items := []
  limit := limit
  closed := false
  accepted := 0
  dropped := 0
  peak := 0

/-- The loop of `put`. `none` is the IndexError of `popleft` on an empty deque. -/
def evictFull (limit : Int) : List α → Nat → Option (List α × Nat)
  | [], dropped => if limit ≤ 0 then none else some ([], dropped)
  | x :: rest, dropped =>
    if limit ≤ (x :: rest).length then evictFull limit rest (dropped + 1)
    else some (x :: rest, dropped)

/-- The loop of `set_limit`. -/
def evictOver (limit : Int) : List α → Nat → Option (List α × Nat)
  | [], dropped => if limit < 0 then none else some ([], dropped)
  | x :: rest, dropped =>
    if limit < (x :: rest).length then evictOver limit rest (dropped + 1)
    else some (x :: rest, dropped)

/-- `put` on a cache that is not closed. -/
def PacketCache.put (c : PacketCache α) (item : α) : Option (PacketCache α) := do
  let (items, dropped) ← evictFull c.limit c.items c.dropped
  let items := items ++ [item]
  return { c with
    items := items
    dropped := dropped
    accepted := c.accepted + 1
    peak := max c.peak items.length }

/-- `get_many`: the batch and what stays. -/
def PacketCache.get_many (c : PacketCache α) (limit : Int) : List α × PacketCache α :=
  (c.items.take limit.toNat, { c with items := c.items.drop limit.toNat })

def PacketCache.set_limit (c : PacketCache α) (limit : Int) : Option (PacketCache α) := do
  let (items, dropped) ← evictOver limit c.items c.dropped
  return { c with limit := limit, items := items, dropped := dropped }

def PacketCache.reset_counters (c : PacketCache α) : PacketCache α :=
  { c with accepted := 0, dropped := 0, peak := c.items.length }

def PacketCache.close (c : PacketCache α) : PacketCache α := { c with closed := true, items := [] }

/-! ## Producers and consumers -/

abbrev Consumer := Nat

/-- The cache, the consumers in the wait of `get`, and two lists that are not in the code:
the items `put` accepted and those the consumers got. -/
structure State (α : Type) where
  cache : PacketCache α
  waiting : List Consumer
  history : List α
  received : List (Consumer × α)
deriving DecidableEq

/-- A call of the cache, or a consumer that wakes. -/
inductive Label (α : Type)
  | put (item : α)
  | get (c : Consumer)
  | wake (c : Consumer)
  | getMany (c : Consumer) (limit : Int)
  | setLimit (limit : Int)
  | resetCounters
  | close
deriving DecidableEq

/-- The end of `get`: the oldest item, or `None`. -/
def State.takeOne (s : State α) (c : Consumer) : State α :=
  match s.cache.items with
  | [] => s
  | x :: rest =>
    { s with cache := { s.cache with items := rest }, received := s.received ++ [(c, x)] }

def step (s : State α) : Label α → Option (State α)
  | .put item =>
    if s.cache.closed then some s
    else do
      let cache ← s.cache.put item
      return { s with cache := cache, history := s.history ++ [item] }
  | .get c =>
    if s.cache.items.isEmpty && !s.cache.closed then
      some { s with waiting := c :: s.waiting }
    else some (s.takeOne c)
  | .wake c =>
    if c ∈ s.waiting then some ({ s with waiting := s.waiting.erase c }.takeOne c) else none
  | .getMany c limit =>
    let (taken, cache) := s.cache.get_many limit
    some { s with cache := cache, received := s.received ++ taken.map fun x => (c, x) }
  | .setLimit limit => do
    let cache ← s.cache.set_limit limit
    return { s with cache := cache }
  | .resetCounters => some { s with cache := s.cache.reset_counters }
  | .close => some { s with cache := s.cache.close }

def initial (α : Type) (limit : Int) : State α := ⟨.new α limit, [], [], []⟩

def run (limit : Int) (ls : List (Label α)) : Option (State α) :=
  StepRun.run step (initial α limit) ls

def State.taken (s : State α) : List α := s.received.map Prod.snd

/-! ## The eviction loops -/

theorem evictFull_retained {history taken : List α} {limit : Int} {items : List α} {dropped lost : Nat}
    {kept : List α × Nat} (h : Retained history taken items lost)
    (hEvict : evictFull limit items dropped = some kept) :
    ∃ n, kept.2 = dropped + n ∧ Retained history taken kept.1 (lost + n) ∧
      (kept.1.length : Int) < limit := by
  induction items generalizing dropped lost with
  | nil =>
    rw [evictFull] at hEvict
    split at hEvict
    · cases hEvict
    · rename_i hLimit
      obtain rfl := Option.some.inj hEvict
      exact ⟨0, rfl, h, Int.not_le.mp hLimit⟩
  | cons x rest ih =>
    rw [evictFull] at hEvict
    split at hEvict
    · obtain ⟨n, hDropped, hKept, hLength⟩ := ih h.evict hEvict
      refine ⟨n + 1, by omega, ?_, hLength⟩
      rwa [Nat.add_right_comm, Nat.add_assoc] at hKept
    · rename_i hLimit
      obtain rfl := Option.some.inj hEvict
      exact ⟨0, rfl, h, Int.not_le.mp hLimit⟩

theorem evictOver_eq (limit : Int) (items : List α) :
    ∀ dropped, evictOver limit items dropped = evictFull (limit + 1) items dropped := by
  induction items with
  | nil =>
    intro dropped
    simp only [evictOver, evictFull, Int.add_one_le_iff]
  | cons x rest ih =>
    intro dropped
    simp only [evictOver, evictFull, ih, Int.add_one_le_iff]

/-! ## What every step keeps -/

/-- Nothing is lost but by eviction, and only the oldest waiting item leaves; `close` may
discard what waits. -/
structure Conserved (s : State α) : Prop where
  limit : 1 ≤ s.cache.limit
  bounded : (s.cache.items.length : Int) ≤ s.cache.limit
  accepted : s.cache.accepted = s.history.length
  retained : ∃ lost, Retained s.history s.taken s.cache.items lost ∧
    (s.cache.closed = false → lost = s.cache.dropped)

def Label.Regular : Label α → Prop
  | .setLimit limit => 1 ≤ limit
  | .resetCounters => False
  | _ => True

instance : (l : Label α) → Decidable l.Regular
  | .setLimit limit => inferInstanceAs (Decidable (1 ≤ limit))
  | .resetCounters => inferInstanceAs (Decidable False)
  | .put _ | .get _ | .wake _ | .getMany _ _ | .close => inferInstanceAs (Decidable True)

theorem conserved_initial {limit : Int} (hLimit : 1 ≤ limit) : Conserved (initial α limit) where
  limit := hLimit
  bounded := by
    change (0 : Int) ≤ limit
    omega
  accepted := rfl
  retained := ⟨0, .nil, fun _ => rfl⟩

variable {s s' : State α}

variable (h : Conserved s)

include h

theorem Conserved.put (hOpen : s.cache.closed = false) {item : α}
    {cache : PacketCache α} (hPut : s.cache.put item = some cache) : Conserved { s with cache := cache, history := s.history ++ [item] } := by
  obtain ⟨lost, hRetained, hLost⟩ := h.retained
  rw [PacketCache.put, Option.bind_eq_bind, Option.bind_eq_some_iff] at hPut
  obtain ⟨kept, hEvict, hCache⟩ := hPut
  obtain rfl := Option.some.inj hCache
  obtain ⟨n, hDropped, hKept, hLength⟩ := evictFull_retained hRetained hEvict
  refine ⟨h.limit, ?_, ?_, lost + n, hKept.accept item, ?_⟩
  · simp only [List.length_append, List.length_singleton]
    omega
  · simp [h.accepted]
  · intro _
    simp only [hDropped, hLost hOpen]

theorem Conserved.takeOne (c : Consumer) : Conserved (s.takeOne c) := by
  rw [State.takeOne]
  split
  · exact h
  · rename_i x rest hItems
    obtain ⟨lost, hRetained, hLost⟩ := h.retained
    have hBounded := h.bounded
    rw [hItems] at hRetained hBounded
    rw [List.length_cons] at hBounded
    refine ⟨h.limit, ?_, h.accepted, lost, ?_, hLost⟩
    · change (rest.length : Int) ≤ s.cache.limit
      omega
    · rw [State.taken, List.map_append]
      exact hRetained.take

theorem Conserved.getMany (c : Consumer) (n : Nat) :
    Conserved { s with
      cache := { s.cache with items := s.cache.items.drop n }
      received := s.received ++ (s.cache.items.take n).map fun x => (c, x) } := by
  obtain ⟨lost, hRetained, hLost⟩ := h.retained
  have hBounded := h.bounded
  rw [← List.take_append_drop n s.cache.items] at hRetained
  refine ⟨h.limit, ?_, h.accepted, lost, ?_, hLost⟩
  · change ((s.cache.items.drop n).length : Int) ≤ s.cache.limit
    rw [List.length_drop]
    omega
  · have hTaken := hRetained.take_append
    rw [State.taken] at hTaken ⊢
    simpa [Function.comp_def] using hTaken

theorem Conserved.setLimit {limit : Int} (hLimit : 1 ≤ limit)
    {cache : PacketCache α} (hSet : s.cache.set_limit limit = some cache) :
    Conserved { s with cache := cache } := by
  obtain ⟨lost, hRetained, hLost⟩ := h.retained
  rw [PacketCache.set_limit, Option.bind_eq_bind, Option.bind_eq_some_iff] at hSet
  obtain ⟨kept, hEvict, hCache⟩ := hSet
  obtain rfl := Option.some.inj hCache
  rw [evictOver_eq] at hEvict
  obtain ⟨n, hDropped, hKept, hLength⟩ := evictFull_retained hRetained hEvict
  refine ⟨hLimit, Int.lt_add_one_iff.mp hLength, h.accepted, lost + n, hKept, ?_⟩
  intro hOpen
  rw [hLost hOpen]
  exact hDropped.symm

theorem Conserved.close : Conserved { s with cache := s.cache.close } := by
  obtain ⟨lost, hRetained, -⟩ := h.retained
  refine ⟨h.limit, ?_, h.accepted, _, hRetained.evict_all, nofun⟩
  have hLimit := h.limit
  change (0 : Int) ≤ s.cache.limit
  omega

theorem Conserved.step {l : Label α} (hRegular : l.Regular)
    (hStep : step s l = some s') : Conserved s' := by
  cases l with
  | put item =>
    rw [Pipeline.step] at hStep
    split at hStep
    · obtain rfl := Option.some.inj hStep
      exact h
    · rename_i hOpen
      rw [Option.bind_eq_bind, Option.bind_eq_some_iff] at hStep
      obtain ⟨cache, hPut, hState⟩ := hStep
      obtain rfl := Option.some.inj hState
      exact h.put (Bool.eq_false_iff.mpr hOpen) hPut
  | get c =>
    rw [Pipeline.step] at hStep
    split at hStep <;> obtain rfl := Option.some.inj hStep
    · exact ⟨h.limit, h.bounded, h.accepted, h.retained⟩
    · exact h.takeOne c
  | wake c =>
    rw [Pipeline.step] at hStep
    split at hStep
    · obtain rfl := Option.some.inj hStep
      have hLeft : Conserved { s with waiting := s.waiting.erase c } :=
        ⟨h.limit, h.bounded, h.accepted, h.retained⟩
      exact hLeft.takeOne c
    · cases hStep
  | getMany c limit =>
    obtain rfl := Option.some.inj hStep
    exact h.getMany c limit.toNat
  | setLimit limit =>
    rw [Pipeline.step, Option.bind_eq_bind, Option.bind_eq_some_iff] at hStep
    obtain ⟨cache, hSet, hState⟩ := hStep
    obtain rfl := Option.some.inj hState
    exact h.setLimit hRegular hSet
  | resetCounters => exact hRegular.elim
  | close =>
    obtain rfl := Option.some.inj hStep
    exact h.close

omit h

theorem conserved_run {limit : Int} (hLimit : 1 ≤ limit) {ls : List (Label α)}
    (hRegular : ∀ l ∈ ls, l.Regular) (hRun : run limit ls = some s) : Conserved s := by
  induction ls using List.reverseRecOn generalizing s with
  | nil =>
    obtain rfl := Option.some.inj hRun
    exact conserved_initial hLimit
  | append_singleton ls l ih =>
    obtain ⟨t, hFront, hStep⟩ := StepRun.run_snoc_eq_some.mp hRun
    have hKept := ih (fun l hl => hRegular l (List.mem_append_left _ hl)) hFront
    exact hKept.step (hRegular l (List.mem_append_right _ (List.mem_singleton.mpr rfl))) hStep

/-- At all times the cache keeps to its limit; until it is closed every accepted item was
taken, evicted or waits; the consumers got their items in the order of acceptance, from what
is older than the waiting items, and those are the newest of all. -/
theorem cache_conserves {limit : Int} (hLimit : 1 ≤ limit) {ls : List (Label α)}
    (hRegular : ∀ l ∈ ls, l.Regular) (hRun : run limit ls = some s) :
    (s.cache.items.length : Int) ≤ s.cache.limit ∧
      s.cache.accepted = s.history.length ∧
      (s.cache.closed = false →
        s.cache.accepted = s.taken.length + s.cache.dropped + s.cache.items.length) ∧
      s.taken.Sublist (s.history.take (s.history.length - s.cache.items.length)) ∧
      s.cache.items = s.history.drop (s.history.length - s.cache.items.length) := by
  have h := conserved_run hLimit hRegular hRun
  obtain ⟨lost, hRetained, hLost⟩ := h.retained
  refine ⟨h.bounded, h.accepted, ?_, hRetained.taken_sublist, hRetained.newest⟩
  intro hOpen
  rw [h.accepted, hRetained.length_eq, hLost hOpen]

def sampleRun : List (Label Nat) :=
  [.get 0, .put 1, .wake 0, .put 2, .put 3, .put 4, .put 5, .getMany 1 1, .setLimit 1, .close]

theorem cache_conserves_sampleRun : ∃ s : State Nat, run 3 (sampleRun.take 9) = some s ∧
    s.cache.items = [5] ∧ s.taken = [1, 3] ∧ s.cache.dropped = 2 ∧
    s.cache.accepted = s.taken.length + s.cache.dropped + s.cache.items.length := by
  have hEnd : (run 3 (sampleRun.take 9)).map (fun s =>
      (s.cache.items, s.taken, s.cache.dropped, s.cache.closed)) =
      some ([5], [1, 3], 2, false) := by decide
  obtain ⟨s, hRun, hState⟩ := Option.map_eq_some_iff.mp hEnd
  simp only [Prod.mk.injEq] at hState
  have hRegular : ∀ l ∈ sampleRun.take 9, l.Regular := by decide
  have hBalance := (cache_conserves (by decide) hRegular hRun).2.2.1 hState.2.2.2
  exact ⟨s, hRun, hState.1, hState.2.1, hState.2.2.1, hBalance⟩

end Sniff4Hound.Pipeline
