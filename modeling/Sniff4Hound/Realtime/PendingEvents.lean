import Mathlib.Data.List.Infix
import Sniff4Hound.Realtime.BridgeStreams

/-!
# The event that is under way

The limiter of a bridged stream remembers how much is pending and the last three bytes, and looks
for a blank line in those and the chunk that came. The number it keeps is that of the whole stream:
the bytes behind the last blank line of all, however the stream was cut (`pending_follows_stream`).
-/

namespace Sniff4Hound.Realtime

def Ends (stream : List UInt8) (place : Nat) : Prop :=
  ∃ boundary ∈ EVENT_BOUNDARIES, ∃ start, boundary <+: stream.drop start ∧
    place = start + boundary.length

/-- The number of bytes behind the last place where an event ends. -/
def IsPending (stream : List UInt8) (n : Nat) : Prop :=
  (∃ place, Ends stream place ∧ (∀ place', Ends stream place' → place' ≤ place) ∧
      n = stream.length - place) ∨
    (∀ place, ¬Ends stream place) ∧ n = stream.length

theorem IsPending.unique {stream : List UInt8} {n n' : Nat} (h : IsPending stream n)
    (h' : IsPending stream n') : n = n' := by
  rcases h with ⟨place, hEnds, hLast, rfl⟩ | ⟨hNone, rfl⟩
  · rcases h' with ⟨place', hEnds', hLast', rfl⟩ | ⟨hNone, -⟩
    · rw [Nat.le_antisymm (hLast' place hEnds) (hLast place' hEnds')]
    · exact absurd hEnds (hNone place)
  · rcases h' with ⟨place', hEnds', -⟩ | ⟨-, rfl⟩
    · exact absurd hEnds' (hNone place')
    · rfl

/-! ## The last blank line of a buffer -/

section Buffer

variable {boundary buffer : List UInt8} {place : Nat}

theorem lastBoundaryEnd_none : lastBoundaryEnd boundary buffer = none →
    boundary ≠ [] → ∀ start, ¬boundary <+: buffer.drop start := by
  induction buffer with
  | nil =>
    intro _ hSome start hFound
    rw [List.drop_nil] at hFound
    exact hSome (List.prefix_nil.mp hFound)
  | cons b buffer ih =>
    intro hNone hSome start hFound
    rw [lastBoundaryEnd] at hNone
    split at hNone
    · cases hNone
    · next hRest =>
      cases start with
      | zero =>
        rw [List.drop_zero] at hFound
        rw [if_pos hFound] at hNone
        cases hNone
      | succ start => exact ih hRest hSome start hFound

theorem lastBoundaryEnd_some (h : lastBoundaryEnd boundary buffer = some place)
    (hSome : boundary ≠ []) :
    (∃ start, boundary <+: buffer.drop start ∧ place = start + boundary.length) ∧
      ∀ start, boundary <+: buffer.drop start → start + boundary.length ≤ place := by
  induction buffer generalizing place with
  | nil => cases h
  | cons b buffer ih =>
    rw [lastBoundaryEnd] at h
    split at h
    · next place' hRest =>
      cases h
      obtain ⟨⟨start, hFound, rfl⟩, hLast⟩ := ih hRest
      refine ⟨⟨start + 1, hFound, by omega⟩, fun start' hFound' => ?_⟩
      cases start' with
      | zero => omega
      | succ start' =>
        have := hLast start' hFound'
        omega
    · next hRest =>
      split at h
      · next hHere =>
        cases h
        refine ⟨⟨0, hHere, by omega⟩, fun start' hFound' => ?_⟩
        cases start' with
        | zero => omega
        | succ start' => exact absurd hFound' (lastBoundaryEnd_none hRest hSome start')
      · cases h

theorem boundary_ne_nil : ∀ boundary ∈ EVENT_BOUNDARIES, boundary ≠ [] := by decide

theorem lastEventBoundaryEnd_some (h : lastEventBoundaryEnd buffer = some place) :
    Ends buffer place ∧ ∀ place', Ends buffer place' → place' ≤ place := by
  obtain ⟨hMem, hMax⟩ := List.max?_eq_some_iff.mp h
  obtain ⟨boundary, hBoundary, hLast⟩ := List.mem_filterMap.mp hMem
  obtain ⟨⟨start, hFound, hPlace⟩, -⟩ :=
    lastBoundaryEnd_some hLast (boundary_ne_nil boundary hBoundary)
  refine ⟨⟨boundary, hBoundary, start, hFound, hPlace⟩, ?_⟩
  rintro place' ⟨boundary', hBoundary', start', hFound', rfl⟩
  have hSome' := boundary_ne_nil boundary' hBoundary'
  cases hOther : lastBoundaryEnd boundary' buffer with
  | none => exact absurd hFound' (lastBoundaryEnd_none hOther hSome' start')
  | some last =>
    have hLe := hMax last (List.mem_filterMap.mpr ⟨boundary', hBoundary', hOther⟩)
    exact Nat.le_trans ((lastBoundaryEnd_some hOther hSome').2 start' hFound') hLe

theorem lastEventBoundaryEnd_none (h : lastEventBoundaryEnd buffer = none) (place : Nat) :
    ¬Ends buffer place := by
  rintro ⟨boundary, hBoundary, start, hFound, -⟩
  have hNone := List.filterMap_eq_nil_iff.mp (List.max?_eq_none_iff.mp h) boundary hBoundary
  exact lastBoundaryEnd_none hNone (boundary_ne_nil boundary hBoundary) start hFound

end Buffer

/-! ## A chunk more -/

section Chunk

variable {stream chunk : List UInt8} {place : Nat}

theorem Ends.le_length (h : Ends stream place) : place ≤ stream.length := by
  obtain ⟨boundary, hBoundary, start, hFound, rfl⟩ := h
  have hLength := hFound.length_le
  have hSome := List.length_pos_of_ne_nil (boundary_ne_nil boundary hBoundary)
  rw [List.length_drop] at hLength
  omega

theorem Ends.append (h : Ends stream place) (chunk : List UInt8) : Ends (stream ++ chunk)
    place := by
  obtain ⟨boundary, hBoundary, start, hFound, hPlace⟩ := h
  refine ⟨boundary, hBoundary, start, ?_, hPlace⟩
  rw [List.drop_append]
  exact hFound.trans (List.prefix_append _ _)

theorem Ends.before (h : Ends (stream ++ chunk) place) (hPlace : place ≤ stream.length) :
    Ends stream place := by
  obtain ⟨boundary, hBoundary, start, hFound, rfl⟩ := h
  refine ⟨boundary, hBoundary, start, ?_, rfl⟩
  rw [List.drop_append_of_le_length (by omega)] at hFound
  refine List.prefix_of_prefix_length_le hFound (List.prefix_append _ _) ?_
  rw [List.length_drop]
  omega

theorem ends_drop {k : Nat} : Ends (stream.drop k) place ↔ ∃ boundary ∈ EVENT_BOUNDARIES,
    ∃ start, boundary <+: stream.drop (k + start) ∧ place = start + boundary.length := by
  simp only [Ends, List.drop_drop]

/-- Of two blank lines that overlap the place `k`, the one that begins before it is not the later
one unless they are the same. -/
theorem Ends.le_of_start {k : Nat} {seen : Nat} (hSeen : Ends (stream.drop k) seen)
    {boundary : List UInt8} (hBoundary : boundary ∈ EVENT_BOUNDARIES) {start : Nat}
    (hFound : boundary <+: stream.drop start) (hStart : start < k) :
    start + boundary.length ≤ k + seen := by
  obtain ⟨boundary', hBoundary', start', hFound', rfl⟩ := hSeen
  rw [List.drop_drop] at hFound'
  have hShort : ∀ b ∈ EVENT_BOUNDARIES, b.length = 2 ∨ b = [13, 10, 13, 10] := by decide
  have hTwo : ∀ b ∈ EVENT_BOUNDARIES, 2 ≤ b.length := by decide
  have hTwo' := hTwo boundary' hBoundary'
  rcases hShort boundary hBoundary with hLength | rfl
  · omega
  · by_cases hLater : k + (start' + boundary'.length) < start + 4
    · -- then the four bytes begin one byte before `k`, and two bytes at `k` are a blank line
      have hAt : start' = 0 ∧ boundary'.length = 2 ∧ k = start + 1 := by omega
      obtain ⟨rfl, hLength', rfl⟩ := hAt
      obtain ⟨rest, hRest⟩ := hFound
      have hTail : stream.drop (start + 1) = [10, 13, 10] ++ rest := by
        rw [← List.drop_drop, ← hRest]
        rfl
      rw [Nat.add_zero, hTail] at hFound'
      have hPair : ∀ b ∈ EVENT_BOUNDARIES, b.length = 2 → b = [10, 10] ∨ b = [13, 13] := by decide
      rcases hPair boundary' hBoundary' hLength' with rfl | rfl
      · simp at hFound'
      · simp at hFound'
    · simpa using Nat.not_lt.mp hLater

end Chunk

/-! ## The limiter -/

def Limiter.new : Limiter := ⟨0, []⟩

structure Limiter.Follows (l : Limiter) (stream : List UInt8) : Prop where
  pending : IsPending stream l.pending
  tail : l.tail = stream.drop (stream.length - (LONGEST_BOUNDARY - 1))

theorem follows_new : Limiter.new.Follows [] := by
  refine ⟨Or.inr ⟨?_, rfl⟩, rfl⟩
  rintro place ⟨boundary, hBoundary, start, hFound, -⟩
  rw [List.drop_nil] at hFound
  exact boundary_ne_nil boundary hBoundary (List.prefix_nil.mp hFound)

theorem Limiter.Follows.push {l : Limiter} {stream : List UInt8} (h : l.Follows stream)
    (limit : Nat) (chunk : List UInt8) : (l.push limit chunk).2.Follows (stream ++ chunk) := by
  have hBorder : LONGEST_BOUNDARY - 1 = 3 := rfl
  obtain ⟨hPending, hTail⟩ := h
  rw [hBorder] at hTail
  generalize hK : stream.length - 3 = k at hTail
  have hJoined : l.tail ++ chunk = (stream ++ chunk).drop k := by
    rw [hTail, List.drop_append_of_le_length (by omega)]
  constructor
  · unfold Limiter.push
    dsimp only
    rw [hJoined]
    cases hLast : lastEventBoundaryEnd ((stream ++ chunk).drop k) with
    | none =>
      show IsPending (stream ++ chunk) (l.pending + chunk.length)
      have hOld : ∀ place, Ends (stream ++ chunk) place ↔ Ends stream place := by
        refine fun place => ⟨fun hEnds => ?_, fun hEnds => hEnds.append chunk⟩
        refine hEnds.before ?_
        obtain ⟨boundary, hBoundary, start, hFound, rfl⟩ := hEnds
        have hFour : ∀ b ∈ EVENT_BOUNDARIES, b.length ≤ 4 := by decide
        have hLength := hFour boundary hBoundary
        have hBefore : start < k := by
          refine Nat.lt_of_not_le fun hBehind => lastEventBoundaryEnd_none hLast
            (start - k + boundary.length) (ends_drop.mpr
              ⟨boundary, hBoundary, start - k, ?_, rfl⟩)
          rwa [Nat.add_sub_cancel' hBehind]
        omega
      rcases hPending with ⟨place, hEnds, hMax, hN⟩ | ⟨hNone, hN⟩
      · refine Or.inl ⟨place, (hOld place).mpr hEnds, fun place' hEnds' =>
          hMax place' ((hOld place').mp hEnds'), ?_⟩
        have := hEnds.le_length
        rw [hN, List.length_append]
        omega
      · refine Or.inr ⟨fun place hEnds => hNone place ((hOld place).mp hEnds), ?_⟩
        rw [hN, List.length_append]
    | some seen =>
      show IsPending (stream ++ chunk) (((stream ++ chunk).drop k).length - seen)
      obtain ⟨hSeen, hMax⟩ := lastEventBoundaryEnd_some hLast
      refine Or.inl ⟨k + seen, ?_, ?_, ?_⟩
      · obtain ⟨boundary, hBoundary, start, hFound, rfl⟩ := ends_drop.mp hSeen
        exact ⟨boundary, hBoundary, k + start, hFound, by omega⟩
      · rintro place' ⟨boundary, hBoundary, start, hFound, rfl⟩
        rcases Nat.lt_or_ge start k with hBefore | hBehind
        · exact hSeen.le_of_start hBoundary hFound hBefore
        · have := hMax (start - k + boundary.length) (ends_drop.mpr
            ⟨boundary, hBoundary, start - k, by rwa [Nat.add_sub_cancel' hBehind], rfl⟩)
          omega
      · rw [List.length_drop]
        omega
  · show (l.tail ++ chunk).drop ((l.tail ++ chunk).length - (LONGEST_BOUNDARY - 1)) = _
    rw [hJoined, hBorder, List.drop_drop, List.length_drop, List.length_append]
    congr 1
    omega

def Limiter.pushAll (limit : Nat) (chunks : List (List UInt8)) : Limiter :=
  chunks.foldl (fun l chunk => (l.push limit chunk).2) Limiter.new

theorem follows_pushAll (limit : Nat) (chunks : List (List UInt8)) :
    (Limiter.pushAll limit chunks).Follows chunks.flatten := by
  induction chunks using List.reverseRecOn with
  | nil => exact follows_new
  | append_singleton chunks chunk ih =>
    have hNext := ih.push limit chunk
    rw [List.flatten_append, List.flatten_singleton]
    rw [Limiter.pushAll, List.foldl_append]
    exact hNext

/-- After every chunk the limiter has the number of bytes behind the last blank line of the whole
stream, and the chunk is refused exactly when these are more than the limit. -/
theorem pending_follows_stream (limit : Nat) (chunks : List (List UInt8)) (chunk : List UInt8) :
    IsPending (chunks ++ [chunk]).flatten
        ((Limiter.pushAll limit chunks).push limit chunk).2.pending ∧
      (((Limiter.pushAll limit chunks).push limit chunk).1 = false ↔
        ∃ n, IsPending (chunks ++ [chunk]).flatten n ∧ limit < n) := by
  have hPending : IsPending (chunks ++ [chunk]).flatten
      ((Limiter.pushAll limit chunks).push limit chunk).2.pending := by
    rw [List.flatten_append, List.flatten_singleton]
    exact ((follows_pushAll limit chunks).push limit chunk).pending
  have hVerdict : ((Limiter.pushAll limit chunks).push limit chunk).1 =
      decide (((Limiter.pushAll limit chunks).push limit chunk).2.pending ≤ limit) := rfl
  refine ⟨hPending, ?_⟩
  rw [hVerdict, decide_eq_false_iff_not, Nat.not_le]
  constructor
  · intro hMore
    exact ⟨_, hPending, hMore⟩
  · rintro ⟨n, hN, hMore⟩
    rwa [hPending.unique hN]

end Sniff4Hound.Realtime
