import Mathlib.Data.List.Basic

/-!
# Streams that arrive in pieces

A reader of a stream gets it in pieces whose sizes it does not choose. A stream is the list
of the pieces still to come, none of them empty; `receive n` hands out at most `n` items of
the first one, and nothing once the stream has ended. What a reader may rely on is that the
pieces put together are the stream (`receive_flat`) and that a piece is empty only at its
end (`receive_eq_nil`), whatever the pieces were.
-/

namespace Sniff4Hound

structure Chunked (α : Type*) where
  chunks : List (List α)
  chunks_ne : ∀ chunk ∈ chunks, chunk ≠ []

namespace Chunked

variable {α : Type*}

def flat (s : Chunked α) : List α := s.chunks.flatten

/-- The items one by one. -/
def singles (items : List α) : Chunked α where
  chunks := items.map fun item => [item]
  chunks_ne := by simp

theorem flat_singles (items : List α) : (singles items).flat = items := by
  rw [flat, singles, ← List.flatMap_def, List.flatMap_singleton']

theorem flat_eq_nil {s : Chunked α} : s.flat = [] ↔ s.chunks = [] := by
  rw [flat, List.flatten_eq_nil_iff]
  constructor
  · intro h
    refine List.eq_nil_iff_forall_not_mem.mpr ?_
    intro chunk hChunk
    exact s.chunks_ne chunk hChunk (h chunk hChunk)
  · intro h
    simp [h]

/-- At most `n` items of the first piece, and the stream after them. -/
def receive (s : Chunked α) (n : Nat) : List α × Chunked α :=
  match h : s.chunks with
  | [] => ([], s)
  | chunk :: rest =>
    if hLt : n < chunk.length then
      (chunk.take n, ⟨chunk.drop n :: rest, by
        intro piece hPiece
        rcases List.mem_cons.mp hPiece with rfl | hRest
        · simpa using hLt
        · exact s.chunks_ne piece (by simp [h, hRest])⟩)
    else
      (chunk, ⟨rest, fun piece hPiece => s.chunks_ne piece (by simp [h, hPiece])⟩)

theorem receive_flat (s : Chunked α) (n : Nat) :
    (s.receive n).1 ++ (s.receive n).2.flat = s.flat := by
  unfold receive
  split
  · next h => simp [flat, h]
  · next chunk rest h =>
    split
    · simp [flat, h, ← List.append_assoc]
    · simp [flat, h]

theorem receive_length_le (s : Chunked α) (n : Nat) : (s.receive n).1.length ≤ n := by
  unfold receive
  split
  · simp
  · split
    · exact List.length_take_le n _
    · next hLt => exact Nat.le_of_not_lt hLt

theorem receive_eq_nil {s : Chunked α} {n : Nat} (hn : 0 < n) :
    (s.receive n).1 = [] ↔ s.flat = [] := by
  rw [flat_eq_nil]
  unfold receive
  split
  · next h => simp [h]
  · next chunk rest h =>
    have hChunk : chunk ≠ [] := s.chunks_ne chunk (by simp [h])
    split
    · simp [h, hChunk, Nat.ne_of_gt hn]
    · simp [h, hChunk]

end Chunked

end Sniff4Hound
