import Sniff4Hound.Capture.Bytes
import Sniff4Hound.Library.WhileLoop

/-!
# Bodies sent in chunks

`_decode_chunked_body` of `app.py` reads a body that was captured in chunks: a line with the size in
hexadecimal, the data, a line break, and so on up to a size of zero. The size goes through `int`,
which takes a sign. A negative size moves the reader back, and a body of four bytes keeps it going
for ever (`chunked_hangs`). The loop ends as long as no size leads back to its own line
(`chunked_ends_iff`); a body without a minus sign holds no such size (`forward_of_no_minus`).
-/

namespace Sniff4Hound

open WhileLoop

/-! ## Slices and numbers -/

namespace Bytes

def index (data : Bytes) (i : Int) : Nat :=
  if 0 ≤ i then i.toNat else (i + data.length).toNat

/-- `data[i:j]`, for indices of either sign. -/
def part (data : Bytes) (i j : Int) : Bytes := data.slice (data.index i) (data.index j)

def isSpaceByte (b : UInt8) : Bool := b = 32 || (9 ≤ b && b ≤ 13)

/-- `data.strip()`. -/
def strip (data : Bytes) : Bytes :=
  ((data.dropWhile isSpaceByte).reverse.dropWhile isSpaceByte).reverse

def hexValue (b : UInt8) : Option Nat :=
  if 48 ≤ b ∧ b ≤ 57 then some (b.toNat - 48)
  else if 65 ≤ b ∧ b ≤ 70 then some (b.toNat - 55)
  else if 97 ≤ b ∧ b ≤ 102 then some (b.toNat - 87)
  else none

/-- Digits with single underscores between them; `afterDigit` says that one may come. -/
def readHex (n : Nat) (afterDigit : Bool) : Bytes → Option Nat
  | [] => if afterDigit then some n else none
  | b :: rest =>
    if b = 95 then if afterDigit then readHex n false rest else none
    else (hexValue b).bind fun digit => readHex (16 * n + digit) true rest

/-- What stands behind an optional `0x`, and behind the underscore that is allowed there. -/
def afterPrefix : Bytes → Bytes
  | 48 :: x :: rest =>
    if x = 120 ∨ x = 88 then if rest.head? = some 95 then rest.tail else rest
    else 48 :: x :: rest
  | digits => digits

/-- `int(text, 16)`. -/
def parseHex (text : Bytes) : Option Int :=
  match text.strip with
  | 45 :: digits => (readHex 0 false (afterPrefix digits)).map fun n : Nat => -(n : Int)
  | 43 :: digits => (readHex 0 false (afterPrefix digits)).map fun n : Nat => (n : Int)
  | digits => (readHex 0 false (afterPrefix digits)).map fun n : Nat => (n : Int)

end Bytes

/-! ## The decoder -/

def LINE_BREAK : Bytes := [13, 10]

def LF : Bytes := [10]

/-- Where the line at `offset` ends and how long its line break is. -/
def lineEnd (body : Bytes) (offset : Int) : Option (Nat × Nat) :=
  match body.find LINE_BREAK (body.index offset) with
  | some line_end => some (line_end, 2)
  | none => (body.find LF (body.index offset)).map fun line_end => (line_end, 1)

/-- The size in the line at `offset`: what stands before the first semicolon. -/
def sizeText (body : Bytes) (offset : Int) (line_end : Nat) : Bytes :=
  Bytes.strip ((body.part offset line_end).takeWhile (· ≠ 59))

/-- The place behind a line break at `offset`, if there is one. -/
def skipBreak (body : Bytes) (offset : Int) : Int :=
  if body.part offset (offset + 2) = LINE_BREAK then offset + 2
  else if body.part offset (offset + 1) = LF then offset + 1
  else offset

structure ChunkScan where
  offset : Int
  decoded : Bytes

/-- One pass of the loop of `_decode_chunked_body`. -/
def chunkPass (body : Bytes) (s : ChunkScan) : Round ChunkScan Bytes :=
  if s.offset < body.length then
    match lineEnd body s.offset with
    | none => .leave body
    | some (line_end, newline_size) =>
      match (sizeText body s.offset line_end).parseHex with
      | none => .leave body
      | some chunk_size =>
        let offset : Int := line_end + newline_size
        if chunk_size = 0 then .leave s.decoded
        else if body.length < offset + chunk_size then .leave body
        else .again
          { offset := skipBreak body (offset + chunk_size)
            decoded := s.decoded ++ body.part offset (offset + chunk_size) }
  else .leave (if s.decoded = [] then body else s.decoded)

/-- `_decode_chunked_body` with at most `passes` passes of its loop. -/
def decode_chunked_body (body : Bytes) (passes : Nat) : Option Bytes :=
  if body = [] then some body else loop (chunkPass body) passes ⟨0, []⟩

/-- The states that the loop comes to. -/
inductive Scanned (body : Bytes) : ChunkScan → Prop
  | start : Scanned body ⟨0, []⟩
  | pass {s next : ChunkScan} (before : Scanned body s) (again : chunkPass body s = .again next) :
      Scanned body next

/-- A pass leaves the loop or moves forward. -/
def Advances (body : Bytes) (s : ChunkScan) : Prop :=
  (∃ result, chunkPass body s = .leave result) ∨
    ∃ next, chunkPass body s = .again next ∧ s.offset < next.offset

/-- The line at `offset` holds a negative size that leads back to the line or before it. -/
def Backward (body : Bytes) (offset : Int) : Prop :=
  offset < body.length ∧ ∃ line_end newline_size : Nat, ∃ size : Int,
    lineEnd body offset = some (line_end, newline_size) ∧
    (sizeText body offset line_end).parseHex = some size ∧ size < 0 ∧
    skipBreak body (line_end + newline_size + size) ≤ offset

/-! ## One pass -/

theorem Bytes.find_le {data needle : Bytes} {start i : Nat}
    (h : data.find needle start = some i) : start ≤ i := by
  obtain ⟨k, -, hk⟩ := List.exists_of_findSome?_eq_some h
  split at hk
  · cases hk
    exact Nat.le_add_right start k
  · cases hk

theorem le_lineEnd {body : Bytes} {offset : Int} {line_end newline_size : Nat}
    (h : lineEnd body offset = some (line_end, newline_size)) :
    offset < line_end + newline_size := by
  have hIndex : offset ≤ body.index offset := by
    rw [Bytes.index]
    split <;> omega
  cases hFind : body.find LINE_BREAK (body.index offset) with
  | some found =>
    rw [lineEnd, hFind] at h
    cases h
    have hLe := Bytes.find_le hFind
    omega
  | none =>
    rw [lineEnd, hFind] at h
    obtain ⟨found, hFound, hPair⟩ := Option.map_eq_some_iff.mp h
    cases hPair
    have hLe := Bytes.find_le hFound
    omega

theorem le_skipBreak (body : Bytes) (offset : Int) : offset ≤ skipBreak body offset := by
  rw [skipBreak]
  split
  · omega
  · split <;> omega

theorem advances_iff (body : Bytes) (s : ChunkScan) : Advances body s ↔
    ¬Backward body s.offset := by
  by_cases hInside : s.offset < body.length
  · cases hLine : lineEnd body s.offset with
    | none =>
      refine iff_of_true (.inl ⟨body, ?_⟩) ?_
      · rw [chunkPass, if_pos hInside, hLine]
      · rintro ⟨-, line_end, newline_size, size, hSome, -⟩
        cases hLine.symm.trans hSome
    | some found =>
      obtain ⟨line_end, newline_size⟩ := found
      have hForward := le_lineEnd hLine
      cases hSize : (sizeText body s.offset line_end).parseHex with
      | none =>
        refine iff_of_true (.inl ⟨body, ?_⟩) ?_
        · rw [chunkPass, if_pos hInside, hLine]
          dsimp only
          rw [hSize]
        · rintro ⟨-, line_end', newline_size', size, hSome, hParsed, -⟩
          cases hLine.symm.trans hSome
          cases hSize.symm.trans hParsed
      | some size =>
        have hSkip := le_skipBreak body (line_end + newline_size + size)
        have hBack : Backward body s.offset ↔
            size < 0 ∧ skipBreak body (line_end + newline_size + size) ≤ s.offset := by
          constructor
          · rintro ⟨-, line_end', newline_size', size', hSome, hParsed, hRest⟩
            cases hLine.symm.trans hSome
            cases hSize.symm.trans hParsed
            exact hRest
          · rintro ⟨hNegative, hLe⟩
            exact ⟨hInside, line_end, newline_size, size, hLine, hSize, hNegative, hLe⟩
        have hPass : chunkPass body s =
            if size = 0 then .leave s.decoded
            else if body.length < (line_end + newline_size : Int) + size then .leave body
            else .again
              { offset := skipBreak body (line_end + newline_size + size)
                decoded := s.decoded ++ body.part (line_end + newline_size)
                  (line_end + newline_size + size) } := by
          rw [chunkPass, if_pos hInside, hLine]
          dsimp only
          rw [hSize]
        rw [hBack, Advances, hPass]
        by_cases hZero : size = 0
        · rw [if_pos hZero]
          exact iff_of_true (.inl ⟨_, rfl⟩) (by omega)
        · rw [if_neg hZero]
          by_cases hOver : (body.length : Int) < line_end + newline_size + size
          · rw [if_pos hOver]
            exact iff_of_true (.inl ⟨_, rfl⟩) (by omega)
          · rw [if_neg hOver]
            constructor
            · rintro (⟨result, hLeave⟩ | ⟨next, hNext, hLt⟩)
              · cases hLeave
              · cases hNext
                dsimp only at hLt
                omega
            · intro hNot
              exact .inr ⟨_, rfl, by dsimp only; omega⟩
  · refine iff_of_true (.inl ⟨if s.decoded = [] then body else s.decoded, ?_⟩) ?_
    · rw [chunkPass, if_neg hInside]
    · exact fun h => hInside h.1

/-! ## The loop -/

theorem inside_of_again {body : Bytes} {s next : ChunkScan} (h : chunkPass body s = .again next) :
    s.offset < body.length := by
  by_contra hOutside
  rw [chunkPass, if_neg hOutside] at h
  cases h

theorem ends_of_advances {body : Bytes} (h : ∀ s, Scanned body s → Advances body s) :
    ∃ passes result, decode_chunked_body body passes = some result := by
  by_cases hEmpty : body = []
  · exact ⟨0, body, if_pos hEmpty⟩
  · have hLoop : ∃ result, loop (chunkPass body) (body.length + 1) ⟨0, []⟩ = some result
      ∧ True := by
      refine loop_total (Scanned body) (fun s => (body.length - s.offset).toNat) ?_
        (fun _ _ _ _ => trivial) Scanned.start (by dsimp only; omega)
      intro s next hs hNext
      refine ⟨hs.pass hNext, ?_⟩
      have hInside := inside_of_again hNext
      rcases h s hs with ⟨result, hLeave⟩ | ⟨next', hNext', hLt⟩
      · cases hLeave.symm.trans hNext
      · cases hNext.symm.trans hNext'
        omega
    obtain ⟨result, hResult, -⟩ := hLoop
    exact ⟨_, result, (if_neg hEmpty).trans hResult⟩

/-- The loop ends with every pass returning or moving forward just when it meets no size that leads
back to its own line. -/
theorem chunked_ends_iff (body : Bytes) :
    ((∃ passes result, decode_chunked_body body passes = some result) ∧
        ∀ s, Scanned body s → Advances body s) ↔
      ∀ s, Scanned body s → ¬Backward body s.offset := by
  constructor
  · rintro ⟨-, hAdvances⟩ s hs
    exact (advances_iff body s).mp (hAdvances s hs)
  · intro hForward
    have hAdvances : ∀ s, Scanned body s → Advances body s :=
      fun s hs => (advances_iff body s).mpr (hForward s hs)
    exact ⟨ends_of_advances hAdvances, hAdvances⟩

/-- A size of minus four in a body of four bytes. -/
theorem chunked_hangs :
    (∀ passes, decode_chunked_body (Bytes.ofText "-4\r\n") passes = none) ∧
      ¬Advances (Bytes.ofText "-4\r\n") ⟨0, []⟩ := by
  have hPass : chunkPass (Bytes.ofText "-4\r\n") ⟨0, []⟩ = .again ⟨0, []⟩ := by rfl
  constructor
  · intro passes
    exact (if_neg (by decide)).trans (loop_stuck hPass passes)
  · rintro (⟨result, hLeave⟩ | ⟨next, hNext, hLt⟩)
    · cases hPass.symm.trans hLeave
    · cases hPass.symm.trans hNext
      exact absurd hLt (Int.lt_irrefl 0)

/-! ## Bodies without a minus sign -/

theorem Bytes.mem_of_strip {data : Bytes} {b : UInt8} (h : b ∈ data.strip) : b ∈ data :=
  (List.dropWhile_suffix _).mem (List.mem_reverse.mp ((List.dropWhile_suffix _).mem
    (List.mem_reverse.mp h)))

theorem mem_sizeText {body : Bytes} {offset : Int} {line_end : Nat} {b : UInt8}
    (h : b ∈ sizeText body offset line_end) : b ∈ body := by
  have hPart := (List.takeWhile_prefix _).mem (Bytes.mem_of_strip h)
  exact List.mem_of_mem_drop (List.mem_of_mem_take hPart)

theorem parseHex_nonneg {text : Bytes} (h : 45 ∉ text) {size : Int}
    (hSize : text.parseHex = some size) : 0 ≤ size := by
  unfold Bytes.parseHex at hSize
  split at hSize
  · next digits hStrip => exact absurd (Bytes.mem_of_strip (hStrip ▸ List.mem_cons_self)) h
  · obtain ⟨n, -, rfl⟩ := Option.map_eq_some_iff.mp hSize
    exact Int.natCast_nonneg n
  · obtain ⟨n, -, rfl⟩ := Option.map_eq_some_iff.mp hSize
    exact Int.natCast_nonneg n

/-- Only a minus sign can lead the loop back. -/
theorem forward_of_no_minus {body : Bytes} (hPlain : 45 ∉ body) (offset : Int) :
    ¬Backward body offset := by
  rintro ⟨-, line_end, newline_size, size, -, hSize, hNegative, -⟩
  have hNonneg := parseHex_nonneg (fun h => hPlain (mem_sizeText h)) hSize
  omega

end Sniff4Hound
