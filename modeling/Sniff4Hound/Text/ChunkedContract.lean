import Sniff4Hound.Text.ChunkedBody
import Mathlib.Data.List.TakeWhile

/-!
# What comes back of a body sent in chunks

A body that is written in chunks comes back as the data of the chunks, whatever the data is and
however the sizes are spelled. A body that is cut off before the data of its last chunk is complete
comes back unchanged, unless the cut is where the data of a chunk ends, before or behind its line
break: there the loop runs out of bytes and the chunks before the cut are returned
(`decodes_written`, `cut_between_chunks`).
-/

namespace Sniff4Hound

open WhileLoop

/-! ## What is written -/

def hexNumber (digits : Bytes) : Nat :=
  digits.foldl (fun n b => 16 * n + (Bytes.hexValue b).getD 0) 0

structure SizeLine where
  digits : Bytes
  extension : Bytes
  digits_ne : digits ≠ []
  digits_hex : ∀ b ∈ digits, (Bytes.hexValue b).isSome
  extension_head : ∀ b ∈ extension.head?, b = 59
  extension_line : 10 ∉ extension ∧ 13 ∉ extension

namespace SizeLine

def bytes (line : SizeLine) : Bytes := line.digits ++ line.extension

def size (line : SizeLine) : Nat := hexNumber line.digits

end SizeLine

structure Chunk where
  line : SizeLine
  data : Bytes
  data_ne : data ≠ []
  size_eq : line.size = data.length

def Chunk.head (chunk : Chunk) : Bytes := chunk.line.bytes ++ (LINE_BREAK ++ chunk.data)

def Chunk.bytes (chunk : Chunk) : Bytes := chunk.head ++ LINE_BREAK

def written (chunks : List Chunk) : Bytes := chunks.flatMap Chunk.bytes

structure ChunkedText where
  chunks : List Chunk
  last : SizeLine
  trailer : Bytes
  last_size : last.size = 0

def ChunkedText.bytes (text : ChunkedText) : Bytes :=
  written text.chunks ++ (text.last.bytes ++ (LINE_BREAK ++ text.trailer))

def payload (chunks : List Chunk) : Bytes := chunks.flatMap Chunk.data

/-- The first `count` chunks end at `cut`, with their last line break or before it. -/
def StopsAfter (chunks : List Chunk) (count cut : Nat) : Prop :=
  cut = (written (chunks.take count)).length ∨ cut + 2 = (written (chunks.take count)).length

def Decodes (body result : Bytes) : Prop := ∃ passes, decode_chunked_body body passes = some result

theorem Decodes.unique {body result other : Bytes} (h : Decodes body result)
    (h' : Decodes body other) : result = other := by
  obtain ⟨m, hm⟩ := h
  obtain ⟨n, hn⟩ := h'
  rw [decode_chunked_body] at hm hn
  split at hm
  · next hEmpty =>
    rw [if_pos hEmpty] at hn
    exact Option.some.inj (hm.symm.trans hn)
  · next hSome =>
    rw [if_neg hSome] at hn
    exact loop_unique hm hn

/-! ## Sizes -/

section Digits

variable {digits : Bytes} (hHex : ∀ b ∈ digits, (Bytes.hexValue b).isSome)
include hHex

theorem notMem_digits {b : UInt8} (hb : Bytes.hexValue b = none) : b ∉ digits := by
  intro hMem
  have hSome := hHex b hMem
  rw [hb] at hSome
  cases hSome

theorem strip_digits : Bytes.strip digits = digits := by
  have hSpace : ∀ b ∈ digits, ¬Bytes.isSpaceByte b = true := by
    intro b hb hSpace
    have hNone : Bytes.hexValue b = none := by
      rw [Bytes.isSpaceByte, Bool.or_eq_true, Bool.and_eq_true, decide_eq_true_eq,
        decide_eq_true_eq, decide_eq_true_eq, UInt8.le_iff_toNat_le,
        UInt8.le_iff_toNat_le] at hSpace
      rw [Bytes.hexValue, if_neg, if_neg, if_neg]
      all_goals
        rw [UInt8.le_iff_toNat_le, UInt8.le_iff_toNat_le]
        rcases hSpace with rfl | ⟨-, hHigh⟩
        · decide
        · have hThirteen : (13 : UInt8).toNat = 13 := rfl
          rw [hThirteen] at hHigh
          rintro ⟨hLow, -⟩
          exact absurd (hLow.trans hHigh) (by decide)
    exact notMem_digits hHex hNone hb
  have hFront : digits.dropWhile Bytes.isSpaceByte = digits :=
    List.dropWhile_eq_self_iff.mpr fun hLength => hSpace _ (List.getElem_mem hLength)
  have hBack : digits.reverse.dropWhile Bytes.isSpaceByte = digits.reverse :=
    List.dropWhile_eq_self_iff.mpr fun hLength =>
      hSpace _ (List.mem_reverse.mp (List.getElem_mem hLength))
  rw [Bytes.strip, hFront, hBack, List.reverse_reverse]

theorem readHex_digits (n : Nat) (afterDigit : Bool) (h : afterDigit = true ∨ digits ≠ []) :
    Bytes.readHex n afterDigit digits =
      some (digits.foldl (fun n b => 16 * n + (Bytes.hexValue b).getD 0) n) := by
  induction digits generalizing n afterDigit with
  | nil =>
    rcases h with rfl | h
    · rfl
    · exact absurd rfl h
  | cons b rest ih =>
    obtain ⟨digit, hDigit⟩ := Option.isSome_iff_exists.mp (hHex b List.mem_cons_self)
    have hNot : b ≠ 95 := by
      rintro rfl
      cases hDigit
    rw [Bytes.readHex, if_neg hNot, hDigit, Option.bind_some,
      ih (fun b hb => hHex b (List.mem_cons_of_mem _ hb)) _ _ (.inl rfl), List.foldl_cons, hDigit]
    rfl

theorem afterPrefix_digits : Bytes.afterPrefix digits = digits := by
  rw [Bytes.afterPrefix.eq_def]
  split
  · next x rest =>
    rw [if_neg]
    rintro (rfl | rfl)
    · exact notMem_digits hHex (b := 120) (by decide) (by simp)
    · exact notMem_digits hHex (b := 88) (by decide) (by simp)
  · rfl

theorem parseHex_digits (h : digits ≠ []) :
    Bytes.parseHex digits = some (hexNumber digits : Int) := by
  rw [Bytes.parseHex, strip_digits hHex]
  split
  · next rest => exact absurd List.mem_cons_self (notMem_digits hHex (b := 45) (by decide))
  · next rest => exact absurd List.mem_cons_self (notMem_digits hHex (b := 43) (by decide))
  · rw [afterPrefix_digits hHex, readHex_digits hHex 0 false (.inr h)]
    rfl

end Digits

/-! ## Places in a text -/

theorem Bytes.index_cast (data : Bytes) (n : Nat) : data.index (n : Int) = n := by
  rw [Bytes.index, if_pos (by omega), Int.toNat_natCast]

theorem part_front (front rest : Bytes) (n : Nat) :
    Bytes.part (front ++ rest) front.length (front.length + n) = rest.take n := by
  rw [Bytes.part, Bytes.index_cast, ← Int.natCast_add, Bytes.index_cast, Bytes.slice,
    List.drop_left, Nat.add_sub_cancel_left]

theorem part_middle (front middle rest : Bytes) :
    Bytes.part (front ++ (middle ++ rest)) front.length (front.length + middle.length)
      = middle := by
  rw [part_front, List.take_left]

theorem find_eq_none {data needle : Bytes} {start : Nat}
    (h : ∀ k, ¬needle <+: data.drop (start + k)) : data.find needle start = none := by
  rw [Bytes.find, List.findSome?_eq_none_iff]
  intro k _
  rw [Bytes.startswith, if_neg]
  exact fun hHead => h k (of_decide_eq_true hHead)

theorem find_eq_some {data needle : Bytes} {start k : Nat} (hNe : needle ≠ [])
    (hAt : needle <+: data.drop (start + k))
    (hBefore : ∀ j < k, ¬needle <+: data.drop (start + j)) :
    data.find needle start = some (start + k) := by
  have hInside : start + k < data.length := by
    by_contra hOutside
    rw [List.drop_eq_nil_of_le (by omega)] at hAt
    exact hNe (List.prefix_nil.mp hAt)
  obtain ⟨m, hm⟩ : ∃ m, data.length + 1 - start = k + (m + 1) := ⟨data.length - start - k, by omega⟩
  rw [Bytes.find, hm, List.range_add, List.findSome?_append, List.findSome?_eq_none_iff.mpr]
  · rw [Option.none_or, List.range_succ_eq_map, List.map_cons, List.findSome?_cons, Nat.add_zero,
      Bytes.startswith, if_pos (decide_eq_true hAt)]
  · intro j hj
    rw [Bytes.startswith, if_neg]
    exact fun hHead => hBefore j (List.mem_range.mp hj) (of_decide_eq_true hHead)

theorem not_prefix_of_notMem {b : UInt8} {needle text : Bytes} (h : b ∉ text) (hb : b ∈ needle) :
    ¬needle <+: text := fun hHead => h (hHead.subset hb)

theorem lineEnd_line (front : Bytes) {line : Bytes} (rest : Bytes) (hLine : 13 ∉ line) :
    lineEnd (front ++ (line ++ (LINE_BREAK ++ rest))) front.length =
      some (front.length + line.length, 2) := by
  have hFind : Bytes.find (front ++ (line ++ (LINE_BREAK ++ rest))) LINE_BREAK front.length =
      some (front.length + line.length) := by
    refine find_eq_some (by decide) ?_ ?_
    · rw [← List.drop_drop, List.drop_left, List.drop_left]
      exact List.prefix_append LINE_BREAK rest
    · intro j hj
      rw [← List.drop_drop, List.drop_left, List.drop_append_of_le_length hj.le]
      obtain ⟨b, tail, hTail⟩ := List.exists_cons_of_length_pos
        (by rw [List.length_drop]; omega : 0 < (line.drop j).length)
      rw [hTail, List.cons_append, LINE_BREAK, List.cons_prefix_cons]
      rintro ⟨rfl, -⟩
      exact hLine (List.mem_of_mem_drop (hTail ▸ List.mem_cons_self))
  rw [lineEnd, Bytes.index_cast, hFind]

theorem lineEnd_none (front : Bytes) {tail : Bytes} (hTail : 10 ∉ tail) :
    lineEnd (front ++ tail) front.length = none := by
  have hNone : ∀ needle : Bytes, 10 ∈ needle →
      Bytes.find (front ++ tail) needle front.length = none := by
    intro needle hNeedle
    refine find_eq_none fun k => not_prefix_of_notMem ?_ hNeedle
    rw [← List.drop_drop, List.drop_left]
    exact fun h => hTail (List.mem_of_mem_drop h)
  rw [lineEnd, Bytes.index_cast, hNone LINE_BREAK (by decide), hNone LF (by decide)]
  rfl

theorem SizeLine.notMem_bytes (line : SizeLine) : 10 ∉ line.bytes ∧ 13 ∉ line.bytes := by
  rw [SizeLine.bytes, List.mem_append, List.mem_append]
  exact ⟨not_or.mpr ⟨notMem_digits line.digits_hex (by decide), line.extension_line.1⟩,
    not_or.mpr ⟨notMem_digits line.digits_hex (by decide), line.extension_line.2⟩⟩

theorem takeWhile_line (line : SizeLine) : line.bytes.takeWhile (· ≠ 59) = line.digits := by
  have hDigits : ∀ b ∈ line.digits, decide (b ≠ 59) = true := by
    intro b hb
    refine decide_eq_true ?_
    rintro rfl
    exact notMem_digits line.digits_hex (by decide) hb
  rw [SizeLine.bytes, List.takeWhile_append_of_pos hDigits]
  cases hExtension : line.extension with
  | nil => rw [List.takeWhile_nil, List.append_nil]
  | cons b rest =>
    have hHead : b = 59 := line.extension_head b (by rw [hExtension]; rfl)
    rw [List.takeWhile_cons_of_neg (by simp [hHead]), List.append_nil]

theorem size_of_line (front : Bytes) (line : SizeLine) (rest : Bytes) :
    (sizeText (front ++ (line.bytes ++ (LINE_BREAK ++ rest))) front.length
      (front.length + line.bytes.length)).parseHex = some (line.size : Int) := by
  rw [sizeText, Int.natCast_add, part_middle, takeWhile_line,
    strip_digits line.digits_hex, parseHex_digits line.digits_hex line.digits_ne]
  rfl

/-! ## Passes -/

theorem skipBreak_front (front rest : Bytes) :
    skipBreak (front ++ rest) front.length =
      if rest.take 2 = LINE_BREAK then (front.length : Int) + 2
      else if rest.take 1 = LF then (front.length : Int) + 1
      else front.length := by
  have hTwo : Bytes.part (front ++ rest) front.length (front.length + 2) = rest.take 2 :=
    part_front front rest 2
  have hOne : Bytes.part (front ++ rest) front.length (front.length + 1) = rest.take 1 :=
    part_front front rest 1
  rw [skipBreak, hTwo, hOne]

theorem skipBreak_line (front rest : Bytes) :
    skipBreak (front ++ (LINE_BREAK ++ rest)) front.length = front.length + 2 := by
  rw [skipBreak_front]
  exact if_pos rfl

theorem skipBreak_short (front : Bytes) {rest : Bytes} (h : rest = [] ∨ rest = [13]) :
    skipBreak (front ++ rest) front.length = front.length := by
  rw [skipBreak_front]
  rcases h with rfl | rfl <;> rfl

section Passes

variable (front : Bytes) (decoded rest : Bytes)

theorem chunkPass_line (line : SizeLine) :
    chunkPass (front ++ (line.bytes ++ (LINE_BREAK ++ rest))) ⟨front.length, decoded⟩ =
      if (line.size : Int) = 0 then .leave decoded
      else if ((front ++ (line.bytes ++ (LINE_BREAK ++ rest))).length : Int) <
          ((front.length + line.bytes.length : Nat) : Int) + (2 : Nat) + line.size then
        .leave (front ++ (line.bytes ++ (LINE_BREAK ++ rest)))
      else .again
        { offset := skipBreak (front ++ (line.bytes ++ (LINE_BREAK ++ rest)))
            (((front.length + line.bytes.length : Nat) : Int) + (2 : Nat) + line.size)
          decoded := decoded ++ Bytes.part (front ++ (line.bytes ++ (LINE_BREAK ++ rest)))
            (((front.length + line.bytes.length : Nat) : Int) + (2 : Nat))
            (((front.length + line.bytes.length : Nat) : Int) + (2 : Nat) + line.size) } := by
  have hInside : ((front.length : Nat) : Int) <
      ((front ++ (line.bytes ++ (LINE_BREAK ++ rest))).length : Nat) := by
    simp only [List.length_append, LINE_BREAK, List.length_cons, List.length_nil]
    omega
  rw [chunkPass, if_pos hInside]
  dsimp only
  rw [lineEnd_line front rest line.notMem_bytes.2]
  dsimp only
  rw [size_of_line]

theorem chunkPass_last {line : SizeLine} (h : line.size = 0) :
    chunkPass (front ++ (line.bytes ++ (LINE_BREAK ++ rest))) ⟨front.length, decoded⟩ =
    .leave decoded := by
  rw [chunkPass_line, if_pos (by omega)]

variable (chunk : Chunk)

theorem Chunk.size_pos : 0 < chunk.line.size := by
  rw [chunk.size_eq]
  exact List.length_pos_iff.mpr chunk.data_ne

theorem chunkPass_short (h : rest.length < chunk.data.length) :
    chunkPass (front ++ (chunk.line.bytes ++ (LINE_BREAK ++ rest))) ⟨front.length, decoded⟩ =
      .leave (front ++ (chunk.line.bytes ++ (LINE_BREAK ++ rest))) := by
  have hSize := chunk.size_pos
  have hData := chunk.size_eq
  have hOver : ((front ++ (chunk.line.bytes ++ (LINE_BREAK ++ rest))).length : Int) <
      ((front.length + chunk.line.bytes.length : Nat) : Int) + (2 : Nat) + chunk.line.size := by
    simp only [List.length_append, LINE_BREAK, List.length_cons, List.length_nil]
    omega
  rw [chunkPass_line, if_neg (by omega), if_pos hOver]

theorem chunkPass_data :
    chunkPass (front ++ (chunk.head ++ rest)) ⟨front.length, decoded⟩ =
      .again
        { offset := skipBreak (front ++ (chunk.head ++ rest)) ((front ++ chunk.head).length : Nat)
          decoded := decoded ++ chunk.data } := by
  have hSize := chunk.size_pos
  have hHead : front ++ (chunk.head ++ rest) =
      front ++ (chunk.line.bytes ++ (LINE_BREAK ++ (chunk.data ++ rest))) := by
    rw [Chunk.head, List.append_assoc, List.append_assoc]
  have hNot : ¬((front ++ (chunk.line.bytes ++ (LINE_BREAK ++ (chunk.data ++ rest)))).length : Int) <
      ((front.length + chunk.line.bytes.length : Nat) : Int) + (2 : Nat) + chunk.line.size := by
    simp only [List.length_append, LINE_BREAK, List.length_cons, List.length_nil, chunk.size_eq]
    omega
  have hStart : ((front.length + chunk.line.bytes.length : Nat) : Int) + (2 : Nat) =
      ((front ++ (chunk.line.bytes ++ LINE_BREAK)).length : Nat) := by
    simp only [List.length_append, LINE_BREAK, List.length_cons, List.length_nil]
    omega
  have hStop : ((front ++ (chunk.line.bytes ++ LINE_BREAK)).length : Int) + chunk.data.length =
      ((front ++ chunk.head).length : Nat) := by
    simp only [Chunk.head, List.length_append]
    omega
  have hPart : Bytes.part (front ++ (chunk.line.bytes ++ (LINE_BREAK ++ (chunk.data ++ rest))))
      ((front ++ (chunk.line.bytes ++ LINE_BREAK)).length : Nat)
      (((front ++ (chunk.line.bytes ++ LINE_BREAK)).length : Nat) + (chunk.data.length : Int)) =
        chunk.data := by
    have hText : front ++ (chunk.line.bytes ++ (LINE_BREAK ++ (chunk.data ++ rest))) =
        (front ++ (chunk.line.bytes ++ LINE_BREAK)) ++ (chunk.data ++ rest) := by
      simp only [List.append_assoc]
    rw [hText, part_middle]
  rw [hHead, chunkPass_line, if_neg (by omega), if_neg hNot, hStart, chunk.size_eq, hPart, hStop]

theorem chunkPass_chunk :
    chunkPass (front ++ (chunk.bytes ++ rest)) ⟨front.length, decoded⟩ =
      .again ⟨((front ++ chunk.bytes).length : Nat), decoded ++ chunk.data⟩ := by
  rw [Chunk.bytes, List.append_assoc, chunkPass_data, ← List.append_assoc front, skipBreak_line]
  congr 2
  simp only [List.length_append, LINE_BREAK, List.length_cons, List.length_nil]
  omega

theorem chunkPass_open {tail : Bytes} (hNe : tail ≠ []) (hTail : 10 ∉ tail) :
    chunkPass (front ++ tail) ⟨front.length, decoded⟩ = .leave (front ++ tail) := by
  have hInside : ((front.length : Nat) : Int) < ((front ++ tail).length : Nat) := by
    have hPos := List.length_pos_iff.mpr hNe
    rw [List.length_append]
    omega
  rw [chunkPass, if_pos hInside]
  dsimp only
  rw [lineEnd_none front hTail]

theorem chunkPass_end (h : decoded ≠ []) :
    chunkPass front ⟨front.length, decoded⟩ = .leave decoded := by
  rw [chunkPass, if_neg (Int.lt_irrefl _)]
  exact congrArg Round.leave (if_neg h)

end Passes

/-! ## Runs -/

def Ends (body : Bytes) (s : ChunkScan) (result : Bytes) : Prop :=
  ∃ passes, loop (chunkPass body) passes s = some result

theorem ends_of_leave {body : Bytes} {s : ChunkScan} {result : Bytes}
    (h : chunkPass body s = .leave result) : Ends body s result := ⟨1, loop_leave h⟩

theorem Ends.before {body : Bytes} {s next : ChunkScan} {result : Bytes} (h : Ends body next result)
    (hPass : chunkPass body s = .again next) : Ends body s result := by
  obtain ⟨passes, hLoop⟩ := h
  exact ⟨passes + 1, (loop_again hPass).trans hLoop⟩

theorem decodes_of_ends {body result : Bytes}
    (h : Ends body ⟨(([] : Bytes).length : Nat), []⟩ result) : Decodes body result := by
  obtain ⟨passes, hLoop⟩ := h
  by_cases hEmpty : body = []
  · subst hEmpty
    have hDone : loop (chunkPass []) 1 ⟨(([] : Bytes).length : Nat), []⟩ = some [] := rfl
    exact ⟨0, (if_pos rfl).trans (congrArg some (loop_unique hDone hLoop))⟩
  · exact ⟨passes, (if_neg hEmpty).trans hLoop⟩

theorem ends_written {chunks : List Chunk} {front tail decoded result : Bytes}
    (h : Ends (front ++ (written chunks ++ tail))
      ⟨((front ++ written chunks).length : Nat), decoded ++ payload chunks⟩ result) :
    Ends (front ++ (written chunks ++ tail)) ⟨(front.length : Nat), decoded⟩ result := by
  induction chunks generalizing front decoded with
  | nil =>
    rw [written, payload, List.flatMap_nil, List.flatMap_nil, List.append_nil,
      List.append_nil] at h
    exact h
  | cons chunk chunks ih =>
    have hText : front ++ (written (chunk :: chunks) ++ tail) =
        front ++ (chunk.bytes ++ (written chunks ++ tail)) := by
      rw [written, List.flatMap_cons, List.append_assoc]
      rfl
    have hFront : front ++ written (chunk :: chunks) = (front ++ chunk.bytes)
      ++ written chunks := by
      rw [written, List.flatMap_cons, ← List.append_assoc]
      rfl
    have hData : decoded ++ payload (chunk :: chunks) = (decoded ++ chunk.data)
      ++ payload chunks := by
      rw [payload, List.flatMap_cons, ← List.append_assoc]
      rfl
    rw [hText, hFront, hData, ← List.append_assoc front] at h
    have hRest := ih h
    rw [List.append_assoc] at hRest
    rw [hText]
    exact hRest.before (chunkPass_chunk front decoded _ chunk)

theorem decodes_front {chunks : List Chunk} {tail result : Bytes}
    (h : Ends (written chunks ++ tail) ⟨((written chunks).length : Nat), payload chunks⟩ result) :
    Decodes (written chunks ++ tail) result :=
  decodes_of_ends (@ends_written _ [] _ _ _ h)

theorem decodes_text (text : ChunkedText) : Decodes text.bytes (payload text.chunks) :=
  decodes_front (ends_of_leave (chunkPass_last _ _ _ text.last_size))

/-! ## Cuts -/

theorem payload_ne {chunks : List Chunk} (h : chunks ≠ []) : payload chunks ≠ [] := by
  obtain ⟨chunk, rest, rfl⟩ := List.exists_cons_of_ne_nil h
  rw [payload, List.flatMap_cons]
  exact fun hNil => chunk.data_ne (List.append_eq_nil_iff.mp hNil).1

variable (chunks : List Chunk)

theorem written_snoc (chunk : Chunk) :
    written (chunks ++ [chunk]) = written chunks ++ (chunk.head ++ LINE_BREAK) := by
  rw [written, List.flatMap_append, List.flatMap_singleton]
  rfl

theorem decodes_chunks : Decodes (written chunks) (payload chunks) := by
  have hEnds : Ends (written chunks ++ []) ⟨((written chunks).length : Nat), payload chunks⟩
      (payload chunks) := by
    rw [List.append_nil]
    by_cases hNil : chunks = []
    · subst hNil
      exact ends_of_leave rfl
    · exact ends_of_leave (chunkPass_end _ _ (payload_ne hNil))
  have hDecodes := decodes_front hEnds
  rwa [List.append_nil] at hDecodes

theorem ends_data {front decoded tail result : Bytes} {chunk : Chunk}
    (hTail : tail = [] ∨ tail = [13])
    (h : Ends (front ++ (chunk.head ++ tail)) ⟨((front ++ chunk.head).length : Nat),
      decoded ++ chunk.data⟩ result) :
    Ends (front ++ (chunk.head ++ tail)) ⟨(front.length : Nat), decoded⟩ result := by
  refine h.before ?_
  rw [chunkPass_data, ← List.append_assoc front, skipBreak_short _ hTail]

theorem decodes_data (chunk : Chunk) :
    Decodes (written chunks ++ chunk.head) (payload (chunks ++ [chunk])) := by
  have hData : payload (chunks ++ [chunk]) = payload chunks ++ chunk.data := by
    rw [payload, List.flatMap_append, List.flatMap_singleton]
    rfl
  have hNe : payload chunks ++ chunk.data ≠ [] :=
    fun hNil => chunk.data_ne (List.append_eq_nil_iff.mp hNil).2
  have hEnds := ends_of_leave (chunkPass_end (written chunks ++ chunk.head) _ hNe)
  rw [← List.append_nil chunk.head] at hEnds ⊢
  rw [hData]
  refine decodes_front (ends_data (.inl rfl) ?_)
  rw [List.append_nil] at hEnds ⊢
  exact hEnds

theorem decodes_half (chunk : Chunk) :
    Decodes (written chunks ++ (chunk.head ++ [13])) (written chunks ++ (chunk.head ++ [13])) := by
  refine decodes_front (ends_data (.inr rfl) ?_)
  rw [← List.append_assoc]
  exact ends_of_leave (chunkPass_open _ _ (by decide) (by decide))

theorem decodes_short (chunk : Chunk) {n : Nat} (hPos : 0 < n) (h : n < chunk.head.length) :
    Decodes (written chunks ++ chunk.head.take n) (written chunks ++ chunk.head.take n) := by
  refine decodes_front (ends_of_leave ?_)
  by_cases hLine : n < chunk.line.bytes.length + 2
  · refine chunkPass_open _ _ ?_ ?_
    · exact List.ne_nil_of_length_pos (by rw [List.length_take]; omega)
    · have hHead : chunk.head = (chunk.line.bytes ++ [13]) ++ (10 :: chunk.data) := by
        rw [Chunk.head, List.append_assoc]
        rfl
      rw [hHead, List.take_append_of_le_length
        (by rw [List.length_append, List.length_singleton]; omega)]
      intro hMem
      rcases List.mem_append.mp (List.mem_of_mem_take hMem) with hBytes | hBreak
      · exact chunk.line.notMem_bytes.1 hBytes
      · exact absurd hBreak (by decide)
  · have hTake : chunk.head.take n =
        chunk.line.bytes ++ (LINE_BREAK ++ chunk.data.take (n - (chunk.line.bytes.length + 2))) := by
      have hSize : (chunk.line.bytes ++ LINE_BREAK).length = chunk.line.bytes.length + 2 := by
        rw [List.length_append]
        rfl
      rw [Chunk.head, ← List.append_assoc, List.take_append, List.take_of_length_le (by omega),
        hSize,
        List.append_assoc]
    have hLength : chunk.head.length = chunk.line.bytes.length + 2 + chunk.data.length := by
      rw [Chunk.head, List.length_append, List.length_append, ← Nat.add_assoc]
      rfl
    rw [hTake]
    refine chunkPass_short _ _ _ chunk ?_
    rw [List.length_take]
    omega

theorem cut_inside {chunks : List Chunk} {cut : Nat} (h : cut < (written chunks).length) :
    ∃ done chunk rest n, chunks = done ++ chunk :: rest ∧ cut = (written done).length + n ∧
      n < chunk.bytes.length := by
  induction chunks generalizing cut with
  | nil => exact absurd h (Nat.not_lt_zero _)
  | cons chunk chunks ih =>
    have hLength : (written (chunk :: chunks)).length =
        chunk.bytes.length + (written chunks).length := by
      rw [written, List.flatMap_cons, List.length_append]
      rfl
    by_cases hHere : cut < chunk.bytes.length
    · exact ⟨[], chunk, chunks, cut, rfl, (Nat.zero_add cut).symm, hHere⟩
    · obtain ⟨done, found, rest, n, hChunks, hCut, hInside⟩ :=
        @ih (cut - chunk.bytes.length) (by omega)
      refine ⟨chunk :: done, found, rest, n, congrArg _ hChunks, ?_, hInside⟩
      have hDone : (written (chunk :: done)).length =
          chunk.bytes.length + (written done).length := by
        rw [written, List.flatMap_cons, List.length_append]
        rfl
      omega

theorem written_append (chunks more : List Chunk) :
    written (chunks ++ more) = written chunks ++ written more := List.flatMap_append

theorem stops_after {chunks : List Chunk} {count cut : Nat} (h : StopsAfter chunks count cut)
    (tail : Bytes) : Decodes ((written chunks ++ tail).take cut) (payload (chunks.take count)) := by
  have hText : written chunks ++ tail =
      written (chunks.take count) ++ (written (chunks.drop count) ++ tail) := by
    rw [← List.append_assoc, ← written_append, List.take_append_drop]
  rw [hText]
  rcases h with hCut | hCut
  · rw [List.take_left' hCut.symm]
    exact decodes_chunks _
  · rcases List.eq_nil_or_concat (chunks.take count) with hNil | ⟨done, chunk, hSnoc⟩
    · rw [hNil] at hCut
      cases hCut
    · rw [List.concat_eq_append] at hSnoc
      rw [hSnoc, written_snoc, List.length_append, List.length_append] at hCut
      have hBreak : LINE_BREAK.length = 2 := rfl
      have hHead : ∀ rest, written done ++ (chunk.head ++ LINE_BREAK) ++ rest =
          (written done ++ chunk.head) ++ (LINE_BREAK ++ rest) := by
        intro rest
        simp only [List.append_assoc]
      rw [hSnoc, written_snoc, hHead, List.take_left' (by rw [List.length_append]; omega)]
      exact decodes_data done chunk

theorem cut_short {chunks : List Chunk} {cut : Nat} (hCut : cut + 2 < (written chunks).length)
    (h : ∀ count, ¬StopsAfter chunks count cut) (tail : Bytes) :
    Decodes ((written chunks ++ tail).take cut) ((written chunks ++ tail).take cut) := by
  obtain ⟨done, chunk, rest, n, rfl, rfl, hInside⟩ :=
    cut_inside (by omega : cut < (written chunks).length)
  have hLength : chunk.bytes.length = chunk.head.length + 2 := by
    rw [Chunk.bytes, List.length_append]
    rfl
  have hDone : (done ++ chunk :: rest).take done.length = done := List.take_left
  have hNext : (done ++ chunk :: rest).take (done.length + 1) = done ++ [chunk] := by
    rw [List.take_append, List.take_of_length_le (Nat.le_succ _), Nat.add_sub_cancel_left]
    rfl
  have hStart : n ≠ 0 := by
    rintro rfl
    exact h done.length (.inl (by rw [hDone, Nat.add_zero]))
  have hData : n ≠ chunk.head.length := by
    rintro rfl
    refine h (done.length + 1) (.inr ?_)
    rw [hNext, written_snoc, List.length_append, List.length_append, Nat.add_assoc]
    rfl
  have hText : (written (done ++ chunk :: rest) ++ tail).take ((written done).length + n) =
      written done ++ chunk.bytes.take n := by
    have hFront : written (done ++ chunk :: rest) ++ tail =
        written done ++ (chunk.bytes ++ (written rest ++ tail)) := by
      rw [written_append, List.append_assoc]
      rw [written, written, written, List.flatMap_cons, List.append_assoc]
    rw [hFront, List.take_length_add_append, List.take_append_of_le_length (by omega)]
  rw [hText, Chunk.bytes]
  by_cases hHead : n < chunk.head.length
  · rw [List.take_append_of_le_length hHead.le]
    exact decodes_short done chunk (Nat.pos_of_ne_zero hStart) hHead
  · obtain rfl : n = chunk.head.length + 1 := by omega
    rw [List.take_length_add_append]
    exact decodes_half done chunk

/-- The chunks come back. Of a body that is cut off before the data of the last chunk is complete,
the chunks before the cut come back if the cut is where the last of them ends, before or behind its
line break, and otherwise the bytes that are left. -/
theorem decodes_written (text : ChunkedText) :
    Decodes text.bytes (payload text.chunks) ∧
      ∀ cut, cut + 2 < (written text.chunks).length →
        (∀ count, StopsAfter text.chunks count cut →
          Decodes (text.bytes.take cut) (payload (text.chunks.take count))) ∧
        ((∀ count, ¬StopsAfter text.chunks count cut) →
          Decodes (text.bytes.take cut) (text.bytes.take cut)) :=
  ⟨decodes_text text, fun _ hCut => ⟨fun _ hStops => stops_after hStops _,
    fun hNever => cut_short hCut hNever _⟩⟩

/-! ## Two chunks -/

def oneByte : SizeLine where
  digits := [49]
  extension := []
  digits_ne := by decide
  digits_hex := List.forall_mem_singleton.mpr rfl
  extension_head := by simp
  extension_line := by decide

/-- `1`, `a`, `1`, `b` and `0`, each in a line of its own. -/
def twoChunks : ChunkedText where
  chunks := [⟨oneByte, [97], by simp, rfl⟩, ⟨oneByte, [98], by simp, rfl⟩]
  last := { oneByte with digits := [48], digits_ne := by simp, digits_hex := List.forall_mem_singleton.mpr rfl }
  trailer := []
  last_size := rfl

/-- The first two bytes, where the line break of the first size is cut, and the first chunk. -/
theorem decodes_written_two : Decodes twoChunks.bytes [97, 98] ∧
    Decodes (twoChunks.bytes.take 2) [49, 13] ∧ Decodes (twoChunks.bytes.take 6) [97] := by
  obtain ⟨hWhole, hCut⟩ := decodes_written twoChunks
  refine ⟨hWhole, (hCut 2 (by decide)).2 ?_, (hCut 6 (by decide)).1 1 (.inl rfl)⟩
  intro count hStops
  match count with
  | 0 => exact absurd hStops (by unfold StopsAfter; decide)
  | 1 => exact absurd hStops (by unfold StopsAfter; decide)
  | count + 2 =>
    have hAll : twoChunks.chunks.take (count + 2) = twoChunks.chunks :=
      List.take_of_length_le (Nat.le_add_left 2 count)
    rw [StopsAfter, hAll] at hStops
    revert hStops
    decide

/-- A body cut off behind its first chunk loses the framing of that chunk. -/
theorem cut_between_chunks : ¬∀ (text : ChunkedText) (cut : Nat),
    cut + 2 < (written text.chunks).length →
      Decodes (text.bytes.take cut) (text.bytes.take cut) := by
  intro hAll
  have hStops : StopsAfter twoChunks.chunks 1 6 := .inl rfl
  have hFirst : Decodes (twoChunks.bytes.take 6) (payload (twoChunks.chunks.take 1)) :=
    stops_after hStops _
  exact absurd (hFirst.unique (hAll twoChunks 6 (by decide))) (by decide)

end Sniff4Hound
