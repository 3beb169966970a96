import Sniff4Hound.Library.WhileLoop
import Sniff4Hound.Capture.Addresses
import Sniff4Hound.Capture.Messages

/-!
# Compressed DNS names

The loop of `_read_dns_name` over a payload that may hold anything. Pointers lead forwards,
backwards or round in circles, but a jump costs one of `MAX_JUMPS`, and between two jumps the
position grows: the loop ends, and the offset to go on from stays between the offset of the call
and the end of the payload.

A well-formed name (`NameAt`) is a list of labels ended by a zero byte, with the pointers that
were followed and the offset after the name where it was called for. Such a name has one number
of pointers, so that no pointer of it leads to itself.

* `read_dns_name_exact`: the loop ends on every payload and reads a well-formed name as it is.
-/

namespace Sniff4Hound

open WhileLoop

/-! ## The loop -/

/-- The variables of the loop of `_read_dns_name`. -/
structure NameScan where
  pos : Nat
  labels : List Bytes
  jumps : Nat
  resume_at : Option Nat

def NameScan.start (offset : Nat) : NameScan := ⟨offset, [], 0, none⟩

def nameRound (payload : Bytes) (s : NameScan) : Round NameScan (List Bytes × Nat) :=
  if payload.length ≤ s.pos then .leave (s.labels, s.resume_at.getD s.pos)
  else
    let length := payload.byte s.pos
    if length = 0 then .leave (s.labels, s.resume_at.getD (s.pos + 1))
    else if 0xC0 ≤ length then
      if payload.length ≤ s.pos + 1 then .leave (s.labels, s.resume_at.getD s.pos)
      else
        let pointer := 256 * (length % 0x40) + payload.byte (s.pos + 1)
        let resume := s.resume_at.getD (s.pos + 2)
        if MAX_JUMPS < s.jumps + 1 ∨ payload.length ≤ pointer ∨ pointer = s.pos then
          .leave (s.labels, resume)
        else .again ⟨pointer, s.labels, s.jumps + 1, some resume⟩
    else if payload.length < s.pos + 1 + length then
      .leave (s.labels, s.resume_at.getD (s.pos + 1))
    else
      let next := s.pos + 1 + length
      let more := s.labels ++ [payload.slice (s.pos + 1) next]
      if 128 < more.length then .leave (more, s.resume_at.getD next)
      else .again ⟨next, more, s.jumps, s.resume_at⟩

def nameText (rt : Runtime) (labels : List Bytes) : String :=
  rt.lower (stripDots (join "." (labels.map Bytes.latin1)))

section Ending

variable {payload : Bytes} {s : NameScan} {offset n : Nat} {result : List Bytes × Nat}

theorem readDnsLabels_succ :
    readDnsLabels payload (n + 1) s.pos s.labels s.jumps s.resume_at =
      match nameRound payload s with
      | .again next => readDnsLabels payload n next.pos next.labels next.jumps next.resume_at
      | .leave result => result := by
  rw [readDnsLabels, nameRound]
  by_cases hEnd : payload.length ≤ s.pos
  · rw [if_pos hEnd, if_pos hEnd]
  rw [if_neg hEnd, if_neg hEnd]
  by_cases hZero : payload.byte s.pos = 0
  · simp only [hZero, if_true]
  by_cases hMark : 0xC0 ≤ payload.byte s.pos
  · simp only [hZero, hMark, if_true, if_false]
    by_cases hCut : payload.length ≤ s.pos + 1
    · rw [if_pos hCut, if_pos hCut]
    · rw [if_neg hCut, if_neg hCut]
      split
      · rfl
      · rfl
  · simp only [hZero, hMark, if_false]
    by_cases hCut : payload.length < s.pos + 1 + payload.byte s.pos
    · rw [if_pos hCut, if_pos hCut]
    · rw [if_neg hCut, if_neg hCut]
      split
      · rfl
      · rfl

theorem readDnsLabels_eq (h : loop (nameRound payload) n s = some result) :
    readDnsLabels payload n s.pos s.labels s.jumps s.resume_at = result := by
  induction n generalizing s with
  | zero => cases h
  | succ n ih =>
    rw [readDnsLabels_succ]
    cases hRound : nameRound payload s with
    | again next => exact ih ((loop_again hRound).symm.trans h)
    | leave left => exact Option.some.inj ((loop_leave hRound).symm.trans h)

/-- What holds at the start of every round: the offset to go on from, if the name ended here,
lies between that of the call and the end. -/
structure NameScan.Inside (payload : Bytes) (offset : Nat) (s : NameScan) : Prop where
  jumps : s.jumps ≤ MAX_JUMPS
  pos : s.pos ≤ payload.length
  resume_ge : offset ≤ s.resume_at.getD s.pos
  resume_le : s.resume_at.getD s.pos ≤ payload.length

def NameScan.left (payload : Bytes) (s : NameScan) : Nat :=
  (MAX_JUMPS - s.jumps) * (payload.length + 1) + (payload.length - s.pos)

theorem NameScan.Inside.later (h : s.Inside payload offset) (pos : Nat) (hPos : s.pos ≤ pos)
    (hEnd : pos ≤ payload.length) :
    offset ≤ s.resume_at.getD pos ∧ s.resume_at.getD pos ≤ payload.length := by
  obtain ⟨_, _, hGe, hLe⟩ := h
  cases hResume : s.resume_at with
  | none =>
    rw [hResume] at hGe
    exact ⟨Nat.le_trans hGe hPos, hEnd⟩
  | some resume =>
    rw [hResume] at hGe hLe
    exact ⟨hGe, hLe⟩

theorem nameRound_again {next : NameScan} (h : s.Inside payload offset)
    (hRound : nameRound payload s = .again next) :
    next.Inside payload offset ∧ next.left payload < s.left payload := by
  have hJumps := h.jumps
  rw [nameRound] at hRound
  split at hRound
  · cases hRound
  rename_i hEnd
  dsimp only at hRound
  split at hRound
  · cases hRound
  rename_i hZero
  split at hRound
  · split at hRound
    · cases hRound
    rename_i hCut
    split at hRound
    · cases hRound
    rename_i hJump
    cases hRound
    simp only [not_or, Nat.not_lt, Nat.not_le] at hJump
    obtain ⟨hGe, hLe⟩ := h.later (s.pos + 2) (by omega) (by omega)
    refine ⟨⟨hJump.1, Nat.le_of_lt hJump.2.1, hGe, hLe⟩, ?_⟩
    -- one jump less is worth more than all positions together
    have hWorth : (MAX_JUMPS - s.jumps) * (payload.length + 1) =
        (MAX_JUMPS - (s.jumps + 1)) * (payload.length + 1) + (payload.length + 1) := by
      rw [← Nat.succ_mul]
      congr 1
      omega
    rw [NameScan.left, NameScan.left, hWorth]
    dsimp only
    omega
  · split at hRound
    · cases hRound
    rename_i hCut
    split at hRound
    · cases hRound
    cases hRound
    obtain ⟨hGe, hLe⟩ := h.later (s.pos + 1 + payload.byte s.pos) (by omega) (by omega)
    refine ⟨⟨hJumps, by dsimp only; omega, hGe, hLe⟩, ?_⟩
    rw [NameScan.left, NameScan.left]
    dsimp only
    omega

theorem nameRound_leave (h : s.Inside payload offset)
    (hRound : nameRound payload s = .leave result) :
    offset ≤ result.2 ∧ result.2 ≤ payload.length := by
  rw [nameRound] at hRound
  split at hRound
  · cases hRound
    exact ⟨h.resume_ge, h.resume_le⟩
  rename_i hEnd
  dsimp only at hRound
  split at hRound
  · cases hRound
    exact h.later _ (by omega) (by omega)
  split at hRound
  · split at hRound
    · cases hRound
      exact ⟨h.resume_ge, h.resume_le⟩
    rename_i hCut
    split at hRound
    · cases hRound
      exact h.later _ (by omega) (by omega)
    · cases hRound
  · split at hRound
    · cases hRound
      exact h.later _ (by omega) (by omega)
    rename_i hCut
    split at hRound
    · cases hRound
      exact h.later _ (by omega) (by omega)
    · cases hRound

theorem name_loop_ends (hOffset : offset ≤ payload.length)
    (hn : (MAX_JUMPS + 1) * (payload.length + 1) ≤ n) :
    ∃ result, loop (nameRound payload) n (.start offset) = some result ∧
      offset ≤ result.2 ∧ result.2 ≤ payload.length := by
  apply loop_total (NameScan.Inside payload offset) (NameScan.left payload)
  · exact fun _ _ h hRound => nameRound_again h hRound
  · exact fun _ _ h hRound => nameRound_leave h hRound
  · exact ⟨Nat.zero_le _, hOffset, Nat.le_refl _, hOffset⟩
  · rw [Nat.succ_mul] at hn
    rw [NameScan.left, NameScan.start, Nat.sub_zero]
    dsimp only
    omega

theorem read_dns_name_eq (rt : Runtime) (h : loop (nameRound payload) n (.start offset) = some result)
    (hOffset : offset ≤ payload.length) :
    read_dns_name rt payload offset = (nameText rt result.1, result.2) := by
  have hEnough : (MAX_JUMPS + 1) * (payload.length + 1) ≤ (MAX_JUMPS + 1) * (payload.length + 2) :=
    Nat.mul_le_mul_left _ (by omega)
  obtain ⟨found, hLoop, -⟩ := name_loop_ends hOffset hEnough
  obtain rfl := loop_unique hLoop h
  have hRead := readDnsLabels_eq hLoop
  rw [NameScan.start] at hRead
  rw [read_dns_name, hRead]
  rfl

end Ending

/-! ## Well-formed names -/

/-- The target of the pointer at `pos`. -/
def pointerAt (payload : Bytes) (pos : Nat) : Nat :=
  256 * (payload.byte pos % 0x40) + payload.byte (pos + 1)

/-- The payload encodes at `pos` a name with these labels, read through this many pointers; the
message goes on at `after`, behind the zero byte or behind the first pointer. -/
inductive NameAt (payload : Bytes) : Nat → List Bytes → Nat → Nat → Prop
  | root {pos : Nat} (hInside : pos < payload.length) (hZero : payload.byte pos = 0) :
      NameAt payload pos [] 0 (pos + 1)
  | label {pos : Nat} {labels : List Bytes} {pointers after : Nat}
      (hLength : 1 ≤ payload.byte pos ∧ payload.byte pos ≤ 63)
      (hInside : pos + 1 + payload.byte pos ≤ payload.length)
      (hRest : NameAt payload (pos + 1 + payload.byte pos) labels pointers after) :
      NameAt payload pos
        (payload.slice (pos + 1) (pos + 1 + payload.byte pos) :: labels) pointers after
  | pointer {pos : Nat} {labels : List Bytes} {pointers after : Nat}
      (hMark : 0xC0 ≤ payload.byte pos) (hInside : pos + 1 < payload.length)
      (hTarget : NameAt payload (pointerAt payload pos) labels pointers after) :
      NameAt payload pos labels (pointers + 1) (pos + 2)

section WellFormed

variable {payload : Bytes} {pos pointers pointers' after after' jumps : Nat}
variable {labels labels' seen : List Bytes} {resume_at : Option Nat}

variable (h : NameAt payload pos labels pointers after)

include h

theorem NameAt.inside : pos < payload.length := by
  cases h with
  | root hInside _ => exact hInside
  | label _ hInside _ => omega
  | pointer _ hInside _ => omega

theorem NameAt.after_bounds : pos < after ∧ after ≤ payload.length := by
  induction h with
  | root hInside _ => omega
  | label _ _ _ ih => omega
  | pointer _ hInside _ _ => omega

theorem NameAt.unique (h' : NameAt payload pos labels' pointers' after') :
    labels = labels' ∧ pointers = pointers' ∧ after = after' := by
  induction h generalizing labels' pointers' after' with
  | root _ hZero =>
    cases h' with
    | root _ _ => exact ⟨rfl, rfl, rfl⟩
    | label hLength _ _ => omega
    | pointer hMark _ _ => omega
  | label hLength _ _ ih =>
    cases h' with
    | root _ hZero => omega
    | label _ _ hRest =>
      obtain ⟨rfl, hPointers, hAfter⟩ := ih hRest
      exact ⟨rfl, hPointers, hAfter⟩
    | pointer hMark _ _ => omega
  | pointer hMark _ _ ih =>
    cases h' with
    | root _ hZero => omega
    | label hLength _ _ => omega
    | pointer _ _ hTarget =>
      obtain ⟨hLabels, rfl, -⟩ := ih hTarget
      exact ⟨hLabels, rfl, rfl⟩

omit h in
theorem NameAt.pointer_ne (hMark : 0xC0 ≤ payload.byte pos) (hInside : pos + 1 < payload.length)
    (hTarget : NameAt payload (pointerAt payload pos) labels pointers after) :
    pointerAt payload pos ≠ pos := by
  intro hSelf
  have hLonger := NameAt.pointer hMark hInside hTarget
  rw [hSelf] at hTarget
  have hSame := (hTarget.unique hLonger).2.1
  omega

omit h in
theorem nameRound_root (hInside : pos < payload.length) (hZero : payload.byte pos = 0) :
    nameRound payload ⟨pos, seen, jumps, resume_at⟩ =
      .leave (seen, resume_at.getD (pos + 1)) := by
  rw [nameRound, if_neg (Nat.not_le.mpr hInside)]
  exact if_pos hZero

omit h in
theorem nameRound_label (hLength : 1 ≤ payload.byte pos ∧ payload.byte pos ≤ 63)
    (hInside : pos + 1 + payload.byte pos ≤ payload.length) (hRoom : seen.length < 128) :
    nameRound payload ⟨pos, seen, jumps, resume_at⟩ =
      .again ⟨pos + 1 + payload.byte pos,
        seen ++ [payload.slice (pos + 1) (pos + 1 + payload.byte pos)], jumps, resume_at⟩ := by
  have hMore : ¬128 <
      (seen ++ [payload.slice (pos + 1) (pos + 1 + payload.byte pos)]).length := by
    rw [List.length_append, List.length_singleton]
    omega
  rw [nameRound, if_neg (by dsimp only; omega)]
  dsimp only
  rw [if_neg (by omega), if_neg (by omega), if_neg (by omega), if_neg hMore]

omit h in
theorem nameRound_pointer (hMark : 0xC0 ≤ payload.byte pos) (hInside : pos + 1 < payload.length)
    (hTarget : pointerAt payload pos < payload.length) (hOther : pointerAt payload pos ≠ pos)
    (hJumps : jumps + 1 ≤ MAX_JUMPS) :
    nameRound payload ⟨pos, seen, jumps, resume_at⟩ =
      .again ⟨pointerAt payload pos, seen, jumps + 1, some (resume_at.getD (pos + 2))⟩ := by
  have hFollowed : ¬(MAX_JUMPS < jumps + 1 ∨ payload.length ≤ pointerAt payload pos ∨
      pointerAt payload pos = pos) := by
    simp only [not_or, Nat.not_lt, Nat.not_le]
    exact ⟨hJumps, hTarget, hOther⟩
  rw [nameRound, if_neg (by dsimp only; omega)]
  dsimp only
  rw [if_neg (by omega), if_pos hMark, if_neg (by omega)]
  exact if_neg hFollowed

theorem NameAt.loop_reads (seen : List Bytes) (jumps : Nat) (resume_at : Option Nat)
    (hLabels : seen.length + labels.length ≤ 128) (hPointers : jumps + pointers ≤ MAX_JUMPS) :
    ∃ n, loop (nameRound payload) n ⟨pos, seen, jumps, resume_at⟩ =
      some (seen ++ labels, resume_at.getD after) := by
  induction h generalizing seen jumps resume_at with
  | root hInside hZero =>
    refine ⟨1, ?_⟩
    rw [loop_leave (nameRound_root hInside hZero), List.append_nil]
  | @label pos labels pointers after hLength hInside hRest ih =>
    rw [List.length_cons] at hLabels
    have hMore : (seen ++ [payload.slice (pos + 1) (pos + 1 + payload.byte pos)]).length +
        labels.length ≤ 128 := by
      rw [List.length_append, List.length_singleton]
      omega
    obtain ⟨n, hLoop⟩ := ih _ jumps resume_at hMore hPointers
    refine ⟨n + 1, ?_⟩
    rw [loop_again (nameRound_label hLength hInside (by omega)), hLoop, List.append_assoc]
    rfl
  | @pointer pos labels pointers after hMark hInside hTarget ih =>
    obtain ⟨n, hLoop⟩ := ih seen (jumps + 1) (some (resume_at.getD (pos + 2))) hLabels (by omega)
    refine ⟨n + 1, ?_⟩
    rw [loop_again (nameRound_pointer hMark hInside hTarget.inside
      (NameAt.pointer_ne hMark hInside hTarget) (by omega)), hLoop]
    rfl

omit h

theorem NameAt.read (rt : Runtime) (h : NameAt payload pos labels pointers after)
    (hLabels : labels.length ≤ 128) (hPointers : pointers ≤ 20) :
    read_dns_name rt payload pos = (nameText rt labels, after) := by
  obtain ⟨n, hLoop⟩ := h.loop_reads [] 0 none (by rwa [List.length_nil, Nat.zero_add])
    (by rwa [Nat.zero_add])
  have hRead := read_dns_name_eq rt hLoop (Nat.le_of_lt h.inside)
  rw [List.nil_append] at hRead
  exact hRead

end WellFormed

/-! ## The text of a name -/

/-- A label that decoding, lower case and the dots leave as it is. -/
def PlainLabel (label : Bytes) : Prop :=
  ∀ b ∈ label, b.toNat < 128 ∧ b.toNat ≠ 46 ∧ ¬(65 ≤ b.toNat ∧ b.toNat ≤ 90)

section Text

variable {payload : Bytes} {pos pointers after : Nat} {labels : List Bytes}

theorem plain_letter : ∀ n < 128, n ≠ 46 ∧ ¬(65 ≤ n ∧ n ≤ 90) →
    (Char.ofNat n).toNat < 128 ∧ Char.ofNat n ≠ '.' ∧ (Char.ofNat n).toLower = Char.ofNat n := by
  decide

theorem PlainLabel.letter {label : Bytes} (h : PlainLabel label) {c : Char}
    (hc : c ∈ label.latin1.toList) : c.toNat < 128 ∧ c ≠ '.' ∧ c.toLower = c := by
  rw [Bytes.latin1, String.toList_ofList] at hc
  obtain ⟨b, hb, rfl⟩ := List.mem_map.mp hc
  obtain ⟨hSmall, hPlain⟩ := h b hb
  exact plain_letter b.toNat hSmall hPlain

theorem NameAt.label_ne_nil (h : NameAt payload pos labels pointers after) :
    ∀ label ∈ labels, label ≠ [] := by
  induction h with
  | root _ _ => nofun
  | pointer _ _ _ ih => exact ih
  | label hLength hInside _ ih =>
    intro found hFound
    rcases List.mem_cons.mp hFound with rfl | hRest
    · apply List.ne_nil_of_length_pos
      rw [Bytes.slice, List.length_take, List.length_drop]
      omega
    · exact ih found hRest

theorem stripDots_of_ends {s : String} (hHead : s.toList.head? ≠ some '.')
    (hLast : s.toList.getLast? ≠ some '.') : stripDots s = s := by
  have hDrop {letters : List Char} (h : letters.head? ≠ some '.') :
      letters.dropWhile (· = '.') = letters := by
    cases letters with
    | nil => rfl
    | cons c rest =>
      rw [List.dropWhile_cons_of_neg]
      exact fun hc => h (congrArg some (of_decide_eq_true hc))
  rw [stripDots, hDrop hHead, hDrop (by rwa [List.head?_reverse]), List.reverse_reverse,
    String.ofList_toList]

theorem nameText_plain {rt : Runtime} (hLower : rt.LowersAscii)
    (hSome : ∀ label ∈ labels, label ≠ []) (hPlain : ∀ label ∈ labels, PlainLabel label) :
    nameText rt labels = join "." (labels.map Bytes.latin1) := by
  have hList : (join "." (labels.map Bytes.latin1)).toList =
      ['.'].intercalate ((labels.map Bytes.latin1).map String.toList) :=
    toList_join '.' _
  have hParts : Separable '.' ((labels.map Bytes.latin1).map String.toList) := by
    intro part hPart
    obtain ⟨text, hText, rfl⟩ := List.mem_map.mp hPart
    obtain ⟨label, hLabel, rfl⟩ := List.mem_map.mp hText
    constructor
    · rw [Bytes.latin1, String.toList_ofList]
      exact fun hNil => hSome label hLabel (List.map_eq_nil_iff.mp hNil)
    · exact fun hDot => ((hPlain label hLabel).letter hDot).2.1 rfl
  have hLetters : ∀ c ∈ (join "." (labels.map Bytes.latin1)).toList,
      c.toNat < 128 ∧ c.toLower = c := by
    intro c hc
    rw [hList] at hc
    rcases mem_joined hc with rfl | ⟨part, hPart, hIn⟩
    · exact ⟨by decide, rfl⟩
    · obtain ⟨text, hText, rfl⟩ := List.mem_map.mp hPart
      obtain ⟨label, hLabel, rfl⟩ := List.mem_map.mp hText
      obtain ⟨hSmall, -, hSame⟩ := (hPlain label hLabel).letter hIn
      exact ⟨hSmall, hSame⟩
  have hHead : (join "." (labels.map Bytes.latin1)).toList.head? ≠ some '.' := by
    rw [hList]
    exact hParts.head?_joined
  have hLast : (join "." (labels.map Bytes.latin1)).toList.getLast? ≠ some '.' := by
    rw [hList]
    exact hParts.getLast?_joined
  rw [nameText, stripDots_of_ends hHead hLast, hLower _ fun c hc => (hLetters c hc).1,
    List.map_congr_left fun c hc => (hLetters c hc).2, List.map_id', String.ofList_toList]

/-- On every payload the loop of `_read_dns_name` ends, and the message goes on between the offset
of the call and the end of the payload; a well-formed name within the limits is read as its labels
with dots between them, and the message goes on behind it. -/
theorem read_dns_name_exact (rt : Runtime) (hLower : rt.LowersAscii) (payload : Bytes)
    (offset : Nat) (hOffset : offset ≤ payload.length) :
    (∃ labels resume, (∀ n, (MAX_JUMPS + 1) * (payload.length + 1) ≤ n →
        loop (nameRound payload) n (.start offset) = some (labels, resume)) ∧
      read_dns_name rt payload offset = (nameText rt labels, resume) ∧
      offset ≤ resume ∧ resume ≤ payload.length) ∧
    ∀ labels pointers after, NameAt payload offset labels pointers after → pointers ≤ 20 →
      labels.length ≤ 128 → (∀ label ∈ labels, PlainLabel label) →
      read_dns_name rt payload offset = (join "." (labels.map Bytes.latin1), after) := by
  constructor
  · obtain ⟨⟨labels, resume⟩, hLoop, hGe, hLe⟩ := name_loop_ends hOffset (Nat.le_refl _)
    have hRead := read_dns_name_eq rt hLoop hOffset
    exact ⟨labels, resume, fun n hn => loop_more hLoop hn, hRead, hGe, hLe⟩
  · intro labels pointers after h hPointers hLabels hPlain
    rw [h.read rt hLabels hPointers, nameText_plain hLower h.label_ne_nil hPlain]

theorem pointed_name : NameAt [1, 97, 0, 0xC0, 0] 3 [[97]] 1 5 :=
  .pointer (by decide) (by decide) (.label (by decide) (by decide) (.root (by decide) (by decide)))

theorem read_dns_name_pointed : read_dns_name .ascii [1, 97, 0, 0xC0, 0] 3 = ("a", 5) := by
  have hPlain : ∀ label ∈ [([97] : Bytes)], PlainLabel label := by
    intro label hLabel b hb
    obtain rfl := List.mem_singleton.mp hLabel
    obtain rfl := List.mem_singleton.mp hb
    decide
  exact (read_dns_name_exact .ascii Runtime.lowersAscii_ascii _ 3 (by decide)).2 _ _ _ pointed_name
    (by decide) (by decide) hPlain

end Text

end Sniff4Hound
