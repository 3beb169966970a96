import Sniff4Hound.Mobile.LogTail

/-!
# Each line once

The follower holds the offset of a line end, and what it has shown are the whole lines between the
start of the seeded tail and there (`Reading`). A poll reads on by whole lines, and as long as no
line reaches the read limit, polls read everything up to the last line end.

The tail is taken for a place within a line, and what stands before its first line break is dropped.
If the byte before the tail is a line break, that is a whole line (`exactly_once_iff`).
-/

namespace Sniff4Hound.Mobile

open WholeLines

variable {ε : Type*} {record : Bytes → Option ε}

/-! ## Lines -/

theorem splitlines_append (returned : Bool) (line front back : Bytes) :
    splitlines returned line (front ++ NEWLINE :: back) =
      splitlines returned line (front ++ [NEWLINE]) ++ splitlines false [] back := by
  induction front generalizing returned line with
  | nil =>
    rw [List.nil_append, List.nil_append, splitlines, splitlines, if_pos rfl, if_pos rfl]
    cases returned <;> rfl
  | cons b front ih =>
    rw [List.cons_append, List.cons_append, splitlines, splitlines, ih, ih, ih]
    split
    · split <;> rfl
    · split <;> rfl

theorem parse_append {front : Bytes} (h : Closed NEWLINE front) (back : Bytes) :
    parse_log_lines record (front ++ back) =
      parse_log_lines record front ++ parse_log_lines record back := by
  rcases h with rfl | ⟨line, rfl⟩
  · rfl
  · rw [parse_log_lines, List.append_assoc, List.singleton_append, splitlines_append,
      List.filterMap_append]
    rfl

def Broken (text : Bytes) : Prop :=
  ∀ block, block <:+: text → LOG_READ_LIMIT ≤ block.length → NEWLINE ∈ block

theorem Broken.mono {text more : Bytes} (h : Broken more) (hText : text <+: more) : Broken text :=
  fun block hBlock => h block (hBlock.trans hText.isInfix)

/-! ## The follower -/

namespace LogFollower

variable {s : LogFollower ε} {source other : String} {pre read rest : Bytes}

def text (s : LogFollower ε) (source : String) : Bytes := (s.files source).getD []

/-- The file falls into what the seed left out, the whole lines that were shown, and the rest, and
the follower goes on at the rest. -/
structure Reading (record : Bytes → Option ε) (s : LogFollower ε) (source : String)
    (pre read rest : Bytes) : Prop where
  text : s.text source = pre ++ read ++ rest
  closed : Closed NEWLINE read
  shown : s.shown source = parse_log_lines record read
  offset : (s.log_offsets.lookup source).getD (s.inode source, 0) =
    (s.inode source, (pre ++ read).length)

theorem Reading.congr {t : LogFollower ε} (h : Reading record s source pre read rest)
    (hFiles : t.files source = s.files source) (hInode : t.inode = s.inode)
    (hOffsets : (t.log_offsets.lookup source).getD (t.inode source, 0) =
      (s.log_offsets.lookup source).getD (s.inode source, 0))
    (hShown : t.shown source = s.shown source) : Reading record t source pre read rest where
  text := by rw [LogFollower.text, hFiles]; exact h.text
  closed := h.closed
  shown := hShown.trans h.shown
  offset := by rw [hOffsets, hInode]; exact h.offset

theorem show_lines_other (record : Bytes → Option ε) (s : LogFollower ε) (offset : Nat)
    (lines : Bytes) (hOther : source ≠ other) :
    (s.show_lines record other offset lines).log_offsets.lookup source =
        s.log_offsets.lookup source ∧
      (s.show_lines record other offset lines).shown source = s.shown source := by
  rw [show_lines]
  exact ⟨by rw [Dict.lookup_set, if_neg hOther], Function.update_of_ne hOther ..⟩

theorem Reading.show (h : Reading record s source pre read rest) {lines more : Bytes}
    (hRest : rest = lines ++ more) (hLines : Closed NEWLINE lines) {offset : Nat}
    (hOffset : offset = (pre ++ read ++ lines).length) :
    Reading record (s.show_lines record source offset lines) source pre (read ++ lines) more where
  text := by
    rw [show_lines]
    refine h.text.trans ?_
    rw [hRest, List.append_assoc, List.append_assoc, List.append_assoc]
  closed := h.closed.append hLines
  shown := by
    rw [show_lines, parse_append h.closed, ← h.shown]
    exact Function.update_self ..
  offset := by
    rw [show_lines, Dict.lookup_set, if_pos rfl, Option.getD_some, hOffset, List.append_assoc]

/-! ## Polls -/

theorem poll_other (record : Bytes → Option ε) (s : LogFollower ε) (opens : Bool)
    (hOther : source ≠ other) (h : Reading record s source pre read rest) :
    Reading record (s.read_new_log_lines record other opens) source pre read rest := by
  have hSet (entry : Nat × Nat) : Reading record
      { s with log_offsets := s.log_offsets.set other entry } source pre read rest :=
    h.congr rfl rfl (by rw [Dict.lookup_set, if_neg hOther]) rfl
  rw [read_new_log_lines]
  cases s.files other with
  | none => exact h.congr rfl rfl (by rw [Dict.lookup_erase, if_neg hOther]) rfl
  | some file =>
    dsimp only
    generalize s.read_offset other file.length = offset
    rw [read_from]
    dsimp only
    generalize (file.drop offset).take (min (file.length - offset) LOG_READ_LIMIT) = data
    split
    · exact hSet _
    · split
      · exact h
      · split
        · split
          · exact hSet _
          · exact h
        · obtain ⟨hOffsets, hShown⟩ := show_lines_other record s
            (offset + (whole NEWLINE data).length) (whole NEWLINE data) hOther
          exact h.congr rfl rfl (by rw [hOffsets, show_lines]) hShown

variable (h : Reading record s source pre read rest)

include h

theorem read_offset_eq : s.read_offset source (s.text source).length = (pre ++ read).length := by
  rw [read_offset, h.offset]
  dsimp only
  rw [if_neg]
  rintro (hNode | hShort)
  · exact hNode rfl
  · rw [h.text, List.length_append] at hShort
    omega

theorem poll_reading (hBroken : Broken (s.text source))
    (opens : Bool) : ∃ lines more, rest = lines ++ more ∧ Closed NEWLINE lines ∧
      (opens = true → NEWLINE ∈ rest → lines ≠ []) ∧
      Reading record (s.read_new_log_lines record source opens) source pre (read ++ lines)
        more := by
  have hText := h.text
  have hOffset := read_offset_eq h
  have hStay {t : LogFollower ε} (ht : Reading record t source pre read rest)
      (hNone : opens = true → NEWLINE ∉ rest) : ∃ lines more, rest = lines ++ more ∧
        Closed NEWLINE lines ∧ (opens = true → NEWLINE ∈ rest → lines ≠ []) ∧
        Reading record t source pre (read ++ lines) more := by
    refine ⟨[], rest, rfl, .inl rfl, fun hOpens hBreak => absurd hBreak (hNone hOpens), ?_⟩
    rwa [List.append_nil]
  rw [read_new_log_lines]
  cases hFile : s.files source with
  | none =>
    rw [text, hFile, Option.getD_none] at hText
    obtain ⟨hFront, rfl⟩ := List.append_eq_nil_iff.mp hText.symm
    refine hStay (h.congr rfl rfl ?_ rfl) fun _ => List.not_mem_nil
    have hEntry := h.offset
    rw [hFront] at hEntry
    rw [Dict.lookup_erase, if_pos rfl, hEntry]
    rfl
  | some file =>
    have hWhole : s.text source = file := by rw [text, hFile, Option.getD_some]
    rw [hWhole] at hText hOffset hBroken
    dsimp only
    rw [hOffset, read_from]
    have hLength : file.length = (pre ++ read).length + rest.length := by
      rw [hText, List.length_append]
    have hData : (file.drop (pre ++ read).length).take
        (min (file.length - (pre ++ read).length) LOG_READ_LIMIT) = rest.take LOG_READ_LIMIT := by
      rw [hText, List.drop_left, List.length_append, Nat.add_sub_cancel_left,
        List.take_eq_take_iff]
      omega
    dsimp only
    rw [hData]
    obtain ⟨after, hAfter, -⟩ := @exists_rest _ _ NEWLINE (rest.take LOG_READ_LIMIT)
    have hRest : rest = whole NEWLINE (rest.take LOG_READ_LIMIT) ++
        (after ++ rest.drop LOG_READ_LIMIT) := by
      rw [← List.append_assoc, ← hAfter, List.take_append_drop]
    have hBlock : rest.take LOG_READ_LIMIT <:+: file := by
      rw [hText]
      exact (List.take_prefix _ _).isInfix.trans (List.suffix_append _ _).isInfix
    split
    · next hEnd =>
      have hNone : rest = [] := List.eq_nil_of_length_eq_zero (by omega)
      refine hStay (h.congr rfl rfl ?_ rfl) fun _ => hNone ▸ List.not_mem_nil
      rw [Dict.lookup_set, if_pos rfl, h.offset, Option.getD_some]
    · split
      · next hShut => exact hStay h fun hOpens => absurd hShut (by rw [hOpens]; decide)
      · split
        · next hNone =>
          have hBreak : NEWLINE ∉ rest.take LOG_READ_LIMIT := (whole_eq_nil_iff _).mp hNone
          have hShort : ¬LOG_READ_LIMIT ≤ (rest.take LOG_READ_LIMIT).length := fun hLong =>
            hBreak (hBroken _ hBlock hLong)
          have hAll : rest.take LOG_READ_LIMIT = rest := by
            rw [List.length_take] at hShort
            exact List.take_of_length_le (by omega)
          rw [if_neg hShort]
          exact hStay h fun _ => hAll ▸ hBreak
        · next hSome =>
          exact ⟨_, _, hRest, closed_whole _, fun _ _ => hSome,
            h.show hRest (closed_whole _) (List.length_append ..).symm⟩

/-! ## Runs -/

omit h in
theorem poll_files (record : Bytes → Option ε) (s : LogFollower ε) (source : String)
    (opens : Bool) : (s.read_new_log_lines record source opens).files = s.files := by
  rw [read_new_log_lines]
  split
  · rfl
  · rw [read_from]
    dsimp only
    split
    · rfl
    · split
      · rfl
      · split
        · split <;> rfl
        · rfl

omit h in
theorem step_text (record : Bytes → Option ε) (s : LogFollower ε) (step : LogStep)
    (source : String) : s.text source <+: (s.step record step).text source := by
  cases step with
  | poll other opens =>
    rw [LogFollower.step, text, text, poll_files]
  | append other piece =>
    rw [LogFollower.step, text, text]
    dsimp only
    by_cases hSame : source = other
    · subst hSame
      rw [Function.update_self]
      exact List.prefix_append _ _
    · rw [Function.update_of_ne hSame]

omit h in
theorem run_text (record : Bytes → Option ε) (s : LogFollower ε) (steps : List LogStep)
    (source : String) : s.text source <+: (s.run record steps).text source := by
  induction steps generalizing s with
  | nil => exact List.prefix_refl _
  | cons step steps ih => exact (step_text record s step source).trans (ih (s.step record step))

theorem step_reading (hBroken : Broken (s.text source)) (step : LogStep) : ∃ lines more,
      Reading record (s.step record step) source pre (read ++ lines) more := by
  have hKeep {t : LogFollower ε} {more : Bytes} (ht : Reading record t source pre read more) :
      ∃ lines more, Reading record t source pre (read ++ lines) more :=
    ⟨[], more, by rwa [List.append_nil]⟩
  cases step with
  | poll other opens =>
    by_cases hSame : source = other
    · subst hSame
      obtain ⟨lines, more, -, -, -, hReading⟩ := poll_reading h hBroken opens
      exact ⟨lines, more, hReading⟩
    · exact hKeep (poll_other record s opens hSame h)
  | append other piece =>
    by_cases hSame : source = other
    · subst hSame
      refine ⟨[], rest ++ piece, ?_, ?_, ?_, ?_⟩
      · have hUpdate := congrArg (Option.getD · []) (Function.update_self source
          (some ((s.files source).getD [] ++ piece)) s.files)
        refine hUpdate.trans ?_
        rw [List.append_nil, ← List.append_assoc, ← h.text]
        rfl
      · rw [List.append_nil]
        exact h.closed
      · rw [List.append_nil]
        exact h.shown
      · rw [List.append_nil]
        exact h.offset
    · exact hKeep (h.congr (Function.update_of_ne hSame ..) rfl rfl rfl)

theorem run_reading {steps : List LogStep} (hBroken : Broken ((s.run record steps).text source)) :
    ∃ lines more,
      Reading record (s.run record steps) source pre (read ++ lines) more := by
  induction steps generalizing s read rest with
  | nil => exact ⟨[], rest, by rwa [List.append_nil]⟩
  | cons step steps ih =>
    obtain ⟨lines, more, hStep⟩ :=
      step_reading h (hBroken.mono (run_text record s (step :: steps) source)) step
    obtain ⟨lines', more', hRun⟩ := ih hStep hBroken
    exact ⟨lines ++ lines', more', by rwa [← List.append_assoc]⟩

def polls (source : String) (n : Nat) : List LogStep := List.replicate n (.poll source true)

theorem polls_reading (hBroken : Broken (s.text source))
    {n : Nat} (hn : rest.count NEWLINE ≤ n) : ∃ lines more, rest = lines ++ more ∧ NEWLINE ∉ more ∧
      Reading record (s.run record (polls source n)) source pre (read ++ lines) more := by
  induction n generalizing s read rest with
  | zero =>
    refine ⟨[], rest, rfl, List.count_eq_zero.mp (Nat.le_zero.mp hn), ?_⟩
    rwa [List.append_nil]
  | succ n ih =>
    obtain ⟨lines, more, hRest, hClosed, hProgress, hPoll⟩ := poll_reading h hBroken true
    have hBroken' : Broken ((s.read_new_log_lines record source true).text source) := by
      rw [text, poll_files]
      exact hBroken
    have hCount := congrArg (List.count NEWLINE) hRest
    rw [List.count_append] at hCount
    have hLess : more.count NEWLINE ≤ n := by
      by_cases hBreak : NEWLINE ∈ rest
      · obtain ⟨front, hFront⟩ := hClosed.resolve_left (hProgress rfl hBreak)
        have hOne : 0 < lines.count NEWLINE := List.count_pos_iff.mpr
          (hFront ▸ List.mem_append_right _ (List.mem_singleton_self _))
        omega
      · have hZero := List.count_eq_zero.mpr hBreak
        omega
    obtain ⟨lines', more', hMore, hEnd, hRun⟩ := ih hPoll hBroken' hLess
    refine ⟨lines ++ lines', more', ?_, hEnd, ?_⟩
    · rw [hRest, hMore, List.append_assoc]
    · rw [← List.append_assoc]
      exact hRun

omit h

/-! ## The seed -/

def tail_start (file : Bytes) : Nat := file.length - LOG_TAIL_BYTES

def tail_line (file : Bytes) : Bytes :=
  (file.drop (tail_start file)).takeWhile (· ≠ NEWLINE) ++ [NEWLINE]

def seed_start (file : Bytes) : Nat :=
  if file.length ≤ LOG_TAIL_BYTES then 0 else tail_start file + (tail_line file).length

def first_full_line (file : Bytes) : Nat :=
  if LOG_TAIL_BYTES < file.length ∧ file[tail_start file - 1]? ≠ some NEWLINE then
    tail_start file + (tail_line file).length
  else tail_start file

theorem behind_break_eq {data : Bytes} (h : NEWLINE ∈ data) :
    data = data.takeWhile (· ≠ NEWLINE) ++ [NEWLINE] ++ behind_break data := by
  induction data with
  | nil => cases h
  | cons b data ih =>
    by_cases hBreak : b = NEWLINE
    · subst hBreak
      rw [behind_break, List.takeWhile_cons_of_neg (by simp), List.dropWhile_cons_of_neg
        (by simp)]
      rfl
    · have hLater : NEWLINE ∈ data := (List.mem_cons.mp h).resolve_left fun hSame =>
        hBreak hSame.symm
      rw [behind_break, List.takeWhile_cons_of_pos (by simpa using hBreak),
        List.dropWhile_cons_of_pos (by simpa using hBreak)]
      exact congrArg (List.cons b) (ih hLater)

theorem seed_split {file : Bytes} (hBroken : Broken file) :
    ∃ pre body, file = pre ++ body ∧ Closed NEWLINE pre ∧ pre.length = seed_start file ∧
      (LOG_TAIL_BYTES < file.length → pre.drop (tail_start file) = tail_line file) ∧
      (let span := min file.length LOG_TAIL_BYTES
       let data := (file.drop (file.length - span)).take span
       (if span < file.length then behind_break data else data) = body) := by
  by_cases hSmall : file.length ≤ LOG_TAIL_BYTES
  · refine ⟨[], file, rfl, .inl rfl, (if_pos hSmall).symm,
      fun hLong => absurd hSmall (Nat.not_le.mpr hLong), ?_⟩
    dsimp only
    rw [Nat.min_eq_left hSmall, if_neg (lt_irrefl _), Nat.sub_self, List.drop_zero,
      List.take_length]
  · have hLong : LOG_TAIL_BYTES < file.length := Nat.lt_of_not_le hSmall
    have hWindow : ((file.drop (tail_start file)).take LOG_TAIL_BYTES)
        = file.drop (tail_start file) := by
      refine List.take_of_length_le ?_
      rw [List.length_drop, tail_start]
      omega
    have hBreak : NEWLINE ∈ file.drop (tail_start file) := by
      refine hBroken _ (List.drop_suffix _ _).isInfix ?_
      rw [List.length_drop, tail_start, Nat.sub_sub_self hLong.le]
      decide
    refine ⟨file.take (tail_start file) ++ tail_line file, behind_break
      (file.drop (tail_start file)),
      ?_, ?_, ?_, fun _ => ?_, ?_⟩
    · rw [List.append_assoc, tail_line, ← behind_break_eq hBreak, List.take_append_drop]
    · exact .inr ⟨file.take (tail_start file) ++ _, (List.append_assoc ..).symm⟩
    · rw [seed_start, if_neg hSmall, List.length_append, List.length_take, tail_start]
      omega
    · refine List.drop_left' ?_
      rw [List.length_take, tail_start]
      omega
    · dsimp only
      rw [Nat.min_eq_right hLong.le, if_pos hLong, ← tail_start, hWindow]

theorem seed_reading (hShown : s.shown source = []) (hNew : s.log_offsets.lookup source = none)
    (hBroken : Broken (s.text source)) : ∃ pre read rest, Closed NEWLINE pre ∧
      pre.length = seed_start (s.text source) ∧
      (LOG_TAIL_BYTES < (s.text source).length →
        pre.drop (tail_start (s.text source)) = tail_line (s.text source)) ∧
      Reading record (s.seed_log_source record source) source pre read rest := by
  rw [seed_log_source]
  cases hFile : s.files source with
  | none =>
    have hText : s.text source = [] := by rw [text, hFile, Option.getD_none]
    refine ⟨[], [], [], .inl rfl, ?_, ?_, ⟨hText, .inl rfl, hShown, ?_⟩⟩
    · rw [hText]
      rfl
    · rw [hText]
      exact fun hLong => absurd hLong (Nat.not_lt_zero _)
    · rw [hNew]
      rfl
  | some file =>
    have hText : s.text source = file := by rw [text, hFile, Option.getD_some]
    rw [hText] at hBroken ⊢
    obtain ⟨pre, body, hSplit, hPre, hStart, hLine, hBody⟩ := seed_split hBroken
    obtain ⟨rest, hRest, -⟩ := @exists_rest _ _ NEWLINE body
    dsimp only at hBody ⊢
    rw [hBody]
    refine ⟨pre, whole NEWLINE body, rest, hPre, hStart, hLine, ?_, closed_whole body, ?_, ?_⟩
    · rw [show_lines, List.append_assoc, ← hRest, ← hSplit]
      exact hText
    · refine (Function.update_self ..).trans ?_
      rw [hShown, List.nil_append]
    · rw [show_lines, Dict.lookup_set, if_pos rfl, Option.getD_some, List.length_append]
      have hLength := congrArg List.length hSplit
      have hLength' := congrArg List.length hRest
      rw [List.length_append] at hLength hLength'
      congr 1
      omega

theorem seed_other (record : Bytes → Option ε) (s : LogFollower ε) (hOther : source ≠ other) :
    (s.seed_log_source record other).files = s.files ∧
      (s.seed_log_source record other).inode = s.inode ∧
      (s.seed_log_source record other).log_offsets.lookup source = s.log_offsets.lookup source ∧
      (s.seed_log_source record other).shown source = s.shown source := by
  rw [seed_log_source]
  split
  · exact ⟨rfl, rfl, rfl, rfl⟩
  · exact ⟨rfl, rfl, show_lines_other record s _ _ hOther⟩

def seeded (files : String → Option Bytes) (source : String) : Bytes := (files source).getD []

theorem start_reading (record : Bytes → Option ε) (files : String → Option Bytes)
    (inode : String → Nat) (hSource : source ∈ LOG_SOURCES)
    (hBroken : Broken (seeded files source)) :
    ∃ pre read rest, Closed NEWLINE pre ∧ pre.length = seed_start (seeded files source) ∧
      (LOG_TAIL_BYTES < (seeded files source).length →
        pre.drop (tail_start (seeded files source)) = tail_line (seeded files source)) ∧
      Reading record (LogFollower.seed record files inode) source pre read rest := by
  have hSeed : LogFollower.seed record files inode = ((⟨files, inode, [], fun _ => []⟩ :
      LogFollower ε).seed_log_source record "web").seed_log_source record "capture" := rfl
  rw [hSeed]
  generalize hStart : (⟨files, inode, [], fun _ => []⟩ : LogFollower ε) = start
  have hText : ∀ source, start.text source = seeded files source := fun _ => hStart ▸ rfl
  have hShown : ∀ source, start.shown source = [] := fun _ => hStart ▸ rfl
  have hNew : ∀ source, start.log_offsets.lookup source = none := fun _ => hStart ▸ rfl
  rw [← hText] at hBroken ⊢
  rw [LOG_SOURCES, List.mem_cons, List.mem_singleton] at hSource
  rcases hSource with rfl | rfl
  · obtain ⟨pre, read, rest, hPre, hLength, hLine, hReading⟩ :=
      @seed_reading _ record _ _ (hShown "web") (hNew "web") hBroken
    obtain ⟨hFiles, hInode, hOffsets, hSame⟩ := seed_other record
      (start.seed_log_source record "web") (show "web" ≠ "capture" by decide)
    exact ⟨pre, read, rest, hPre, hLength, hLine,
      hReading.congr (congrFun hFiles _) hInode (by rw [hOffsets, hInode]) hSame⟩
  · obtain ⟨hFiles, hInode, hOffsets, hSame⟩ := seed_other record start
      (show "capture" ≠ "web" by decide)
    have hText' : (start.seed_log_source record "web").text "capture" = start.text "capture" := by
      rw [text, text, hFiles]
    rw [← hText'] at hBroken ⊢
    exact seed_reading (hSame.trans (hShown "capture")) (hOffsets.trans (hNew "capture")) hBroken

/-! ## The contract -/

/-- What a run has shown of a file are whole lines from the first full line of the seeded tail on,
and as many polls as the file has bytes show all of them. -/
def ExactlyOnce (record : Bytes → Option ε) (source : String) (seeded : Bytes)
    (s : LogFollower ε) : Prop :=
  let lines := (whole NEWLINE (s.text source)).drop (first_full_line seeded)
  (∃ front, Closed NEWLINE front ∧ front <+: lines ∧
    s.shown source = parse_log_lines record front) ∧
  ∀ n, (s.text source).length ≤ n →
    (s.run record (polls source n)).shown source = parse_log_lines record lines

/-- The seeded file fits into the tail, or the tail begins within a line, or with one that shows
nothing. -/
def Aligned (record : Bytes → Option ε) (seeded : Bytes) : Prop :=
  seeded.length ≤ LOG_TAIL_BYTES ∨ seeded[tail_start seeded - 1]? ≠ some NEWLINE ∨
    parse_log_lines record (tail_line seeded) = []

theorem closed_drop {front : Bytes} (h : Closed NEWLINE front) (n : Nat) :
    Closed NEWLINE (front.drop n) := by
  rcases h with rfl | ⟨line, rfl⟩
  · exact .inl List.drop_nil
  · by_cases hn : n ≤ line.length
    · exact .inr ⟨line.drop n, List.drop_append_of_le_length hn⟩
    · refine .inl (List.drop_eq_nil_of_le ?_)
      rw [List.length_append, List.length_singleton]
      omega

theorem first_full_le (file : Bytes) : first_full_line file ≤ seed_start file := by
  rw [first_full_line, seed_start, tail_start]
  split
  · next hLong => rw [if_neg (Nat.not_le.mpr hLong.1)]
  · split
    · omega
    · omega

/-- What the seed leaves out behind the first full line shows nothing just when the seed is
aligned. -/
theorem gap_iff {pre file : Bytes} (hStart : pre.length = seed_start file)
    (hLine : LOG_TAIL_BYTES < file.length → pre.drop (tail_start file) = tail_line file) :
    parse_log_lines record (pre.drop (first_full_line file)) = [] ↔ Aligned record file := by
  rw [Aligned]
  by_cases hLong : LOG_TAIL_BYTES < file.length
  · by_cases hWithin : file[tail_start file - 1]? ≠ some NEWLINE
    · refine iff_of_true ?_ (.inr (.inl hWithin))
      have hFull : first_full_line file = pre.length := by
        rw [first_full_line, if_pos ⟨hLong, hWithin⟩, hStart, seed_start,
          if_neg (Nat.not_le.mpr hLong)]
      rw [hFull, List.drop_length]
      rfl
    · have hFull : first_full_line file = tail_start file := if_neg fun hBoth => hWithin hBoth.2
      rw [hFull, hLine hLong]
      constructor
      · exact fun hNone => .inr (.inr hNone)
      · rintro (hShort | hOther | hNone)
        · exact absurd hLong (Nat.not_lt.mpr hShort)
        · exact absurd hOther hWithin
        · exact hNone
  · have hShort := Nat.not_lt.mp hLong
    refine iff_of_true ?_ (.inl hShort)
    have hNone : pre = [] := by
      rw [seed_start, if_pos hShort] at hStart
      exact List.eq_nil_of_length_eq_zero hStart
    rw [hNone, List.drop_nil]
    rfl

theorem seed_text (record : Bytes → Option ε) (files : String → Option Bytes)
    (inode : String → Nat) (source : String) :
    (LogFollower.seed record files inode).text source = seeded files source := by
  have hFiles (s : LogFollower ε) (other : String) :
      (s.seed_log_source record other).files = s.files := by
    rw [seed_log_source]
    split <;> rfl
  rw [text, seeded, LogFollower.seed, LOG_SOURCES, List.foldl_cons, List.foldl_cons, List.foldl_nil,
    hFiles, hFiles]

theorem once_iff (record : Bytes → Option ε) (files : String → Option Bytes)
    (inode : String → Nat) (steps : List LogStep) (hSource : source ∈ LOG_SOURCES)
    (hBroken : Broken (((LogFollower.seed record files inode).run record steps).text source)) :
    ExactlyOnce record source (seeded files source)
        ((LogFollower.seed record files inode).run record steps) ↔
      Aligned record (seeded files source) := by
  have hSeeded : Broken (seeded files source) := by
    rw [← seed_text record files inode source]
    exact hBroken.mono (run_text record _ steps source)
  obtain ⟨pre, read, rest, hPre, hStart, hLine, hSeed⟩ :=
    start_reading record files inode hSource hSeeded
  obtain ⟨lines, more, hReading⟩ := run_reading hSeed hBroken
  generalize (LogFollower.seed record files inode).run record steps = s at hBroken hReading ⊢
  have hGap : first_full_line (seeded files source) ≤ pre.length := by
    rw [hStart]
    exact first_full_le _
  have hClosed := closed_drop hPre (first_full_line (seeded files source))
  have hParse (tail : Bytes) : parse_log_lines record
      ((pre ++ tail).drop (first_full_line (seeded files source))) =
        parse_log_lines record (pre.drop (first_full_line (seeded files source))) ++
          parse_log_lines record tail := by
    rw [List.drop_append_of_le_length hGap, parse_append hClosed]
  -- enough polls show what is whole behind the part that the seed left out
  have hAfter : ∀ n, (s.text source).length ≤ n → ∃ tail,
      whole NEWLINE (s.text source) = pre ++ tail ∧
        (s.run record (polls source n)).shown source = parse_log_lines record tail := by
    intro n hn
    have hCount : more.count NEWLINE ≤ n := by
      have hLength := congrArg List.length hReading.text
      rw [List.length_append] at hLength
      have hLe : more.count NEWLINE ≤ more.length := List.count_le_length
      omega
    obtain ⟨lines', more', rfl, hEnd, hPolls⟩ := polls_reading hReading hBroken hCount
    refine ⟨read ++ lines ++ lines', ?_, hPolls.shown⟩
    rw [hReading.text, ← List.append_assoc, whole_append _ hEnd, List.append_assoc]
    rw [List.append_assoc]
    exact hPre.append hPolls.closed
  rw [← gap_iff hStart hLine]
  constructor
  · rintro ⟨-, hAll⟩
    obtain ⟨tail, hWhole, hShown⟩ := hAfter _ le_rfl
    have hSame := (hAll _ le_rfl).symm.trans hShown
    rw [hWhole, hParse] at hSame
    simpa using hSame
  · intro hNone
    constructor
    · refine ⟨pre.drop (first_full_line (seeded files source)) ++ (read ++ lines),
        hClosed.append hReading.closed, ?_, ?_⟩
      · rw [hReading.text, List.append_assoc, whole_closed_append hPre,
          List.drop_append_of_le_length hGap, whole_closed_append hReading.closed,
          List.prefix_append_right_inj]
        exact List.prefix_append _ _
      · rw [parse_append hClosed, hNone, List.nil_append]
        exact hReading.shown
    · intro n hn
      obtain ⟨tail, hWhole, hShown⟩ := hAfter n hn
      rw [hShown, hWhole, hParse, hNone, List.nil_append]

/-- For every history of two log files that only grow, with lines below the read limit: each line
from the first full one of the seeded tail on is shown once, just when the file fits into the tail,
or the tail begins within a line, or with a line that shows nothing. -/
theorem exactly_once_iff (record : Bytes → Option ε) (files : String → Option Bytes)
    (inode : String → Nat) (steps : List LogStep) (hSource : source ∈ LOG_SOURCES)
    (hShort : Short NEWLINE LOG_READ_LIMIT
      (((LogFollower.seed record files inode).run record steps).text source)) :
    ExactlyOnce record source (seeded files source)
        ((LogFollower.seed record files inode).run record steps) ↔
      Aligned record (seeded files source) :=
  once_iff record files inode steps hSource fun _ hBlock hLong => hShort.break_mem hBlock hLong

/-- A file of two bytes and an unfinished line, which is then finished. -/
theorem exactly_once_finished :
    ExactlyOnce (fun line => some line) "web" [97, 10, 98]
      ((LogFollower.seed (fun line => some line) (fun _ => some [97, 10, 98]) (fun _ => 7)).run
        (fun line => some line) [.poll "web" true, .append "web" [99, 10], .poll "web" true]) :=
  (exactly_once_iff (fun line => some line) (fun _ => some [97, 10, 98]) (fun _ => 7)
    [.poll "web" true, .append "web" [99, 10], .poll "web" true] (by decide)
    (by unfold Short; decide +kernel)).mpr (.inl (by decide))

/-! ## A line that is lost -/

def messageLine : Bytes :=
  "\x7b\"message\":\"a\"\x7d".toList.map fun c => UInt8.ofNat c.toNat

def messages (n : Nat) : Bytes := (List.replicate n (messageLine ++ [NEWLINE])).flatten

theorem messages_succ (n : Nat) : messages (n + 1) = messageLine ++ NEWLINE :: messages n := by
  rw [messages, List.replicate_succ, List.flatten_cons, List.append_assoc, List.singleton_append,
    messages]

theorem length_messages (n : Nat) : (messages n).length = 16 * n := by
  induction n with
  | zero => rfl
  | succ n ih =>
    have hLine : messageLine.length = 15 := by decide +kernel
    rw [messages_succ, List.length_append, List.length_cons, ih, hLine]
    omega

theorem newline_notMem : NEWLINE ∉ messageLine := by decide +kernel

theorem short_messages (n : Nat) : Short NEWLINE LOG_READ_LIMIT (messages n) := by
  induction n with
  | zero =>
    intro line hLine
    rw [messages, List.replicate_zero, List.flatten_nil, List.splitOn_nil,
      List.mem_singleton] at hLine
    rw [hLine]
    decide
  | succ n ih =>
    intro line hLine
    rw [messages_succ, List.splitOn_append_cons_self, List.splitOn_eq_singleton newline_notMem,
      List.singleton_append] at hLine
    rcases List.mem_cons.mp hLine with rfl | hRest
    · decide +kernel
    · exact ih line hRest

def fullTail : Bytes := NEWLINE :: messages 153600

def messageRecord (line : Bytes) : Option String := if line = messageLine then some "a" else none

/-- The tail begins with a line, and the seed drops it. -/
theorem first_line_lost :
    Short NEWLINE LOG_READ_LIMIT fullTail ∧
      ¬ExactlyOnce messageRecord "web" fullTail
        ((LogFollower.seed messageRecord (fun _ => some fullTail)
          fun _ => 7).run messageRecord []) := by
  have hShort : Short NEWLINE LOG_READ_LIMIT fullTail := by
    intro line hLine
    rw [fullTail, ← List.nil_append (NEWLINE :: _), List.splitOn_append_cons_self,
      List.splitOn_nil, List.singleton_append] at hLine
    rcases List.mem_cons.mp hLine with rfl | hRest
    · decide
    · exact short_messages _ line hRest
  have hLength : fullTail.length = LOG_TAIL_BYTES + 1 := by
    rw [fullTail, List.length_cons, length_messages]
    rfl
  have hStart : tail_start fullTail = 1 := by rw [tail_start, hLength, Nat.add_sub_cancel_left]
  have hText : ((LogFollower.seed messageRecord (fun _ => some fullTail) fun _ => 7).run
      messageRecord []).text "web" = fullTail := seed_text ..
  have hOnce := once_iff messageRecord (fun _ => some fullTail) (fun _ => 7) []
    (show "web" ∈ LOG_SOURCES by decide) (by
      rw [hText]
      exact fun _ hBlock hLong => hShort.break_mem hBlock hLong)
  have hSeeded : seeded (fun _ => some fullTail) "web" = fullTail := rfl
  rw [hSeeded] at hOnce
  refine ⟨hShort, fun hExact => ?_⟩
  rcases hOnce.mp hExact with hSmall | hWithin | hNone
  · omega
  · rw [hStart] at hWithin
    exact hWithin rfl
  · have hOther : ∀ b ∈ messageLine, decide (b ≠ NEWLINE) = true := fun b hb =>
      decide_eq_true fun hSame => newline_notMem (hSame ▸ hb)
    have hLine : tail_line fullTail = messageLine ++ [NEWLINE] := by
      rw [tail_line, hStart, fullTail, List.drop_succ_cons, List.drop_zero, messages_succ 153599,
        List.takeWhile_append_of_pos hOther, List.takeWhile_cons_of_neg (by simp), List.append_nil]
    rw [hLine] at hNone
    exact absurd hNone (by decide +kernel)

end LogFollower

end Sniff4Hound.Mobile
