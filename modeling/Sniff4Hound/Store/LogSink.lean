import Mathlib.Data.List.DropRight
import Sniff4Hound.Text.Value

/-!
# The tail of a log file

`RotatingNDJSONSink.tail` reads a window of 8192 bytes for each record that is asked for, drops the
first line of a window that does not begin the file, and keeps what ranks at least as high as
`min_level`. The table of ranks has no `CRITICAL`, which so ranks like `DEBUG`. The answer is right
exactly when the window holds enough records and the missing rank does not matter
(`tail_exact_iff`).
-/

namespace Sniff4Hound.LogSink

/-! ## Ends of filtered lists -/

section Ends

variable {α : Type*} {p q : α → Bool} {k : Nat} {l window : List α}

theorem length_rtake (k : Nat) (l : List α) : (l.rtake k).length = min k l.length := by
  rw [List.rtake, List.length_drop]
  omega

theorem rtake_suffix (k : Nat) (l : List α) : l.rtake k <:+ l := List.drop_suffix _ _

/-- The end of a selection whose members are all selected by `q` too is an end of the members that
both select. -/
theorem rtake_filter_suffix (h : ∀ x ∈ (l.filter p).rtake k, q x = true) :
    (l.filter p).rtake k <:+ l.filter fun x => p x && q x := by
  have hEnd := (rtake_suffix k (l.filter p)).filter q
  rw [List.filter_eq_self.mpr h, List.filter_filter] at hEnd
  simpa only [Bool.and_comm] using hEnd

/-- The end of what `p` selects from the back part of a list is the end of what `q` selects from all
of it. -/
theorem rtake_filter_eq_iff (hWindow : window <:+ l) :
    (window.filter p).rtake k = (l.filter q).rtake k ↔
      min k (l.filter q).length ≤ (window.filter p).length ∧
        (∀ x ∈ (l.filter q).rtake k, p x = true) ∧ ∀ x ∈ (window.filter p).rtake k, q x = true := by
  constructor
  · intro h
    refine ⟨?_, fun x hx => ?_, fun x hx => ?_⟩
    · have hLength := congrArg List.length h
      rw [length_rtake, length_rtake] at hLength
      omega
    · rw [← h] at hx
      exact (List.mem_filter.mp ((rtake_suffix _ _).subset hx)).2
    · rw [h] at hx
      exact (List.mem_filter.mp ((rtake_suffix _ _).subset hx)).2
  · rintro ⟨hEnough, hPass, hAsked⟩
    have hRead := (rtake_filter_suffix hAsked).trans (hWindow.filter fun x => p x && q x)
    have hWanted := rtake_filter_suffix hPass
    simp only [Bool.and_comm (q _)] at hWanted
    have hBound := hRead.length_le
    have hFewer : (l.filter fun x => p x && q x).length ≤ (l.filter q).length := by
      rw [← List.filter_filter]
      simpa only [List.filter_filter, Bool.and_comm] using
        (List.filter_sublist (l := l.filter q) (p := p)).length_le
    have hLength := length_rtake k (window.filter p)
    have hLength' := length_rtake k (l.filter q)
    rcases List.suffix_or_suffix_of_suffix hRead hWanted with hEnd | hEnd
    · exact hEnd.eq_of_length_le (by omega)
    · exact (hEnd.eq_of_length_le (by omega)).symm

end Ends

/-! ## Records -/

inductive Level where
  | DEBUG
  | INFO
  | WARNING
  | ERROR
  | CRITICAL
  deriving DecidableEq

def Level.name : Level → String
  | DEBUG => "DEBUG"
  | INFO => "INFO"
  | WARNING => "WARNING"
  | ERROR => "ERROR"
  | CRITICAL => "CRITICAL"

def LEVELS : List Level := [.DEBUG, .INFO, .WARNING, .ERROR, .CRITICAL]

def level? (name : String) : Option Level := LEVELS.find? fun level => decide (level.name = name)

def LOG_LEVELS : List String := ["DEBUG", "INFO", "WARNING", "ERROR"]

/-- `_LEVEL_RANK.get(name, 0)` -/
def levelRank (name : String) : Nat := if name ∈ LOG_LEVELS then LOG_LEVELS.idxOf name else 0

abbrev LogRow := List (String × Value)

/-- `str(row.get("level", "")).upper()` -/
def levelName (rt : Runtime) (row : LogRow) : String :=
  rt.upper (((row.lookup "level").getD (.str "")).toText rt)

/-- The letters of ASCII at which `str.splitlines` breaks. The three others (U+0085, U+2028 and
U+2029) are taken to be escaped in the file, as `json.dumps` does. -/
def isBreak (b : UInt8) : Bool := (10 ≤ b && b ≤ 13) || (28 ≤ b && b ≤ 30)

/-- A line of the file. Control characters and line separators are escaped in it, and `loads`
decodes it and parses it as an object. -/
structure LogRecord (rt : Runtime) (loads : List UInt8 → Option LogRow) where
  text : List UInt8
  row : LogRow
  level : Level
  one_line : ∀ b ∈ text, isBreak b = false
  loads_eq : loads text = some row
  level_eq : levelName rt row = level.name

/-! ## Reading -/

/-- `data.splitlines()` of a text without carriage returns. -/
def splitlines : List UInt8 → List (List UInt8)
  | [] => []
  | b :: data =>
    if isBreak b then [] :: splitlines data
    else
      match splitlines data with
      | [] => [[b]]
      | line :: rest => (b :: line) :: rest

/-- `RotatingNDJSONSink.tail` of a file that holds `data`. -/
def tail (rt : Runtime) (loads : List UInt8 → Option LogRow) (data : List UInt8) (lines : Int)
    (min_level : Option String) : List LogRow :=
  let wanted := (max 1 (min lines 2000)).toNat
  let size := data.length
  let span := min size (wanted * 8192)
  let read := data.drop (size - span)
  let floor := levelRank (rt.upper (min_level.getD ""))
  let rows := ((splitlines read).drop (if span < size then 1 else 0)).filterMap fun raw =>
    (loads raw).filter fun row => decide (floor ≤ levelRank (levelName rt row))
  rows.rtake wanted

variable {rt : Runtime} {loads : List UInt8 → Option LogRow}

def content (file : List (LogRecord rt loads)) : List UInt8 := file.flatMap fun r => r.text ++ [10]

def rows (file : List (LogRecord rt loads)) : List LogRow := file.map LogRecord.row

def fitting (window : Nat) : List (LogRecord rt loads) → List (LogRecord rt loads)
  | [] => []
  | r :: file => if (content (r :: file)).length < window then r :: file else fitting window file

def inWindow (window : Nat) (file : List (LogRecord rt loads)) : List (LogRecord rt loads) :=
  if (content file).length ≤ window then file else fitting window file

theorem content_cons (r : LogRecord rt loads) (file : List (LogRecord rt loads)) :
    content (r :: file) = r.text ++ 10 :: content file := by
  rw [content, List.flatMap_cons, List.append_assoc]
  rfl

theorem splitlines_line {line : List UInt8} (h : ∀ b ∈ line, isBreak b = false)
    (data : List UInt8) : splitlines (line ++ 10 :: data) = line :: splitlines data := by
  induction line with
  | nil => rfl
  | cons b line ih =>
    rw [List.cons_append, splitlines, if_neg (by simp [h b List.mem_cons_self]),
      ih fun x hx => h x (List.mem_cons_of_mem b hx)]

variable (file : List (LogRecord rt loads))

theorem splitlines_content : splitlines (content file) = file.map LogRecord.text := by
  induction file with
  | nil => rfl
  | cons r file ih => rw [content_cons, splitlines_line r.one_line, ih, List.map_cons]

theorem fitting_of_lt {window : Nat} {file : List (LogRecord rt loads)}
    (h : (content file).length < window) : fitting window file = file := by
  cases file with
  | nil => rfl
  | cons r file => rw [fitting, if_pos h]

theorem splitlines_window {front data : List UInt8}
    (hFront : front ≠ []) (h : content file = front ++ data) :
    (splitlines data).drop 1 = (fitting data.length file).map LogRecord.text := by
  induction file generalizing front with
  | nil => exact absurd (List.append_eq_nil_iff.mp h.symm).1 hFront
  | cons r file ih =>
    have hMany : ¬ (content (r :: file)).length < data.length := by
      rw [h, List.length_append]
      omega
    rw [fitting, if_neg hMany]
    rw [content_cons, List.append_eq_append_iff] at h
    rcases h with ⟨behind, rfl, hBehind⟩ | ⟨line, hText, rfl⟩
    · cases behind with
      | nil =>
        -- the window begins at the break of the record
        rw [List.nil_append] at hBehind
        rw [← hBehind, fitting_of_lt (by simp), ← splitlines_content]
        rfl
      | cons b behind =>
        rw [List.cons_append, List.cons.injEq] at hBehind
        cases behind with
        | nil =>
          -- the window begins with a record, which is dropped as a whole
          rw [List.nil_append] at hBehind
          rw [← hBehind.2, splitlines_content]
          cases file with
          | nil => rfl
          | cons next file =>
            rw [fitting, if_neg (Nat.lt_irrefl _), fitting_of_lt (by simp [content_cons]; omega)]
            rfl
        | cons c behind => exact ih (List.cons_ne_nil c behind) hBehind.2
    · have hLine : ∀ b ∈ line, isBreak b = false := fun b hb =>
        r.one_line b (hText ▸ List.mem_append_right front hb)
      rw [splitlines_line hLine, splitlines_content, fitting_of_lt (by simp; omega)]
      rfl

theorem splitlines_read (window : Nat) :
    (splitlines ((content file).drop ((content file).length - min (content file).length window))).drop
        (if min (content file).length window < (content file).length then 1 else 0) =
      (inWindow window file).map LogRecord.text := by
  rw [inWindow]
  split
  · next hCut =>
    have hWindow : min (content file).length window = window := by omega
    rw [if_neg (by omega), hWindow]
    have hLength : ((content file).drop ((content file).length - window)).length = window := by
      rw [List.length_drop]
      omega
    have hFront : (content file).take ((content file).length - window) ≠ [] :=
      List.ne_nil_of_length_pos (by rw [List.length_take]; omega)
    have hRead := splitlines_window file hFront (List.take_append_drop _ _).symm
    rwa [hLength] at hRead
  · next hWhole =>
    rw [if_pos (by omega), Nat.min_eq_left (by omega), Nat.sub_self]
    exact splitlines_content file

theorem fitting_suffix (window : Nat) (file : List (LogRecord rt loads)) :
    fitting window file <:+ file := by
  induction file with
  | nil => exact List.suffix_rfl
  | cons r file ih =>
    rw [fitting]
    split
    · exact List.suffix_rfl
    · exact ih.trans (List.suffix_cons r file)

theorem inWindow_suffix (window : Nat) (file : List (LogRecord rt loads)) :
    inWindow window file <:+ file := by
  rw [inWindow]
  split
  · exact List.suffix_rfl
  · exact fitting_suffix window file

/-! ## What is found -/

/-- The rank is at least that of `min_level`. -/
def passes (rt : Runtime) (min_level : Option String) (row : LogRow) : Bool :=
  decide (levelRank (rt.upper (min_level.getD "")) ≤ levelRank (levelName rt row))

/-- The level is at or above `min_level`; without the name of a level there, all levels are. -/
def asked (rt : Runtime) (min_level : Option String) (row : LogRow) : Bool :=
  match level? (rt.upper (min_level.getD "")), level? (levelName rt row) with
  | some floor, some level => decide (floor.ctorIdx ≤ level.ctorIdx)
  | _, _ => true

theorem tail_content {lines : Nat} (h : 1 ≤ lines ∧ lines ≤ 2000)
    (min_level : Option String) : tail rt loads (content file) lines min_level =
      ((rows (inWindow (lines * 8192) file)).filter (passes rt min_level)).rtake lines := by
  have hWanted : (max 1 (min (lines : Int) 2000)).toNat = lines := by omega
  have hRows : ∀ records : List (LogRecord rt loads),
      (records.map LogRecord.text).filterMap (fun raw => (loads raw).filter (passes rt min_level)) =
        (rows records).filter (passes rt min_level) := by
    intro records
    induction records with
    | nil => rfl
    | cons r records ih =>
      rw [List.map_cons, List.filterMap_cons, r.loads_eq, Option.filter_some, ih]
      change _ = (r.row :: rows records).filter (passes rt min_level)
      by_cases hPass : passes rt min_level r.row = true
      · rw [if_pos hPass, List.filter_cons_of_pos hPass]
      · rw [if_neg hPass, List.filter_cons_of_neg hPass]
  rw [tail, hWanted, splitlines_read]
  exact congrArg (List.rtake · lines) (hRows _)

theorem asked_of_passes {min_level : Option String}
    (hFloor : levelRank (rt.upper (min_level.getD "")) ≠ 0) (r : LogRecord rt loads)
    (hPass : passes rt min_level r.row = true) : asked rt min_level r.row = true := by
  have hListed : rt.upper (min_level.getD "") ∈ LOG_LEVELS := by
    by_contra hUnlisted
    exact hFloor (if_neg hUnlisted)
  have hOrdered : ∀ name ∈ LOG_LEVELS, levelRank name ≠ 0 → ∀ level ∈ LEVELS,
      levelRank name ≤ levelRank level.name →
        (level? name).all (fun floor => decide (floor.ctorIdx ≤ level.ctorIdx)) = true := by
    decide
  have hNamed : level? r.level.name = some r.level := by
    cases r.level <;> rfl
  rw [passes, r.level_eq, decide_eq_true_eq] at hPass
  have hBelow := hOrdered _ hListed hFloor r.level (by cases r.level <;> decide) hPass
  rw [asked, r.level_eq, hNamed]
  cases hLevel : level? (rt.upper (min_level.getD "")) with
  | none => rfl
  | some floor => rwa [hLevel] at hBelow

/-- The window holds as many records that pass as are asked for, among the last of those that are
asked for all pass, and if everything passes, the last ones of the window are asked for. -/
structure Readable (rt : Runtime) (lines : Nat) (min_level : Option String)
    (file window : List LogRow) : Prop where
  enough : min lines (file.filter (asked rt min_level)).length ≤
    (window.filter (passes rt min_level)).length
  ranked : ∀ row ∈ (file.filter (asked rt min_level)).rtake lines, passes rt min_level row = true
  floored : levelRank (rt.upper (min_level.getD "")) = 0 →
    ∀ row ∈ window.rtake lines, asked rt min_level row = true

/-- The last records at or above the level are returned exactly when the file is readable. -/
theorem tail_exact_iff (rt : Runtime) (loads : List UInt8 → Option LogRow)
    (file : List (LogRecord rt loads)) (lines : Nat) (h : 1 ≤ lines ∧ lines ≤ 2000)
    (min_level : Option String) :
    tail rt loads (content file) lines min_level =
        ((rows file).filter (asked rt min_level)).rtake lines ↔
      Readable rt lines min_level (rows file) (rows (inWindow (lines * 8192) file)) := by
  have hWindow : rows (inWindow (lines * 8192) file) <:+ rows file := (inWindow_suffix _ file).map _
  rw [tail_content file h, rtake_filter_eq_iff hWindow]
  by_cases hFloor : levelRank (rt.upper (min_level.getD "")) = 0
  · have hAll : (rows (inWindow (lines * 8192) file)).filter (passes rt min_level) =
        rows (inWindow (lines * 8192) file) :=
      List.filter_eq_self.mpr fun row _ => decide_eq_true (hFloor ▸ Nat.zero_le _)
    constructor
    · rintro ⟨hEnough, hRanked, hAsked⟩
      exact ⟨hEnough, hRanked, fun _ => hAll ▸ hAsked⟩
    · intro hReadable
      refine ⟨hReadable.enough, hReadable.ranked, ?_⟩
      rw [hAll]
      exact hReadable.floored hFloor
  · constructor
    · rintro ⟨hEnough, hRanked, -⟩
      exact ⟨hEnough, hRanked, fun hZero => absurd hZero hFloor⟩
    · intro hReadable
      refine ⟨hReadable.enough, hReadable.ranked, fun row hRow => ?_⟩
      obtain ⟨hRow, hPass⟩ := List.mem_filter.mp ((rtake_suffix _ _).subset hRow)
      obtain ⟨r, -, rfl⟩ := List.mem_map.mp hRow
      exact asked_of_passes hFloor r hPass

/-! ## A critical record -/

def levelText (level : Level) : List UInt8 :=
  ("\x7b\"level\": \"" ++ level.name ++ "\"\x7d").toList.map fun c => c.toNat.toUInt8

def loadsLevel (text : List UInt8) : Option LogRow :=
  (LEVELS.find? fun level => decide (levelText level = text)).map fun level =>
    [("level", .str level.name)]

def leveled (level : Level) : LogRecord Runtime.ascii loadsLevel where
  text := levelText level
  row := [("level", .str level.name)]
  level := level
  one_line := by cases level <;> decide +kernel
  loads_eq := by cases level <;> rfl
  level_eq := by cases level <;> rfl

def critical : LogRecord Runtime.ascii loadsLevel := leveled .CRITICAL

def mixedFile : List (LogRecord Runtime.ascii loadsLevel) :=
  [critical, leveled .ERROR, leveled .INFO, leveled .WARNING, leveled .DEBUG]

/-- The critical record stands in front of those that are asked for. -/
theorem tail_exact_mixed :
    tail Runtime.ascii loadsLevel (content mixedFile) (2 : Nat) (some "WARNING") =
      ((rows mixedFile).filter (asked Runtime.ascii (some "WARNING"))).rtake 2 ∧
    (tail Runtime.ascii loadsLevel (content mixedFile) (2 : Nat) (some "WARNING")).map
      (levelName Runtime.ascii) = ["ERROR", "WARNING"] := by
  have hTail := (tail_exact_iff Runtime.ascii loadsLevel mixedFile 2 (by decide) (some "WARNING")).mpr
    ⟨by decide +kernel, by decide +kernel, by decide +kernel⟩
  exact ⟨hTail, hTail ▸ by decide +kernel⟩

/-- The record is not found among those at or above `ERROR`. -/
theorem critical_missed :
    tail Runtime.ascii loadsLevel (content [critical]) (1 : Nat) (some "ERROR") ≠
      ((rows [critical]).filter (asked Runtime.ascii (some "ERROR"))).rtake 1 := by
  intro hSame
  have hLength := congrArg List.length hSame
  exact absurd hLength (by decide +kernel)

end Sniff4Hound.LogSink
