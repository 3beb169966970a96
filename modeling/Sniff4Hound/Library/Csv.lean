import Sniff4Hound.Library.StepRun

/-!
# Tables as text

A table is written line by line. A cell is quoted when it holds a mark of the format, with its
quotes doubled, and so is a single empty one. A reader that goes over the text once reads the table
back (`read_write`), whatever is in the cells.
-/

namespace Csv

/-- The marks of the format, which are four. -/
structure Dialect (α : Type*) where
  comma : α
  quote : α
  cr : α
  lf : α
  distinct : [comma, quote, cr, lf].Nodup

variable {α : Type*} (d : Dialect α)

def Dialect.marks : List α := [d.comma, d.quote, d.cr, d.lf]

theorem comma_ne_quote : d.comma ≠ d.quote := fun h => by simpa [h] using d.distinct

theorem cr_ne_quote : d.cr ≠ d.quote := fun h => by simpa [h] using d.distinct

theorem cr_ne_comma : d.cr ≠ d.comma := fun h => by simpa [h] using d.distinct

variable [DecidableEq α]

/-! ## The writer -/

def quoted (cell : List α) : List α :=
  d.quote :: (cell.flatMap (fun c => if c = d.quote then [c, c] else [c]) ++ [d.quote])

def writeCell (cell : List α) : List α :=
  if ∃ c ∈ cell, c ∈ d.marks then quoted d cell else cell

/-- An empty line would be no row with one cell. -/
def writeRow (row : List (List α)) : List α :=
  (if row = [[]] then quoted d [] else [d.comma].intercalate (row.map (writeCell d))) ++ [d.cr, d.lf]

def write (rows : List (List (List α))) : List α := rows.flatMap (writeRow d)

/-! ## The reader -/

/-- Where the reader stands in a cell: before it, in it, between its quotes, behind a quote in it,
or behind the row. -/
inductive Place
  | start
  | plain
  | inside
  | closing
  | ended
deriving DecidableEq

structure Reading (α : Type*) where
  rows : List (List (List α)) := []
  row : List (List α) := []
  cell : List α := []
  place : Place := .start

/-- A symbol behind a cell. -/
def next (s : Reading α) (c : α) : Option (Reading α) :=
  if c = d.comma then some { rows := s.rows, row := s.row ++ [s.cell] }
  else if c = d.cr then some { s with place := .ended }
  else none

def step (s : Reading α) (c : α) : Option (Reading α) :=
  match s.place with
  | .start | .plain =>
    if c = d.quote then if s.place = .start then some { s with place := .inside } else none
    else if c ∈ d.marks then next d s c
    else some { s with cell := s.cell ++ [c], place := .plain }
  | .inside =>
    if c = d.quote then some { s with place := .closing } else some { s with cell := s.cell ++ [c] }
  | .closing =>
    if c = d.quote then some { s with cell := s.cell ++ [c], place := .inside } else next d s c
  | .ended => if c = d.lf then some { rows := s.rows ++ [s.row ++ [s.cell]] } else none

/-- The rows of a text whose last line is ended. -/
def read (text : List α) : Option (List (List (List α))) :=
  (StepRun.run (step d) {} text).bind fun s =>
    if s.row = [] ∧ s.place = .start then some s.rows else none

/-! ## The round trip -/

variable {d} {s : Reading α} {cell : List α}

theorem run_plain (hPlain : ∀ c ∈ cell, c ∉ d.marks) (hPlace : s.place = .start ∨ s.place = .plain)
    (hNe : cell ≠ []) :
    StepRun.run (step d) s cell = some { s with cell := s.cell ++ cell, place := .plain } := by
  induction cell generalizing s with
  | nil => exact absurd rfl hNe
  | cons c rest ih =>
    obtain ⟨hHead, hRest⟩ := List.forall_mem_cons.mp hPlain
    have hQuote : c ≠ d.quote := fun h => hHead (by simp [h, Dialect.marks])
    have hStep : step d s c = some { s with cell := s.cell ++ [c], place := .plain } := by
      rcases hPlace with hPlace | hPlace <;> simp [step, hPlace, hQuote, hHead]
    rw [StepRun.run_cons, hStep, Option.bind_some]
    cases rest with
    | nil => rfl
    | cons c' rest =>
      rw [ih hRest (Or.inr rfl) (List.cons_ne_nil _ _)]
      simp

theorem run_inside (cell : List α) (s : Reading α) (hPlace : s.place = .inside) :
    StepRun.run (step d) s (cell.flatMap fun c => if c = d.quote then [c, c] else [c]) =
      some { s with cell := s.cell ++ cell } := by
  induction cell generalizing s with
  | nil => simp
  | cons c rest ih =>
    have hHead : StepRun.run (step d) s (if c = d.quote then [c, c] else [c]) =
        some { s with cell := s.cell ++ [c] } := by
      by_cases hQuote : c = d.quote
      · simp [hQuote, StepRun.run_cons, step, hPlace]
      · simp [hQuote, StepRun.run_cons, step, hPlace]
    rw [List.flatMap_cons, StepRun.run_append, hHead, Option.bind_some,
      ih { s with cell := s.cell ++ [c] } hPlace]
    simp

theorem run_quoted (cell : List α) (hPlace : s.place = .start) (hCell : s.cell = []) :
    StepRun.run (step d) s (quoted d cell) = some { s with cell := cell, place := .closing } := by
  have hOpen : step d s d.quote = some { s with place := .inside } := by
    simp [step, hPlace]
  rw [quoted, StepRun.run_cons, hOpen, Option.bind_some, StepRun.run_append, run_inside _ _ rfl,
    Option.bind_some, StepRun.run_cons]
  simp [step, hCell]

/-- The reader has a whole cell, and what follows ends it. -/
def Read (s t : Reading α) (cell : List α) : Prop :=
  t.rows = s.rows ∧ t.row = s.row ∧ t.cell = cell ∧
    (t.place = .start ∨ t.place = .plain ∨ t.place = .closing)

theorem run_writeCell (cell : List α) (hPlace : s.place = .start) (hCell : s.cell = []) :
    ∃ t, StepRun.run (step d) s (writeCell d cell) = some t ∧ Read s t cell := by
  rw [writeCell]
  split
  · exact ⟨_, run_quoted cell hPlace hCell, rfl, rfl, rfl, Or.inr (Or.inr rfl)⟩
  · rename_i hPlain
    rw [not_exists] at hPlain
    by_cases hNe : cell = []
    · subst hNe
      exact ⟨s, rfl, rfl, rfl, hCell, Or.inl hPlace⟩
    · refine ⟨_, run_plain (fun c hc hMark => hPlain c ⟨hc, hMark⟩) (Or.inl hPlace) hNe, rfl, rfl, ?_,
        Or.inr (Or.inl rfl)⟩
      simp [hCell]

variable {t : Reading α} {row : List (List α)}

theorem Read.comma (h : Read s t cell) :
    step d t d.comma = some { rows := s.rows, row := s.row ++ [cell] } := by
  obtain ⟨hRows, hRow, hCell, hPlace | hPlace | hPlace⟩ := h <;>
    simp [step, next, hPlace, comma_ne_quote, Dialect.marks, hRows, hRow, hCell]

theorem Read.ends (h : Read s t cell) :
    StepRun.run (step d) t [d.cr, d.lf] = some { rows := s.rows ++ [s.row ++ [cell]] } := by
  have hEnd : step d t d.cr = some { t with place := .ended } := by
    obtain ⟨-, -, -, hPlace | hPlace | hPlace⟩ := h <;>
      simp [step, next, hPlace, cr_ne_quote, cr_ne_comma, Dialect.marks]
  obtain ⟨hRows, hRow, hCell, -⟩ := h
  rw [StepRun.run_cons, hEnd, Option.bind_some, StepRun.run_cons]
  simp [step, hRows, hRow, hCell]

theorem run_cells (hNe : row ≠ []) (hPlace : s.place = .start) (hCell : s.cell = []) :
    StepRun.run (step d) s ([d.comma].intercalate (row.map (writeCell d)) ++ [d.cr, d.lf]) =
      some { rows := s.rows ++ [s.row ++ row] } := by
  induction row generalizing s with
  | nil => exact absurd rfl hNe
  | cons cell rest ih =>
    obtain ⟨t, hRun, hRead⟩ := run_writeCell (d := d) cell hPlace hCell
    cases rest with
    | nil =>
      rw [List.map_singleton, List.intercalate_singleton, StepRun.run_append, hRun,
        Option.bind_some, hRead.ends]
    | cons cell' rest =>
      have hSplit : [d.comma].intercalate ((cell :: cell' :: rest).map (writeCell d)) ++
          [d.cr, d.lf] = writeCell d cell ++ d.comma ::
            ([d.comma].intercalate ((cell' :: rest).map (writeCell d)) ++ [d.cr, d.lf]) := by
        simp [List.intercalate_cons_cons]
      rw [hSplit, StepRun.run_append, hRun, Option.bind_some, StepRun.run_cons, hRead.comma,
        Option.bind_some, ih (List.cons_ne_nil _ _) rfl rfl]
      simp

theorem run_writeRow (hNe : row ≠ []) (hPlace : s.place = .start) (hRow : s.row = [])
    (hCell : s.cell = []) :
    StepRun.run (step d) s (writeRow d row) = some { rows := s.rows ++ [row] } := by
  rw [writeRow]
  split
  · rename_i hEmpty
    have hRead : Read s { s with cell := [], place := .closing } [] :=
      ⟨rfl, rfl, rfl, Or.inr (Or.inr rfl)⟩
    rw [StepRun.run_append, run_quoted [] hPlace hCell, Option.bind_some, hRead.ends, hRow, hEmpty]
    rfl
  · rw [run_cells hNe hPlace hCell, hRow]
    rfl

/-- Rows of at least one cell are read as they were written. -/
theorem read_write {rows : List (List (List α))} (hNe : ∀ row ∈ rows, row ≠ []) :
    read d (write d rows) = some rows := by
  have hRun : ∀ before : List (List (List α)),
      StepRun.run (step d) { rows := before } (write d rows) = some { rows := before ++ rows } := by
    induction rows with
    | nil => exact fun before => by simp [write]
    | cons row rest ih =>
      intro before
      obtain ⟨hHead, hRest⟩ := List.forall_mem_cons.mp hNe
      rw [write, List.flatMap_cons, StepRun.run_append, run_writeRow hHead rfl rfl rfl,
        Option.bind_some]
      rw [write] at ih
      rw [ih hRest]
      simp
  rw [read, hRun []]
  simp

end Csv
