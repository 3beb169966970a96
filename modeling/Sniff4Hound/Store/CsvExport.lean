import Mathlib.Data.List.Forall2
import Sniff4Hound.Library.Csv
import Sniff4Hound.Text.Value

/-!
# Exports for spreadsheets

`rows_to_csv` writes the rows of an export under its fields. A program that reads the text gets the
header and one row for each row, with one cell for each field (`export_reads_back`), and no text of
the sensor begins a formula in it (`export_inert`).
-/

namespace Sniff4Hound.Store

def EXCEL : Csv.Dialect Char := ⟨',', '"', '\r', '\n', by decide⟩

/-- What a spreadsheet takes for the beginning of a formula. -/
def FORMULA_STARTS : List Char := ['=', '+', '-', '@']

/-- The text begins with a formula, or with a break that hides one. -/
def Formula (text : List Char) : Prop :=
  (text.dropWhile (· ∈ [' ', '\t', '\r', '\n'])).head?.any (· ∈ FORMULA_STARTS) = true ∨
    text.head?.any (· ∈ ['\t', '\r', '\n']) = true

instance (text : List Char) : Decidable (Formula text) := inferInstanceAs (Decidable (_ ∨ _))

/-- `_csv_safe_cell` -/
def csv_safe_cell : Value → Value
  | .str s => if Formula s.toList then .str ("'" ++ s) else .str s
  | value => value

/-- What the writer makes of a value: nothing of `None`, and the text of any other. -/
def csvText (rt : Runtime) : Value → List Char
  | .null => []
  | value => (value.toText rt).toList

/-- A row of the table: `row.get(column, "")` under each field. -/
def csvRow (rt : Runtime) (fields : List String) (row : List (String × Value)) : List (List Char) :=
  fields.map fun column => csvText rt (csv_safe_cell ((row.lookup column).getD (.str "")))

def rows_to_csv (rt : Runtime) (fields : List String) (rows : List (List (String × Value))) :
    String :=
  String.ofList (Csv.write EXCEL (fields.map String.toList :: rows.map (csvRow rt fields)))

variable (rt : Runtime) {fields : List String} (rows : List (List (String × Value)))

/-- Whatever the values hold, none breaks out of its cell. -/
theorem export_reads_back (hFields : fields ≠ []) :
    Csv.read EXCEL (rows_to_csv rt fields rows).toList =
      some (fields.map String.toList :: rows.map (csvRow rt fields)) := by
  rw [rows_to_csv, String.toList_ofList]
  refine Csv.read_write fun row hRow => ?_
  rcases List.mem_cons.mp hRow with rfl | hRow
  · exact fun hNil => hFields (List.map_eq_nil_iff.mp hNil)
  · obtain ⟨entry, -, rfl⟩ := List.mem_map.mp hRow
    exact fun hNil => hFields (List.map_eq_nil_iff.mp hNil)

theorem export_reads_back_quoted : Csv.read EXCEL (rows_to_csv .ascii ["evidence", "count"]
    [[("evidence", .str "=1,\"\r\nx"), ("count", .int (-3))], []]).toList =
      some [["evidence".toList, "count".toList], ["'=1,\"\r\nx".toList, "-3".toList], [[], []]] :=
  (export_reads_back .ascii _ (List.cons_ne_nil _ _)).trans (by decide)

theorem csv_safe_cell_inert (s : String) :
    ¬Formula (csvText rt (csv_safe_cell (.str s))) ∧
      (csvText rt (csv_safe_cell (.str s)) = s.toList ∨
        csvText rt (csv_safe_cell (.str s)) = '\'' :: s.toList) := by
  rw [csv_safe_cell]
  split
  · have hText : csvText rt (.str ("'" ++ s)) = '\'' :: s.toList := by
      rw [csvText, Value.toText, String.toList_append]
      rfl
      exact nofun
    refine ⟨?_, Or.inr hText⟩
    rw [hText]
    simp [Formula, FORMULA_STARTS]
  · rename_i hPlain
    exact ⟨hPlain, Or.inl rfl⟩

/-- Each text of the row is in its cell as it is, or behind an apostrophe, and begins no formula. -/
def Inert (fields : List String) (row : List (String × Value)) (cells : List (List Char)) : Prop :=
  List.Forall₂ (fun column cell => ∀ s, row.lookup column = some (.str s) →
    ¬Formula cell ∧ (cell = s.toList ∨ cell = '\'' :: s.toList)) fields cells

/-- No spreadsheet takes a text of the sensor for a formula. -/
theorem export_inert (hFields : fields ≠ []) :
    ∃ body, Csv.read EXCEL (rows_to_csv rt fields rows).toList =
      some (fields.map String.toList :: body) ∧ List.Forall₂ (Inert fields) rows body := by
  refine ⟨_, export_reads_back rt rows hFields, ?_⟩
  rw [List.forall₂_map_right_iff, List.forall₂_same]
  intro row _
  rw [Inert, csvRow, List.forall₂_map_right_iff, List.forall₂_same]
  intro column _ s hText
  rw [hText, Option.getD_some]
  exact csv_safe_cell_inert rt s

theorem export_inert_formula : ∃ body, Csv.read EXCEL (rows_to_csv .ascii ["banner"]
      [[("banner", .str " \t@SUM(A1)")]]).toList = some (["banner".toList] :: body) ∧
    List.Forall₂ (Inert ["banner"]) [[("banner", .str " \t@SUM(A1)")]] body :=
  export_inert .ascii _ (List.cons_ne_nil _ _)

end Sniff4Hound.Store
