import Mathlib.Data.List.Nodup
import Sniff4Hound.Text.Value

/-!
# Catalogs in a file

The banner requests and the IP presets are lists of objects in JSON files. `update_catalog_file`
reads, edits and writes a file under the store's lock, so that requests are served one after the
other. A row without id and name gets an id that is made of the number of rows, and replaces the row
that has this id already: such a row is added exactly as long as no row has it
(`catalog_lawful_iff`). The ids stay distinct in any case.
-/

namespace Sniff4Hound.Store

abbrev CatalogRow := Dict String Value

/-- `str(row.get("id") or row.get("name") or "").strip()` -/
def rowId (rt : Runtime) (row : CatalogRow) : String :=
  strip (((Value.get row "id").orElse (Value.get row "name")).text rt)

inductive FileCatalog where
  | requests
  | presets
  deriving DecidableEq

namespace FileCatalog

def stem : FileCatalog → String
  | requests => "request-"
  | presets => "preset-"

def invented (c : FileCatalog) (rows : List CatalogRow) : String :=
  c.stem ++ toString (rows.length + 1)

/-- The loop of `update`, which replaces the first row with the id or appends the new one. -/
def place (rt : Runtime) (row_id : String) (row : CatalogRow) : List CatalogRow → List CatalogRow
  | [] => [row]
  | existing :: rest =>
    if rowId rt existing = row_id then row :: rest else existing :: place rt row_id row rest

/-- `update` of `catalog_requests` and of `catalog_presets`. -/
def update (rt : Runtime) (c : FileCatalog) (payload : CatalogRow) (rows : List CatalogRow) :
    List CatalogRow :=
  let row_id := if rowId rt payload = "" then c.invented rows else rowId rt payload
  place rt row_id (payload.set "id" (.str row_id)) rows

def deletedId (rt : Runtime) (payload : CatalogRow) : String :=
  strip ((Value.get payload "id").text rt)

def remove (rt : Runtime) (payload : CatalogRow) (rows : List CatalogRow) : List CatalogRow :=
  rows.filter fun row => decide (rowId rt row ≠ deletedId rt payload)

inductive Edit where
  | post (payload : CatalogRow)
  | put (payload : CatalogRow)
  | delete (payload : CatalogRow)

structure Request where
  edit : Edit
  written : Bool

/-- `update_catalog_file`: the new file takes the place of the old one once it is complete. -/
def update_catalog_file (updater : List CatalogRow → List CatalogRow) (written : Bool)
    (rows : List CatalogRow) : List CatalogRow :=
  if written then updater rows else rows

def serve (rt : Runtime) (c : FileCatalog) (rows : List CatalogRow) (r : Request) :
    List CatalogRow :=
  match r.edit with
  | .post payload | .put payload => update_catalog_file (c.update rt payload) r.written rows
  | .delete payload => update_catalog_file (remove rt payload) r.written rows

def DistinctIds (rt : Runtime) (rows : List CatalogRow) : Prop := (rows.map (rowId rt)).Nodup

def Bare (payload : CatalogRow) : Prop := payload.lookup "id" = none ∧ payload.lookup "name" = none

instance (payload : CatalogRow) : Decidable (Bare payload) :=
  inferInstanceAs (Decidable (_ = none ∧ _ = none))

def Serves (rt : Runtime) (c : FileCatalog) (rows : List CatalogRow) (r : Request) : Prop :=
  match r.edit with
  | .post payload => Bare payload → r.written = true →
      ∃ row, (c.serve rt rows r).Perm (row :: rows)
  | .put _ => True
  | .delete payload => (c.serve rt rows r).Sublist rows ∧
      ∀ row ∈ rows, rowId rt row ≠ deletedId rt payload → row ∈ c.serve rt rows r

def Fresh (rt : Runtime) (c : FileCatalog) (rows : List CatalogRow) (r : Request) : Prop :=
  match r.edit with
  | .post payload => Bare payload → r.written = true → c.invented rows ∉ rows.map (rowId rt)
  | _ => True

variable {rt : Runtime} {c : FileCatalog} {rows : List CatalogRow}

/-! ## Ids -/

theorem isSpace_of_isDigit {x : Char} (h : x.isDigit = true) : isSpace x = false := by
  simp only [Char.isDigit, Bool.and_eq_true, decide_eq_true_eq, ge_iff_le, UInt32.le_iff_toNat_le]
    at h
  have hLow : 48 ≤ x.toNat := h.1
  have hHigh : x.toNat ≤ 57 := h.2
  simp only [isSpace, Bool.or_eq_false_iff, Bool.and_eq_false_iff, decide_eq_false_iff_not,
    beq_eq_false_iff_ne]
  omega

theorem strip_invented (c : FileCatalog) (rows : List CatalogRow) :
    strip (c.invented rows) = c.invented rows := by
  obtain ⟨front, last, hDigits⟩ : ∃ front last, Nat.toDigits 10 (rows.length + 1) = front ++ [last] :=
    ⟨_, _, (List.dropLast_append_getLast Nat.toDigits_ne_nil).symm⟩
  have hLast : isSpace last = false := isSpace_of_isDigit
    (Nat.isDigit_of_mem_toDigits (by decide) (by decide) (hDigits ▸ List.mem_concat_self))
  have hText : (toString (rows.length + 1)).toList = front ++ [last] := by
    rw [← hDigits]
    exact Nat.toList_repr
  cases c with
  | requests =>
    have hList : (invented .requests rows).toList = 'r' :: (("equest-".toList ++ front) ++ [last]) := by
      rw [invented, String.toList_append, hText]
      exact (List.append_assoc _ _ _).symm
    exact strip_eq_self hList (by decide) hLast
  | presets =>
    have hList : (invented .presets rows).toList = 'p' :: (("reset-".toList ++ front) ++ [last]) := by
      rw [invented, String.toList_append, hText]
      exact (List.append_assoc _ _ _).symm
    exact strip_eq_self hList (by decide) hLast

theorem invented_ne_empty (c : FileCatalog) (rows : List CatalogRow) : c.invented rows ≠ "" := by
  intro hEmpty
  have hList := congrArg String.toList hEmpty
  rw [invented, String.toList_append] at hList
  cases c <;> cases hList

theorem rowId_set (payload : CatalogRow) {row_id : String} (hSome : row_id ≠ "")
    (hStrip : strip row_id = row_id) : rowId rt (payload.set "id" (.str row_id)) = row_id := by
  have hId : Value.get (payload.set "id" (.str row_id)) "id" = .str row_id := by
    rw [Value.get, Dict.lookup_set, if_pos rfl]
    rfl
  rw [rowId, hId, Value.orElse, if_pos (by simpa [Value.truthy] using hSome), text_str, hStrip]

theorem rowId_update (payload : CatalogRow) :
    let row_id := if rowId rt payload = "" then c.invented rows else rowId rt payload
    rowId rt (payload.set "id" (.str row_id)) = row_id := by
  dsimp only
  split
  · exact rowId_set payload (invented_ne_empty c rows) (strip_invented c rows)
  · next hSome => exact rowId_set payload hSome (strip_strip _)

theorem rowId_bare {payload : CatalogRow} (h : Bare payload) : rowId rt payload = "" := by
  rw [rowId, Value.get, Value.get, h.1, h.2]
  exact strip_empty

/-! ## Rows -/

variable {row_id : String} {row : CatalogRow}

theorem place_of_notMem (h : row_id ∉ rows.map (rowId rt)) :
    place rt row_id row rows = rows ++ [row] := by
  induction rows with
  | nil => rfl
  | cons existing rest ih =>
    rw [List.map_cons, List.mem_cons, not_or] at h
    rw [place, if_neg (Ne.symm h.1), ih h.2, List.cons_append]

theorem map_place_of_mem (hRow : rowId rt row = row_id) (h : row_id ∈ rows.map (rowId rt)) :
    (place rt row_id row rows).map (rowId rt) = rows.map (rowId rt) := by
  induction rows with
  | nil => cases h
  | cons existing rest ih =>
    rw [place]
    split
    · next hSame => rw [List.map_cons, List.map_cons, hRow, hSame]
    · next hOther =>
      rw [List.map_cons, List.mem_cons] at h
      rw [List.map_cons, List.map_cons, ih (h.resolve_left (Ne.symm hOther))]

theorem distinct_place (hRow : rowId rt row = row_id) (h : DistinctIds rt rows) :
    DistinctIds rt (place rt row_id row rows) := by
  unfold DistinctIds at h ⊢
  by_cases hMem : row_id ∈ rows.map (rowId rt)
  · rwa [map_place_of_mem hRow hMem]
  · rw [place_of_notMem hMem, List.map_append, List.map_singleton, hRow, ← List.concat_eq_append]
    exact List.Nodup.concat hMem h

theorem distinct_serve (h : DistinctIds rt rows) (r : Request) :
    DistinctIds rt (c.serve rt rows r) := by
  unfold serve update_catalog_file
  split <;> split
  · exact distinct_place (rowId_update _) h
  · exact h
  · exact distinct_place (rowId_update _) h
  · exact h
  · exact h.sublist (List.filter_sublist.map _)
  · exact h

theorem serves_iff (r : Request) : c.Serves rt rows r ↔ c.Fresh rt rows r := by
  obtain ⟨edit, written⟩ := r
  cases edit with
  | post payload =>
    refine forall_congr' fun hBare => forall_congr' fun hWritten => ?_
    obtain rfl : written = true := hWritten
    have hUpdate : c.serve rt rows ⟨.post payload, true⟩ =
        place rt (c.invented rows) (payload.set "id" (.str (c.invented rows))) rows := by
      change update_catalog_file (c.update rt payload) true rows = _
      rw [update_catalog_file, if_pos rfl, update, if_pos (rowId_bare hBare)]
    rw [hUpdate]
    constructor
    · rintro ⟨row, hPerm⟩ hMem
      have hRow := @rowId_set rt payload _ (invented_ne_empty c rows) (strip_invented c rows)
      have hLength := congrArg List.length (map_place_of_mem hRow hMem)
      rw [List.length_map, List.length_map, hPerm.length_eq, List.length_cons] at hLength
      omega
    · intro hNew
      rw [place_of_notMem hNew]
      exact ⟨_, List.perm_append_singleton _ _⟩
  | put payload => exact Iff.rfl
  | delete payload =>
    refine iff_of_true ?_ trivial
    cases written with
    | false => exact ⟨List.Sublist.refl _, fun _ hRow _ => hRow⟩
    | true =>
      exact ⟨List.filter_sublist, fun row hRow hId =>
        List.mem_filter.mpr ⟨hRow, decide_eq_true hId⟩⟩

/-! ## Runs -/

def after (rt : Runtime) (c : FileCatalog) (rows : List CatalogRow) (rs : List Request) :
    List CatalogRow := rs.foldl (c.serve rt) rows

/-- The ids stay distinct, and every request is served as asked. -/
def Lawful (rt : Runtime) (c : FileCatalog) (rows : List CatalogRow) (rs : List Request) : Prop :=
  (∀ front, front <+: rs → DistinctIds rt (c.after rt rows front)) ∧
    ∀ front r back, rs = front ++ r :: back → c.Serves rt (c.after rt rows front) r

theorem distinct_after (h : DistinctIds rt rows) (rs : List Request) :
    DistinctIds rt (c.after rt rows rs) := by
  induction rs generalizing rows with
  | nil => exact h
  | cons r rs ih => exact ih (distinct_serve h r)

/-- From distinct ids a run is lawful exactly when no row has the id that is invented for a POST
without id and name. -/
theorem catalog_lawful_iff (rt : Runtime) (c : FileCatalog) (rows : List CatalogRow)
    (h : DistinctIds rt rows) (rs : List Request) :
    c.Lawful rt rows rs ↔
      ∀ front r back, rs = front ++ r :: back → c.Fresh rt (c.after rt rows front) r := by
  constructor
  · intro hLawful front r back hRun
    exact (serves_iff r).mp (hLawful.2 front r back hRun)
  · intro hFresh
    exact ⟨fun front _ => distinct_after h front,
      fun front r back hRun => (serves_iff r).mpr (hFresh front r back hRun)⟩

def freedNumber : List Request :=
  [⟨.post [], true⟩, ⟨.post [], true⟩, ⟨.delete [("id", .str "request-1")], true⟩,
    ⟨.post [("method", .str "GET")], true⟩]

instance (rows : List CatalogRow) : (r : Request) → Decidable (c.Fresh rt rows r)
  | ⟨.post payload, written⟩ => inferInstanceAs (Decidable (Bare payload → written = true → _ ∉ _))
  | ⟨.put _, _⟩ | ⟨.delete _, _⟩ => isTrue trivial

/-- The last row is deleted, so that its number is free again; one request fails. -/
def keptNumbers : List Request :=
  [⟨.post [], true⟩, ⟨.post [("method", .str "GET")], true⟩,
    ⟨.put [("id", .str " request-1 "), ("method", .str "POST")], true⟩,
    ⟨.delete [("id", .str "request-2")], true⟩, ⟨.post [], false⟩, ⟨.post [], true⟩]

theorem catalog_lawful_kept :
    (requests.after Runtime.ascii [] keptNumbers).map (rowId Runtime.ascii) =
      ["request-1", "request-2"] ∧ requests.Lawful Runtime.ascii [] keptNumbers := by
  refine ⟨by decide +kernel, (catalog_lawful_iff Runtime.ascii requests [] List.nodup_nil _).mpr ?_⟩
  intro front r back hRun
  have hAll : ∀ i < keptNumbers.length, ∀ r ∈ keptNumbers[i]?,
      requests.Fresh Runtime.ascii (requests.after Runtime.ascii [] (keptNumbers.take i)) r := by
    decide +kernel
  have hTake : keptNumbers.take front.length = front := by rw [hRun, List.take_left']; rfl
  have hFresh := hAll front.length (by rw [hRun]; simp) r (by rw [hRun]; simp)
  rwa [hTake] at hFresh

/-- The last request replaces the second one. -/
theorem freedNumber_replaces :
    DistinctIds Runtime.ascii [] ∧ ¬ requests.Lawful Runtime.ascii [] freedNumber := by
  refine ⟨List.nodup_nil, fun hLawful => ?_⟩
  have hServes := hLawful.2 (freedNumber.take 3) _ [] rfl
  obtain ⟨row, hPerm⟩ := hServes (by decide) rfl
  have hLength := hPerm.length_eq
  rw [List.length_cons] at hLength
  exact absurd hLength (by decide)

end FileCatalog

end Sniff4Hound.Store
