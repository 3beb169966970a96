import Mathlib.Data.List.Pairwise
import Mathlib.Data.List.Basic

/-!
# Tables with ascending row ids

A table whose primary key is handed out by a sequence: a new row gets an id above every id
the table has ever used, so the rows stand in the order they were inserted and the newest
rows are the ones with the greatest ids.
-/

structure AutoTable (ρ : Type*) where
  rows : List (Nat × ρ)
  seq : Nat
  ordered : rows.Pairwise fun row row' => row.1 < row'.1
  le_seq : ∀ row ∈ rows, row.1 ≤ seq

namespace AutoTable

variable {ρ : Type*}

def empty : AutoTable ρ := ⟨[], 0, List.Pairwise.nil, nofun⟩

def lookup (t : AutoTable ρ) (id : Nat) : Option ρ := t.rows.lookup id

def has (t : AutoTable ρ) (id : Nat) : Bool := t.rows.any fun row => row.1 = id

def insert (t : AutoTable ρ) (row : ρ) : Nat × AutoTable ρ :=
  (t.seq + 1,
    { rows := t.rows ++ [(t.seq + 1, row)]
      seq := t.seq + 1
      ordered := by
        refine List.pairwise_append.mpr ⟨t.ordered, List.pairwise_singleton _ _, ?_⟩
        intro old hOld new hNew
        rw [List.mem_singleton.mp hNew]
        exact Nat.lt_succ_of_le (t.le_seq old hOld)
      le_seq := by
        intro old hOld
        rcases List.mem_append.mp hOld with hOld | hOld
        · exact Nat.le_succ_of_le (t.le_seq old hOld)
        · exact Nat.le_of_eq (congrArg Prod.fst (List.mem_singleton.mp hOld)) })

def update (t : AutoTable ρ) (id : Nat) (f : ρ → ρ) : AutoTable ρ where
  rows := t.rows.map fun row => if row.1 = id then (row.1, f row.2) else row
  seq := t.seq
  ordered := by
    refine t.ordered.map _ ?_
    intro row row' h
    split <;> split <;> exact h
  le_seq := by
    intro row hRow
    obtain ⟨old, hOld, rfl⟩ := List.mem_map.mp hRow
    split <;> exact t.le_seq old hOld

def filter (t : AutoTable ρ) (p : Nat × ρ → Bool) : AutoTable ρ where
  rows := t.rows.filter p
  seq := t.seq
  ordered := t.ordered.filter p
  le_seq := fun row hRow => t.le_seq row (List.mem_of_mem_filter hRow)

def trim (t : AutoTable ρ) (limit : Nat) : AutoTable ρ where
  rows := t.rows.drop (t.rows.length - limit)
  seq := t.seq
  ordered := t.ordered.drop
  le_seq := fun row hRow => t.le_seq row (List.mem_of_mem_drop hRow)

variable (t : AutoTable ρ)

@[simp] theorem rows_insert (row : ρ) : (t.insert row).2.rows = t.rows ++ [(t.seq + 1, row)] := rfl

@[simp] theorem rows_filter (p : Nat × ρ → Bool) : (t.filter p).rows = t.rows.filter p := rfl

theorem mem_trim {t : AutoTable ρ} {limit : Nat} {row : Nat × ρ} :
    row ∈ (t.trim limit).rows ↔
      row ∈ t.rows ∧ t.rows.countP (fun row' => row.1 < row'.1) < limit := by
  have hSplit := List.take_append_drop (t.rows.length - limit) t.rows
  have hOrdered := t.ordered
  rw [← hSplit] at hOrdered
  obtain ⟨-, hDrop, hAcross⟩ := List.pairwise_append.mp hOrdered
  have hLength : (t.rows.drop (t.rows.length - limit)).length = min t.rows.length limit := by
    rw [List.length_drop]
    omega
  constructor
  · intro hRow
    refine ⟨List.mem_of_mem_drop hRow, ?_⟩
    have hOlder :
        (t.rows.take (t.rows.length - limit)).countP (fun row' => row.1 < row'.1) = 0 := by
      rw [List.countP_eq_zero]
      intro old hOld
      have := hAcross old hOld row hRow
      simp only [decide_eq_true_eq]
      omega
    have hNewer : (t.rows.drop (t.rows.length - limit)).countP (fun row' => row.1 < row'.1) <
        (t.rows.drop (t.rows.length - limit)).length := by
      refine Nat.lt_of_le_of_ne List.countP_le_length ?_
      intro hAll
      have := List.countP_eq_length.mp hAll row hRow
      simp at this
    have hCount := congrArg (List.countP fun row' => row.1 < row'.1) hSplit
    rw [List.countP_append, hOlder] at hCount
    omega
  · rintro ⟨hRow, hCount⟩
    show row ∈ t.rows.drop (t.rows.length - limit)
    rw [← hSplit] at hRow
    refine (List.mem_append.mp hRow).resolve_left ?_
    intro hOld
    have hAll : (t.rows.drop (t.rows.length - limit)).countP (fun row' => row.1 < row'.1) =
        (t.rows.drop (t.rows.length - limit)).length := by
      rw [List.countP_eq_length]
      intro new hNew
      simpa using hAcross row hOld new hNew
    have hSome := List.length_pos_of_mem hOld
    rw [List.length_take] at hSome
    have hSum := congrArg (List.countP fun row' => row.1 < row'.1) hSplit
    rw [List.countP_append, hAll, hLength] at hSum
    omega

theorem rows_trim_of_le {t : AutoTable ρ} {limit : Nat} (h : t.rows.length ≤ limit) :
    (t.trim limit).rows = t.rows := by
  show t.rows.drop (t.rows.length - limit) = t.rows
  rw [Nat.sub_eq_zero_of_le h]
  rfl

theorem has_iff {t : AutoTable ρ} {id : Nat} : t.has id = true ↔ ∃ row, (id, row) ∈ t.rows := by
  rw [has, List.any_eq_true]
  constructor
  · rintro ⟨⟨i, row⟩, hRow, hId⟩
    obtain rfl := of_decide_eq_true hId
    exact ⟨row, hRow⟩
  · rintro ⟨row, hRow⟩
    exact ⟨_, hRow, decide_eq_true rfl⟩

theorem has_insert (row : ρ) (id : Nat) :
    (t.insert row).2.has id = (t.has id || decide (t.seq + 1 = id)) := by
  simp [has]

theorem has_insert_self (row : ρ) : (t.insert row).2.has (t.insert row).1 = true := by
  rw [has_insert]
  simp [insert]

theorem lookup_insert_self (row : ρ) : (t.insert row).2.lookup (t.insert row).1 = some row := by
  have hNew : ∀ rows : List (Nat × ρ), (∀ old ∈ rows, old.1 ≤ t.seq) →
      (rows ++ [(t.seq + 1, row)]).lookup (t.seq + 1) = some row := by
    intro rows
    induction rows with
    | nil =>
      intro _
      simp
    | cons old rows ih =>
      intro hOld
      have hNe : (t.seq + 1 == old.1) = false := by
        have := hOld old List.mem_cons_self
        simp only [beq_eq_false_iff_ne]
        omega
      rw [List.cons_append, List.lookup_cons, hNe]
      exact ih fun old' hOld' => hOld old' (List.mem_cons_of_mem _ hOld')
  exact hNew t.rows t.le_seq

end AutoTable
