import Mathlib.Data.List.DropRight
import Mathlib.Data.List.Infix

/-!
# Whole lines

A text that grows at its end is read up to its last line break: its whole lines, each with the break
behind it (`whole`). A text falls into its whole lines and a rest without a break in one way
(`whole_append`). Where all lines are shorter than a bound, a break stands in every block of that
many letters (`Short.break_mem`).
-/

namespace WholeLines

variable {α : Type*} [DecidableEq α] {nl : α}

def Closed (nl : α) (text : List α) : Prop := text = [] ∨ ∃ front, text = front ++ [nl]

def whole (nl : α) (text : List α) : List α := text.rdropWhile (· ≠ nl)

omit [DecidableEq α] in
theorem Closed.append {front back : List α} (hFront : Closed nl front) (hBack : Closed nl back) :
    Closed nl (front ++ back) := by
  rcases hBack with rfl | ⟨line, rfl⟩
  · rwa [List.append_nil]
  · exact .inr ⟨front ++ line, (List.append_assoc ..).symm⟩

theorem whole_append {front back : List α} (hFront : Closed nl front) (hBack : nl ∉ back) :
    whole nl (front ++ back) = front := by
  have hDrop : ∀ c ∈ back.reverse, decide (c ≠ nl) = true := fun c hc =>
    decide_eq_true fun hSame => hBack (hSame ▸ List.mem_reverse.mp hc)
  rw [whole, List.rdropWhile, List.reverse_append, List.dropWhile_append_of_pos hDrop]
  rcases hFront with rfl | ⟨line, rfl⟩
  · rfl
  · rw [List.reverse_append, List.reverse_singleton, List.singleton_append,
      List.dropWhile_cons_of_neg (by simp), List.reverse_cons, List.reverse_reverse]

theorem exists_whole (nl : α) (text : List α) :
    ∃ front back, text = front ++ back ∧ Closed nl front ∧ nl ∉ back := by
  induction text using List.reverseRecOn with
  | nil => exact ⟨[], [], rfl, .inl rfl, List.not_mem_nil⟩
  | append_singleton text c ih =>
    by_cases hBreak : c = nl
    · exact ⟨text ++ [c], [], (List.append_nil _).symm, .inr ⟨text, by rw [hBreak]⟩,
        List.not_mem_nil⟩
    · obtain ⟨front, back, rfl, hFront, hBack⟩ := ih
      refine ⟨front, back ++ [c], List.append_assoc .., hFront, ?_⟩
      rw [List.mem_append, List.mem_singleton, not_or]
      exact ⟨hBack, fun hSame => hBreak hSame.symm⟩

theorem closed_whole (text : List α) : Closed nl (whole nl text) := by
  obtain ⟨front, back, rfl, hFront, hBack⟩ := exists_whole nl text
  rwa [whole_append hFront hBack]

theorem exists_rest (text : List α) : ∃ rest, text = whole nl text ++ rest ∧ nl ∉ rest := by
  obtain ⟨front, back, rfl, hFront, hBack⟩ := exists_whole nl text
  exact ⟨back, by rw [whole_append hFront hBack], hBack⟩

theorem whole_eq_nil_iff (text : List α) : whole nl text = [] ↔ nl ∉ text := by
  obtain ⟨front, back, rfl, hFront, hBack⟩ := exists_whole nl text
  rw [whole_append hFront hBack, List.mem_append, not_or]
  constructor
  · rintro rfl
    exact ⟨List.not_mem_nil, hBack⟩
  · rintro ⟨hNone, -⟩
    rcases hFront with rfl | ⟨line, rfl⟩
    · rfl
    · exact absurd (List.mem_append_right line (List.mem_singleton_self nl)) hNone

theorem whole_closed_append {front : List α} (hFront : Closed nl front) (text : List α) :
    whole nl (front ++ text) = front ++ whole nl text := by
  obtain ⟨lines, back, rfl, hLines, hBack⟩ := exists_whole nl text
  rw [whole_append hLines hBack, ← List.append_assoc, whole_append (hFront.append hLines) hBack]

/-! ## Short lines -/

def Short (nl : α) (bound : Nat) (text : List α) : Prop :=
  ∀ line ∈ text.splitOn nl, line.length < bound

/-- A block without a line break is a part of one line, and of the first one if it comes first. -/
theorem exists_line {block text : List α} (hBlock : nl ∉ block) :
    (block <+: text → ∃ line rest, text.splitOn nl = line :: rest ∧ block <+: line) ∧
      (block <:+: text → ∃ line ∈ text.splitOn nl, block <:+: line) := by
  induction text generalizing block with
  | nil =>
    constructor
    · intro hPrefix
      exact ⟨[], [], List.splitOn_nil nl, hPrefix⟩
    · intro hInfix
      exact ⟨[], by rw [List.splitOn_nil]; exact List.mem_singleton_self _, hInfix⟩
  | cons c text ih =>
    have hPrefix : block <+: c :: text →
        ∃ line rest, (c :: text).splitOn nl = line :: rest ∧ block <+: line := by
      intro hHere
      rw [List.splitOn_cons_eq_if_modifyHead]
      cases block with
      | nil =>
        split
        · exact ⟨_, _, rfl, List.nil_prefix⟩
        · obtain ⟨line, rest, hSplit⟩ :=
            List.exists_cons_of_ne_nil (List.splitOn_ne_nil nl text)
          rw [hSplit]
          exact ⟨_, _, rfl, List.nil_prefix⟩
      | cons d block =>
        obtain ⟨rfl, hRest⟩ := List.cons_prefix_cons.mp hHere
        have hOther : d ≠ nl := fun hSame => hBlock (hSame ▸ List.mem_cons_self)
        obtain ⟨line, rest, hSplit, hLine⟩ :=
          (ih fun hMem => hBlock (List.mem_cons_of_mem d hMem)).1 hRest
        rw [if_neg (by simpa using hOther), hSplit]
        exact ⟨_, _, rfl, List.cons_prefix_cons.mpr ⟨rfl, hLine⟩⟩
    refine ⟨hPrefix, fun hInfix => ?_⟩
    rcases List.infix_cons_iff.mp hInfix with hHere | hLater
    · obtain ⟨line, rest, hSplit, hLine⟩ := hPrefix hHere
      exact ⟨line, hSplit ▸ List.mem_cons_self, hLine.isInfix⟩
    · obtain ⟨line, hMem, hLine⟩ := (ih hBlock).2 hLater
      rw [List.splitOn_cons_eq_if_modifyHead]
      split
      · exact ⟨line, List.mem_cons_of_mem _ hMem, hLine⟩
      · obtain ⟨first, rest, hSplit⟩ := List.exists_cons_of_ne_nil (List.splitOn_ne_nil nl text)
        rw [hSplit] at hMem ⊢
        rw [List.modifyHead_cons]
        rcases List.mem_cons.mp hMem with rfl | hRest
        · exact ⟨_, List.mem_cons_self, hLine.trans (List.suffix_cons c line).isInfix⟩
        · exact ⟨line, List.mem_cons_of_mem _ hRest, hLine⟩

theorem Short.break_mem {bound : Nat} {text block : List α} (h : Short nl bound text)
    (hBlock : block <:+: text) (hLong : bound ≤ block.length) : nl ∈ block := by
  by_contra hNone
  obtain ⟨line, hLine, hPart⟩ := (exists_line hNone).2 hBlock
  exact absurd (hPart.length_le.trans_lt (h line hLine)) (Nat.not_lt.mpr hLong)

end WholeLines
