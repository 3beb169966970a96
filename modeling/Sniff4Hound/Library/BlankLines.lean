import Sniff4Hound.Library.JoinedText

/-!
# Blocks that end in a blank line

A text is read block by block, each up to two newlines in a row. A reader who gets the text in
pieces and keeps what stands behind the last blank line finds the same blocks, however the text was
cut (`blocks_append`), and blocks that are written line by line come back (`blocks_written`).
-/

namespace Sniff4Hound

namespace BlankLines

variable {α : Type*} [DecidableEq α] {nl : α}

def cut (nl : α) : List α → Option (List α × List α)
  | [] => none
  | [_] => none
  | c :: d :: rest =>
    if c = nl ∧ d = nl then some ([], rest)
    else (cut nl (d :: rest)).map fun (block, rest) => (c :: block, rest)

variable {d : α} {rest : List α}

theorem cut_cons {c : α} (h : ¬(c = nl ∧ d = nl)) :
    cut nl (c :: d :: rest) =
      (cut nl (d :: rest)).map fun (block, rest) => (c :: block, rest) := by
  rw [cut, if_neg h]

variable {text block : List α}

theorem cut_cons_eq_some {c : α} (h : ¬(c = nl ∧ d = nl))
    (hCut : cut nl (c :: d :: text) = some (block, rest)) :
    ∃ tail, block = c :: tail ∧ cut nl (d :: text) = some (tail, rest) := by
  rw [cut_cons h, Option.map_eq_some_iff] at hCut
  obtain ⟨⟨tail, rest'⟩, hTail, hSame⟩ := hCut
  cases hSame
  exact ⟨tail, rfl, hTail⟩

theorem cut_append (h : cut nl text = some (block, rest)) (more : List α) :
    cut nl (text ++ more) = some (block, rest ++ more) := by
  induction text generalizing block with
  | nil => cases h
  | cons c text ih =>
    cases text with
    | nil => cases h
    | cons d text =>
      by_cases hBlank : c = nl ∧ d = nl
      · rw [cut, if_pos hBlank] at h
        cases h
        exact if_pos hBlank
      · obtain ⟨tail, rfl, hTail⟩ := cut_cons_eq_some hBlank h
        have hMore := ih hTail
        rw [List.cons_append] at hMore
        rw [List.cons_append, List.cons_append, cut_cons hBlank, hMore]
        rfl

theorem length_cut (h : cut nl text = some (block, rest)) :
    text.length = block.length + rest.length + 2 := by
  induction text generalizing block with
  | nil => cases h
  | cons c text ih =>
    cases text with
    | nil => cases h
    | cons d text =>
      by_cases hBlank : c = nl ∧ d = nl
      · rw [cut, if_pos hBlank] at h
        cases h
        simp
      · obtain ⟨tail, rfl, hTail⟩ := cut_cons_eq_some hBlank h
        have hLength := ih hTail
        simp only [List.length_cons] at hLength ⊢
        omega

variable {line : List α}

theorem cut_pass (hLine : nl ∉ line) (text : List α) :
    cut nl (line ++ nl :: text) =
      (cut nl (nl :: text)).map fun (block, rest) => (line ++ block, rest) := by
  induction line with
  | nil =>
    rw [List.nil_append]
    cases cut nl (nl :: text) <;> rfl
  | cons c line ih =>
    rw [List.mem_cons, not_or] at hLine
    have hNotBlank : ∀ d, ¬(c = nl ∧ d = nl) := fun d hBlank => hLine.1 hBlank.1.symm
    cases line with
    | nil =>
      rw [List.cons_append, List.nil_append, cut_cons (hNotBlank nl)]
      rfl
    | cons d line =>
      rw [List.cons_append, List.cons_append, cut_cons (hNotBlank d), ← List.cons_append,
        ih hLine.2]
      cases cut nl (nl :: text) <;> rfl

theorem cut_last (hLine : nl ∉ line) (rest : List α) :
    cut nl (line ++ nl :: nl :: rest) = some (line, rest) := by
  rw [cut_pass hLine, cut, if_pos ⟨rfl, rfl⟩, Option.map_some]
  dsimp only
  rw [List.append_nil]

theorem cut_next (hLine : nl ∉ line) (hd : d ≠ nl) (text : List α) :
    cut nl (line ++ nl :: d :: text) =
      (cut nl (d :: text)).map fun (block, rest) => (line ++ nl :: block, rest) := by
  rw [cut_pass hLine, cut_cons fun hBlank => hd hBlank.2]
  cases cut nl (d :: text) <;> rfl

theorem cut_joined {lines : List (List α)} (hLines : Separable nl lines) (h : lines ≠ [])
    (rest : List α) :
    cut nl ([nl].intercalate lines ++ nl :: nl :: rest) = some ([nl].intercalate lines, rest) := by
  induction lines with
  | nil => exact absurd rfl h
  | cons line lines ih =>
    obtain ⟨-, hLine⟩ := hLines line List.mem_cons_self
    have hLater : Separable nl lines := fun part hPart => hLines part
      (List.mem_cons_of_mem _ hPart)
    cases lines with
    | nil =>
      rw [List.intercalate_singleton]
      exact cut_last hLine rest
    | cons next lines =>
      obtain ⟨hNext, hNewline⟩ := hLater next List.mem_cons_self
      obtain ⟨d, next, rfl⟩ := List.exists_cons_of_ne_nil hNext
      have hd : d ≠ nl := fun hSame => hNewline (hSame ▸ List.mem_cons_self)
      have hHead : ∃ text, [nl].intercalate ((d :: next) :: lines) = d :: text := by
        cases lines with
        | nil => exact ⟨next, List.intercalate_singleton⟩
        | cons last lines => exact ⟨_, by rw [List.intercalate_cons_cons]; rfl⟩
      obtain ⟨text, hText⟩ := hHead
      have hLast := ih hLater (List.cons_ne_nil _ _)
      rw [hText, List.cons_append] at hLast
      rw [List.intercalate_cons_cons, hText, List.append_assoc, List.append_assoc,
        List.singleton_append, List.cons_append, cut_next hLine hd, hLast, Option.map_some,
        List.append_assoc, List.singleton_append]

def blocks (nl : α) (text : List α) : List (List α) × List α :=
  match h : cut nl text with
  | none => ([], text)
  | some (block, rest) =>
    have hShorter : rest.length < text.length := by rw [length_cut h]; omega
    (block :: (blocks nl rest).1, (blocks nl rest).2)
termination_by text.length

theorem blocks_of_none (h : cut nl text = none) : blocks nl text = ([], text) := by
  rw [blocks]
  split
  · rfl
  · rename_i hCut
    rw [h] at hCut
    cases hCut

theorem blocks_of_some (h : cut nl text = some (block, rest)) :
    blocks nl text = (block :: (blocks nl rest).1, (blocks nl rest).2) := by
  rw [blocks]
  split
  · rename_i hCut
    rw [h] at hCut
    cases hCut
  · rename_i hCut
    rw [h] at hCut
    cases hCut
    rfl

theorem blocks_snd (h : (blocks nl text).1 = []) : (blocks nl text).2 = text := by
  cases hCut : cut nl text with
  | none => rw [blocks_of_none hCut]
  | some found =>
    rw [blocks_of_some hCut] at h
    cases h

theorem blocks_append (text more : List α) :
    blocks nl (text ++ more) =
      ((blocks nl text).1 ++ (blocks nl ((blocks nl text).2 ++ more)).1,
        (blocks nl ((blocks nl text).2 ++ more)).2) := by
  induction text using blocks.induct nl with
  | case1 text hCut =>
    rw [blocks_of_none hCut]
    rfl
  | case2 text block rest hCut _ ih =>
    rw [blocks_of_some hCut, blocks_of_some (cut_append hCut more), ih]
    rfl

def written (nl : α) (texts : List (List α)) : List α :=
  texts.flatMap fun text => text ++ [nl, nl]

def Lined (nl : α) (text : List α) : Prop :=
  ∃ lines, text = [nl].intercalate lines ∧ Separable nl lines ∧ lines ≠ []

theorem blocks_written {texts : List (List α)} (h : ∀ text ∈ texts, Lined nl text) :
    blocks nl (written nl texts) = (texts, []) := by
  induction texts with
  | nil => exact blocks_of_none rfl
  | cons text texts ih =>
    obtain ⟨lines, rfl, hLines, hNe⟩ := h text List.mem_cons_self
    have hCut := cut_joined hLines hNe (written nl texts)
    have hText : written nl ([nl].intercalate lines :: texts) =
        [nl].intercalate lines ++ nl :: nl :: written nl texts := by
      rw [written, List.flatMap_cons, List.append_assoc]
      rfl
    rw [hText, blocks_of_some hCut, ih fun text hText => h text (List.mem_cons_of_mem _ hText)]

end BlankLines

end Sniff4Hound
