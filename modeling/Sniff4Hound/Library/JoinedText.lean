import Mathlib.Data.List.Basic

/-!
# Texts that determine their parts

Numerals of a base up to 16 determine their numbers, and parts joined by a separator that none
of them holds can be told apart again. A gap, two separators in a row where parts have been left
out, stands in a joined text at one place only, if no part is empty.
-/

namespace Sniff4Hound

/-! ## Numerals -/

section Numerals

theorem digitChar_inj {a b : Nat} (ha : a < 16) (hb : b < 16)
    (h : Nat.digitChar a = Nat.digitChar b) : a = b := by
  have hAll : ∀ a < 16, ∀ b < 16, Nat.digitChar a = Nat.digitChar b → a = b := by decide
  exact hAll a ha b hb h

variable {base : Nat} (hBase : 1 < base) (hHex : base ≤ 16)
include hBase hHex

theorem toDigits_inj {m n : Nat} (h : Nat.toDigits base m = Nat.toDigits base n) : m = n := by
  induction m using Nat.strongRecOn generalizing n with
  | _ m ih =>
    rcases Nat.lt_or_ge m base with hm | hm <;> rcases Nat.lt_or_ge n base with hn | hn
    · rw [Nat.toDigits_of_lt_base hm, Nat.toDigits_of_lt_base hn] at h
      exact digitChar_inj (by omega) (by omega) (List.singleton_inj.mp h)
    · rw [Nat.toDigits_of_lt_base hm, Nat.toDigits_of_base_le hBase hn] at h
      obtain ⟨hEmpty, -⟩ := List.append_inj' ((List.nil_append _).trans h) rfl
      exact absurd hEmpty.symm Nat.toDigits_ne_nil
    · rw [Nat.toDigits_of_base_le hBase hm, Nat.toDigits_of_lt_base hn] at h
      obtain ⟨hEmpty, -⟩ := List.append_inj' (h.trans (List.nil_append _).symm) rfl
      exact absurd hEmpty Nat.toDigits_ne_nil
    · rw [Nat.toDigits_of_base_le hBase hm, Nat.toDigits_of_base_le hBase hn] at h
      obtain ⟨hFront, hLast⟩ := List.append_inj' h rfl
      have hDiv : m / base = n / base :=
        ih (m / base) (Nat.div_lt_self (by omega) hBase) hFront
      have hMod : m % base = n % base := by
        refine digitChar_inj ?_ ?_ (List.singleton_inj.mp hLast)
        · exact Nat.lt_of_lt_of_le (Nat.mod_lt m (by omega)) hHex
        · exact Nat.lt_of_lt_of_le (Nat.mod_lt n (by omega)) hHex
      rw [← Nat.div_add_mod m base, ← Nat.div_add_mod n base, hDiv, hMod]

theorem mem_toDigits {c : Char} {n : Nat} (h : c ∈ Nat.toDigits base n) :
    ∃ digit < 16, c = Nat.digitChar digit := by
  induction n using Nat.strongRecOn with
  | _ n ih =>
    rcases Nat.lt_or_ge n base with hn | hn
    · rw [Nat.toDigits_of_lt_base hn] at h
      exact ⟨n, by omega, List.mem_singleton.mp h⟩
    · rw [Nat.toDigits_of_base_le hBase hn] at h
      rcases List.mem_append.mp h with hFront | hLast
      · exact ih (n / base) (Nat.div_lt_self (by omega) hBase) hFront
      · exact ⟨n % base, Nat.lt_of_lt_of_le (Nat.mod_lt n (by omega)) hHex,
          List.mem_singleton.mp hLast⟩

theorem notMem_toDigits {c : Char} (hc : ∀ digit < 16, c ≠ Nat.digitChar digit) (n : Nat) :
    c ∉ Nat.toDigits base n := by
  intro h
  obtain ⟨digit, hDigit, hSame⟩ := mem_toDigits hBase hHex h
  exact hc digit hDigit hSame

end Numerals

/-! ## Joined parts -/

section Joined

variable {α : Type*} [DecidableEq α] {sep : α}

def Separable (sep : α) (parts : List (List α)) : Prop :=
  ∀ part ∈ parts, part ≠ [] ∧ sep ∉ part

omit [DecidableEq α] in
theorem Separable.nil_notMem {parts : List (List α)} (h : Separable sep parts) :
    [] ∉ parts := fun hMem => (h [] hMem).1 rfl

omit [DecidableEq α] in
theorem mem_joined {c : α} {parts : List (List α)} (h : c ∈ [sep].intercalate parts) :
    c = sep ∨ ∃ part ∈ parts, c ∈ part := by
  induction parts with
  | nil => cases h
  | cons part rest ih =>
    cases rest with
    | nil =>
      rw [List.intercalate_singleton] at h
      exact Or.inr ⟨part, List.mem_cons_self, h⟩
    | cons next rest =>
      rw [List.intercalate_cons_cons, List.mem_append, List.mem_append] at h
      rcases h with (hHere | hSep) | hLater
      · exact Or.inr ⟨part, List.mem_cons_self, hHere⟩
      · exact Or.inl (List.mem_singleton.mp hSep)
      · rcases ih hLater with hSep | ⟨found, hFound, hIn⟩
        · exact Or.inl hSep
        · exact Or.inr ⟨found, List.mem_cons_of_mem _ hFound, hIn⟩

omit [DecidableEq α] in
theorem mem_joined_of_mem {c : α} {part : List α} {parts : List (List α)} (hPart : part ∈ parts)
    (h : c ∈ part) : c ∈ [sep].intercalate parts := by
  induction parts with
  | nil => cases hPart
  | cons first rest ih =>
    by_cases hRest : rest = []
    · subst hRest
      rw [List.intercalate_singleton, ← List.mem_singleton.mp hPart]
      exact h
    · rw [List.intercalate_cons_of_ne_nil hRest]
      rcases List.mem_cons.mp hPart with rfl | hLater
      · exact List.mem_append_left _ (List.mem_append_left _ h)
      · exact List.mem_append_right _ (ih hLater)

omit [DecidableEq α] in
theorem joined_append {front back : List (List α)} (hFront : front ≠ []) (hBack : back ≠ []) :
    [sep].intercalate (front ++ back) =
      [sep].intercalate front ++ sep :: [sep].intercalate back := by
  induction front with
  | nil => exact absurd rfl hFront
  | cons part rest ih =>
    rw [List.cons_append,
      List.intercalate_cons_of_ne_nil (List.append_ne_nil_of_right_ne_nil rest hBack)]
    by_cases hRest : rest = []
    · rw [hRest, List.nil_append, List.intercalate_singleton, List.append_assoc,
        List.singleton_append]
    · rw [ih hRest, List.intercalate_cons_of_ne_nil hRest, List.append_assoc, List.append_assoc,
        List.append_assoc]

omit [DecidableEq α] in
theorem Separable.head?_joined {parts : List (List α)} (h : Separable sep parts) :
    ([sep].intercalate parts).head? ≠ some sep := by
  have hPart {part : List α} (hMem : part ∈ parts) (hHead : part.head? = some sep) : False :=
    (h part hMem).2 (List.mem_of_mem_head? hHead)
  cases parts with
  | nil => exact nofun
  | cons part rest =>
    cases rest with
    | nil =>
      rw [List.intercalate_singleton]
      exact hPart List.mem_cons_self
    | cons next rest =>
      rw [List.intercalate_cons_cons, List.append_assoc,
        List.head?_append_of_ne_nil _ (h part List.mem_cons_self).1]
      exact hPart List.mem_cons_self

omit [DecidableEq α] in
theorem Separable.getLast?_joined {parts : List (List α)} (h : Separable sep parts) :
    ([sep].intercalate parts).getLast? ≠ some sep := by
  induction parts with
  | nil => exact nofun
  | cons part rest ih =>
    cases rest with
    | nil =>
      rw [List.intercalate_singleton]
      exact fun hLast => (h part List.mem_cons_self).2 (List.mem_of_mem_getLast? hLast)
    | cons next rest =>
      have hRest : Separable sep (next :: rest) := fun found hFound =>
        h found (List.mem_cons_of_mem _ hFound)
      have hSome : [sep].intercalate (next :: rest) ≠ [] := by
        intro hNil
        obtain ⟨hNext, -⟩ := h next (List.mem_cons_of_mem _ List.mem_cons_self)
        cases rest with
        | nil =>
          rw [List.intercalate_singleton] at hNil
          exact hNext hNil
        | cons _ _ =>
          rw [List.intercalate_cons_cons, List.append_assoc] at hNil
          exact hNext (List.append_eq_nil_iff.mp hNil).1
      rw [List.intercalate_cons_cons, List.getLast?_append_of_ne_nil _ hSome]
      exact ih hRest

/-- What is split off from the joined text: the parts, or one empty part for no parts. -/
theorem splitOn_joined {parts : List (List α)} (h : Separable sep parts) :
    ([sep].intercalate parts).splitOn sep = if parts = [] then [[]] else parts := by
  split
  · rename_i hEmpty
    rw [hEmpty]
    exact List.splitOn_nil sep
  · rename_i hParts
    exact List.splitOn_intercalate sep (fun part hPart => (h part hPart).2) hParts

theorem notMem_splitOn (text : List α) : ∀ part ∈ text.splitOn sep, sep ∉ part := by
  induction text with
  | nil =>
    rw [List.splitOn_nil]
    intro part hPart
    rw [List.mem_singleton.mp hPart]
    exact List.not_mem_nil
  | cons c text ih =>
    rw [List.splitOn_cons_eq_if_modifyHead]
    split
    · intro part hPart
      rcases List.mem_cons.mp hPart with rfl | hRest
      · exact List.not_mem_nil
      · exact ih part hRest
    · rename_i hOther
      cases hParts : text.splitOn sep with
      | nil => exact absurd hParts (List.splitOn_ne_nil sep text)
      | cons first rest =>
        rw [hParts] at ih
        intro part hPart
        rw [List.modifyHead_cons] at hPart
        rcases List.mem_cons.mp hPart with rfl | hRest
        · rw [List.mem_cons, not_or]
          exact ⟨fun hSame => hOther (beq_iff_eq.mpr hSame.symm), ih first List.mem_cons_self⟩
        · exact ih part (List.mem_cons_of_mem _ hRest)

omit [DecidableEq α] in
theorem pieces_inj {parts parts' : List (List α)} (h : Separable sep parts)
    (h' : Separable sep parts')
    (hSame : (if parts = [] then [[]] else parts) = if parts' = [] then [[]] else parts') :
    parts = parts' := by
  split at hSame <;> split at hSame
  · rename_i hNone hNone'
    rw [hNone, hNone']
  · rw [← hSame] at h'
    exact absurd List.mem_cons_self h'.nil_notMem
  · rw [hSame] at h
    exact absurd List.mem_cons_self h.nil_notMem
  · exact hSame

theorem joined_inj {parts parts' : List (List α)} (h : Separable sep parts)
    (h' : Separable sep parts')
    (hSame : [sep].intercalate parts = [sep].intercalate parts') : parts = parts' := by
  apply pieces_inj h h'
  rw [← splitOn_joined h, ← splitOn_joined h', hSame]

theorem append_sep_inj {front front' last last' : List α} (hLast : sep ∉ last)
    (hLast' : sep ∉ last') (h : front ++ sep :: last = front' ++ sep :: last') :
    front = front' ∧ last = last' := by
  have hPieces := congrArg (List.splitOn sep) h
  rw [List.splitOn_append_cons_self, List.splitOn_append_cons_self,
    List.splitOn_eq_singleton hLast, List.splitOn_eq_singleton hLast'] at hPieces
  obtain ⟨-, hSame⟩ := List.append_inj' hPieces rfl
  obtain rfl := List.singleton_inj.mp hSame
  exact ⟨List.append_cancel_right h, rfl⟩

/-! ## A gap -/

def gapText (sep : α) (front back : List (List α)) : List α :=
  [sep].intercalate front ++ sep :: sep :: [sep].intercalate back

theorem splitOn_gapText {front back : List (List α)} (hFront : Separable sep front)
    (hBack : Separable sep back) :
    (gapText sep front back).splitOn sep = (if front = [] then [[]] else front) ++
      [] :: if back = [] then [[]] else back := by
  rw [gapText, List.splitOn_append_cons_self, splitOn_joined hFront, ← splitOn_joined hBack]
  exact congrArg _ (List.splitOn_append_cons_self [] _)

theorem gapText_inj {front front' back back' : List (List α)} (hFront : Separable sep front)
    (hBack : Separable sep back) (hFront' : Separable sep front') (hBack' : Separable sep back')
    (h : gapText sep front back = gapText sep front' back') : front = front' ∧ back = back' := by
  have hPieces := congrArg (List.splitOn sep) h
  rw [splitOn_gapText hFront hBack, splitOn_gapText hFront' hBack'] at hPieces
  suffices hSame : front = front' by
    subst hSame
    exact ⟨rfl, pieces_inj hBack hBack' (List.cons.inj (List.append_cancel_left hPieces)).2⟩
  by_cases hNone : front = [] <;> by_cases hNone' : front' = []
  · rw [hNone, hNone']
  · rw [if_pos hNone, if_neg hNone'] at hPieces
    obtain ⟨part, rest, rfl⟩ := List.exists_cons_of_ne_nil hNone'
    exact absurd (List.cons.inj hPieces).1.symm (hFront' part List.mem_cons_self).1
  · rw [if_neg hNone, if_pos hNone'] at hPieces
    obtain ⟨part, rest, rfl⟩ := List.exists_cons_of_ne_nil hNone
    exact absurd (List.cons.inj hPieces).1 (hFront part List.mem_cons_self).1
  · -- the gap is the first empty piece
    rw [if_neg hNone, if_neg hNone'] at hPieces
    have hSplit := congrArg (List.splitOn []) hPieces
    rw [List.splitOn_append_cons_self_of_not_mem hFront.nil_notMem,
      List.splitOn_append_cons_self_of_not_mem hFront'.nil_notMem] at hSplit
    exact (List.cons.inj hSplit).1

theorem gapText_ne {front back parts : List (List α)} (hFront : Separable sep front)
    (hBack : Separable sep back) (hParts : Separable sep parts) (hSome : parts ≠ []) :
    gapText sep front back ≠ [sep].intercalate parts := by
  intro h
  have hPieces := congrArg (List.splitOn sep) h
  rw [splitOn_gapText hFront hBack, splitOn_joined hParts, if_neg hSome] at hPieces
  apply hParts.nil_notMem
  rw [← hPieces]
  exact List.mem_append_right _ List.mem_cons_self

end Joined

end Sniff4Hound
