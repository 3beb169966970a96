import Mathlib.Data.List.Forall2

/-!
# Delimited occurrences

A value occurs delimited in a text when it stands there letter by letter and no letter of a
word touches it on either side; which letters are taken for the same and which ones belong
to words is the `Boundary`. `seek` decides it in one pass (`seek_iff`). In a text that is
joined with a separator outside all words, a value without separators occurs exactly where
it occurs in a part (`delimited_joinWith`), and cutting the joined text off cuts one part
off (`delimited_take_joinWith`).
-/

namespace Sniff4Hound

structure Boundary (α : Type*) where
  same : α → α → Bool
  word : α → Bool

variable {α : Type*} (b : Boundary α)

def Delimited (value text : List α) : Prop :=
  ∃ pre mid post, text = pre ++ (mid ++ post) ∧
    List.Forall₂ (fun v c => b.same v c = true) value mid ∧
    (∀ c ∈ pre.getLast?, b.word c = false) ∧ ∀ c ∈ post.head?, b.word c = false

/-! ## Deciding it -/

@[grind =] def dropValue : List α → List α → Option (List α)
  | [], text => some text
  | _ :: _, [] => none
  | v :: value, c :: text => if b.same v c then dropValue value text else none

def standsAt (value text : List α) : Bool :=
  match dropValue b value text with
  | none => false
  | some [] => true
  | some (c :: _) => !b.word c

/-- One pass over the text; `touched` says that the letter before it belongs to a word. -/
@[grind =] def seek (value : List α) (touched : Bool) : List α → Bool
  | [] => !touched && standsAt b value []
  | c :: text => !touched && standsAt b value (c :: text) || seek value (b.word c) text

theorem dropValue_eq_some {value text rest : List α} :
    dropValue b value text = some rest ↔
      ∃ mid, text = mid ++ rest ∧ List.Forall₂ (fun v c => b.same v c = true) value mid := by
  induction value generalizing text with
  | nil =>
    rw [dropValue, Option.some.injEq]
    constructor
    · rintro rfl
      exact ⟨[], rfl, List.Forall₂.nil⟩
    · rintro ⟨mid, rfl, hSame⟩
      cases hSame
      rfl
  | cons v value ih =>
    cases text with
    | nil =>
      constructor
      · intro h
        cases h
      · rintro ⟨mid, hText, hSame⟩
        cases hSame
        cases hText
    | cons c text =>
      rw [dropValue]
      split
      · next hHead =>
        rw [ih]
        constructor
        · rintro ⟨mid, rfl, hSame⟩
          exact ⟨c :: mid, rfl, List.Forall₂.cons hHead hSame⟩
        · rintro ⟨mid, hText, hSame⟩
          cases hSame with
          | cons _ hRest =>
            cases hText
            exact ⟨_, rfl, hRest⟩
      · next hHead =>
        constructor
        · intro h
          cases h
        · rintro ⟨mid, hText, hSame⟩
          cases hSame with
          | cons hSame _ =>
            cases hText
            exact absurd hSame hHead

theorem standsAt_iff {value text : List α} :
    standsAt b value text = true ↔ ∃ mid post, text = mid ++ post ∧
      List.Forall₂ (fun v c => b.same v c = true) value mid ∧
      ∀ c ∈ post.head?, b.word c = false := by
  unfold standsAt
  constructor
  · intro h
    split at h
    · cases h
    · next hAfter =>
      obtain ⟨mid, hText, hSame⟩ := (dropValue_eq_some b).mp hAfter
      exact ⟨mid, [], hText, hSame, by simp⟩
    · next c rest hAfter =>
      obtain ⟨mid, hText, hSame⟩ := (dropValue_eq_some b).mp hAfter
      exact ⟨mid, c :: rest, hText, hSame, by simpa using h⟩
  · rintro ⟨mid, post, hText, hSame, hPost⟩
    rw [(dropValue_eq_some b).mpr ⟨mid, hText, hSame⟩]
    cases post with
    | nil => rfl
    | cons c rest => simpa using hPost

theorem seek_iff_from (value : List α) (touched : Bool) (text : List α) :
    seek b value touched text = true ↔ ∃ pre mid post, text = pre ++ (mid ++ post) ∧
      List.Forall₂ (fun v c => b.same v c = true) value mid ∧ (pre = [] → touched = false) ∧
      (∀ c ∈ pre.getLast?, b.word c = false) ∧ ∀ c ∈ post.head?, b.word c = false := by
  induction text generalizing touched with
  | nil =>
    rw [seek, Bool.and_eq_true, Bool.not_eq_true', standsAt_iff]
    constructor
    · rintro ⟨hFree, mid, post, hText, hSame, hPost⟩
      exact ⟨[], mid, post, hText, hSame, fun _ => hFree, by simp, hPost⟩
    · rintro ⟨pre, mid, post, hText, hSame, hFree, -, hPost⟩
      obtain ⟨rfl, hRest⟩ := List.append_eq_nil_iff.mp hText.symm
      exact ⟨hFree rfl, mid, post, hRest.symm, hSame, hPost⟩
  | cons c text ih =>
    rw [seek, Bool.or_eq_true, Bool.and_eq_true, Bool.not_eq_true', standsAt_iff, ih]
    constructor
    · rintro (⟨hFree, mid, post, hText, hSame, hPost⟩ |
        ⟨pre, mid, post, rfl, hSame, hFree, hPre, hPost⟩)
      · exact ⟨[], mid, post, hText, hSame, fun _ => hFree, by simp, hPost⟩
      · refine ⟨c :: pre, mid, post, rfl, hSame, nofun, ?_, hPost⟩
        cases pre with
        | nil => simpa using hFree rfl
        | cons d pre => simpa [List.getLast?_cons_cons] using hPre
    · rintro ⟨pre, mid, post, hText, hSame, hFree, hPre, hPost⟩
      cases pre with
      | nil => exact Or.inl ⟨hFree rfl, mid, post, hText, hSame, hPost⟩
      | cons d pre =>
        cases hText
        refine Or.inr ⟨pre, mid, post, rfl, hSame, ?_, ?_, hPost⟩
        · rintro rfl
          simpa using hPre
        · cases pre with
          | nil => simp
          | cons e pre => simpa [List.getLast?_cons_cons] using hPre

theorem seek_iff (value text : List α) : seek b value false text = true ↔
    Delimited b value text := by
  rw [seek_iff_from]
  constructor
  · rintro ⟨pre, mid, post, hText, hSame, -, hPre, hPost⟩
    exact ⟨pre, mid, post, hText, hSame, hPre, hPost⟩
  · rintro ⟨pre, mid, post, hText, hSame, hPre, hPost⟩
    exact ⟨pre, mid, post, hText, hSame, fun _ => rfl, hPre, hPost⟩

instance (value text : List α) : Decidable (Delimited b value text) :=
  decidable_of_iff _ (seek_iff b value text)

/-! ## Joined texts -/

variable {b} {value : List α} {sep : α}

theorem Delimited.append_right (h : Delimited b value text) (hSep : b.word sep = false)
    (rest : List α) : Delimited b value (text ++ sep :: rest) := by
  obtain ⟨pre, mid, post, rfl, hSame, hPre, hPost⟩ := h
  refine ⟨pre, mid, post ++ sep :: rest, by simp, hSame, hPre, ?_⟩
  cases post with
  | nil => simpa using hSep
  | cons c post => simpa using hPost

theorem Delimited.append_left (h : Delimited b value text) (hSep : b.word sep = false)
    (front : List α) : Delimited b value (front ++ sep :: text) := by
  obtain ⟨pre, mid, post, rfl, hSame, hPre, hPost⟩ := h
  refine ⟨front ++ sep :: pre, mid, post, by simp, hSame, ?_, hPost⟩
  cases pre with
  | nil => simpa using hSep
  | cons c pre => simpa [List.getLast?_append, List.getLast?_cons_cons] using hPre

theorem not_mem_of_same {mid : List α} (hSame : List.Forall₂ (fun v c => b.same v c = true)
    value mid)
    (hValue : ∀ v ∈ value, b.same v sep = false) : sep ∉ mid := by
  induction hSame with
  | nil => exact List.not_mem_nil
  | @cons v c value mid hHead _ ih =>
    intro hIn
    rcases List.mem_cons.mp hIn with rfl | hTail
    · rw [hValue v List.mem_cons_self] at hHead
      cases hHead
    · exact ih (fun w hw => hValue w (List.mem_cons_of_mem _ hw)) hTail

theorem Delimited.of_sep {x y : List α} (h : Delimited b value (x ++ sep :: y))
    (hValue : ∀ v ∈ value, b.same v sep = false) : Delimited b value x ∨ Delimited b value y := by
  obtain ⟨pre, mid, post, hText, hSame, hPre, hPost⟩ := h
  have hMid : sep ∉ mid := not_mem_of_same hSame hValue
  rcases List.append_eq_append_iff.mp hText with ⟨l, rfl, hRest⟩ | ⟨l, rfl, hRest⟩
  · -- it begins at the separator or behind it
    cases l with
    | nil =>
      cases mid with
      | nil => exact Or.inl ⟨x, [], [], by simp, hSame, by simpa using hPre, by simp⟩
      | cons c mid =>
        cases hRest
        exact absurd List.mem_cons_self hMid
    | cons c l =>
      cases hRest
      refine Or.inr ⟨l, mid, post, rfl, hSame, ?_, hPost⟩
      cases l with
      | nil => simp
      | cons d l => simpa [List.getLast?_append, List.getLast?_cons_cons] using hPre
  · rcases List.append_eq_append_iff.mp hRest with ⟨m, rfl, hEnd⟩ | ⟨m, rfl, hEnd⟩
    · -- it ends before the separator or at it
      refine Or.inl ⟨pre, mid, m, rfl, hSame, hPre, ?_⟩
      cases m with
      | nil => simp
      | cons c m =>
        rw [hEnd] at hPost
        simpa using hPost
    · cases m with
      | nil => exact Or.inl ⟨pre, l, [], by simp, by simpa using hSame, hPre, by simp⟩
      | cons c m =>
        cases hEnd
        exact absurd (List.mem_append_right l List.mem_cons_self) hMid

def joinWith (sep : α) : List (List α) → List α
  | [] => []
  | [part] => part
  | part :: next :: rest => part ++ sep :: joinWith sep (next :: rest)

theorem delimited_joinWith (hSep : b.word sep = false) (hValue : ∀ v ∈ value, b.same v sep = false)
    (hNe : value ≠ []) (parts : List (List α)) :
    Delimited b value (joinWith sep parts) ↔ ∃ part ∈ parts, Delimited b value part := by
  induction parts with
  | nil =>
    constructor
    · rintro ⟨pre, mid, post, hText, hSame, -⟩
      have hMid : mid = [] := by
        have hLen := congrArg List.length hText
        simp only [joinWith, List.length_nil, List.length_append] at hLen
        exact List.length_eq_zero_iff.mp (by omega)
      subst hMid
      exact absurd (List.forall₂_nil_right_iff.mp hSame) hNe
    · rintro ⟨part, hPart, -⟩
      cases hPart
  | cons part rest ih =>
    cases rest with
    | nil => simp [joinWith]
    | cons next rest =>
      rw [joinWith]
      constructor
      · intro h
        rcases h.of_sep hValue with hHere | hLater
        · exact ⟨part, List.mem_cons_self, hHere⟩
        · obtain ⟨found, hFound, hIn⟩ := ih.mp hLater
          exact ⟨found, List.mem_cons_of_mem _ hFound, hIn⟩
      · rintro ⟨found, hFound, hIn⟩
        rcases List.mem_cons.mp hFound with rfl | hLater
        · exact hIn.append_right hSep _
        · exact (ih.mpr ⟨found, hLater, hIn⟩).append_left hSep _

theorem take_joinWith (sep : α) (parts : List (List α)) (n : Nat) :
    ∃ cut : List (List α), (joinWith sep parts).take n = joinWith sep cut ∧
      ∀ piece ∈ cut, ∃ part ∈ parts, ∃ k, piece = part.take k := by
  induction parts generalizing n with
  | nil => exact ⟨[], by simp [joinWith], nofun⟩
  | cons part rest ih =>
    have hHead : ∀ k, ∃ whole ∈ part :: rest, ∃ j, part.take k = whole.take j := fun k =>
      ⟨part, List.mem_cons_self, k, rfl⟩
    cases rest with
    | nil => exact ⟨[part.take n], rfl, by simpa using ⟨n, rfl⟩⟩
    | cons next rest =>
      rw [joinWith]
      rcases Nat.lt_or_ge part.length n with hLong | hShort
      · obtain ⟨cut, hCut, hPieces⟩ := ih (n - part.length - 1)
        have hTake : (part ++ sep :: joinWith sep (next :: rest)).take n
            = part ++ sep :: joinWith sep cut := by
          obtain ⟨k, rfl⟩ : ∃ k, n = part.length + (k + 1) := ⟨n - part.length - 1, by omega⟩
          rw [List.take_length_add_append, List.take_succ_cons, ← hCut]
          congr 3
          omega
        have hLater : ∀ piece ∈ cut, ∃ whole ∈ part :: next :: rest, ∃ k,
            piece = whole.take k := by
          intro piece hPiece
          obtain ⟨whole, hWhole, k, hk⟩ := hPieces piece hPiece
          exact ⟨whole, List.mem_cons_of_mem _ hWhole, k, hk⟩
        rw [hTake]
        cases cut with
        | nil =>
          refine ⟨[part, []], rfl, ?_⟩
          intro piece hPiece
          rcases List.mem_cons.mp hPiece with rfl | hEmpty
          · exact ⟨piece, List.mem_cons_self, piece.length, (List.take_length).symm⟩
          · exact ⟨part, List.mem_cons_self, 0, List.mem_singleton.mp hEmpty⟩
        | cons first more =>
          refine ⟨part :: first :: more, rfl, ?_⟩
          intro piece hPiece
          rcases List.mem_cons.mp hPiece with rfl | hMore
          · exact ⟨piece, List.mem_cons_self, piece.length, (List.take_length).symm⟩
          · exact hLater piece hMore
      · refine ⟨[part.take n], ?_, by simpa using hHead n⟩
        rw [List.take_append_of_le_length hShort]
        rfl

/-- An occurrence in a joined text that is cut off lies in the beginning of one part. -/
theorem delimited_take_joinWith (hSep : b.word sep = false)
    (hValue : ∀ v ∈ value, b.same v sep = false) (hNe : value ≠ []) {parts : List (List α)}
    {n : Nat} (h : Delimited b value ((joinWith sep parts).take n)) :
    ∃ part ∈ parts, ∃ k, Delimited b value (part.take k) := by
  obtain ⟨cut, hCut, hPieces⟩ := take_joinWith sep parts n
  rw [hCut, delimited_joinWith hSep hValue hNe] at h
  obtain ⟨piece, hPiece, hIn⟩ := h
  obtain ⟨part, hPart, k, rfl⟩ := hPieces piece hPiece
  exact ⟨part, hPart, k, hIn⟩

end Sniff4Hound
