import Mathlib.Data.List.Basic
import Mathlib.Data.List.TakeWhile

/-!
# Regular expressions that backtrack

An expression is tried at a place of a text, and its matches come in the order in which a
backtracking matcher finds them: runs are greedy, and of two alternatives the first goes first. The
first match counts (`first`), and `sub` replaces the matches from the left to the right.

A text is a list of letters of any type, which are read through `read`, and what a match keeps are
letters of the text itself. So a letter that carries a mark keeps it (`sub_map`). `word` says which
characters make words, and counts for the characters of the text only (`sub_congr`).
-/

namespace Sniff4Hound

/-- Expressions over characters of type `χ`. Repetition is of one letter; a boundary is where a word
begins or ends. -/
inductive Regex (χ : Type*) where
  | empty
  | letter (p : χ → Bool)
  | many (p : χ → Bool) (least : Nat)
  | boundary
  | seq (first second : Regex χ)
  | alt (first second : Regex χ)
  | group (number : Nat) (body : Regex χ)

/-- A place in a text: what stands before it, the nearest letter first, what follows, and the groups
kept so far, the last one first. -/
structure Cursor (α : Type*) where
  before : List α
  rest : List α
  groups : List (Nat × List α)

variable {χ α β : Type*}

namespace Cursor

def advance (c : Cursor α) (n : Nat) : Cursor α :=
  ⟨(c.rest.take n).reverse ++ c.before, c.rest.drop n, c.groups⟩

/-- The text between `c` and the later place `d` becomes a group. -/
def keep (c : Cursor α) (number : Nat) (d : Cursor α) : Cursor α :=
  { d with groups := (number, c.rest.take (c.rest.length - d.rest.length)) :: d.groups }

def group (c : Cursor α) (number : Nat) : List α := (c.groups.lookup number).getD []

def map (f : α → β) (c : Cursor α) : Cursor β :=
  ⟨c.before.map f, c.rest.map f, c.groups.map fun entry => (entry.1, entry.2.map f)⟩

end Cursor

namespace Regex

def letters (ps : List (χ → Bool)) : Regex χ :=
  ps.foldr (fun p rest => .seq (.letter p) rest) .empty

def oneOf : List (Regex χ) → Regex χ
  | [] => .letter fun _ => false
  | [r] => r
  | r :: rest => .alt r (oneOf rest)

variable (read : α → χ) (word : χ → Bool)

@[grind =] def ends : Regex χ → Cursor α → List (Cursor α)
  | .empty, c => [c]
  | .letter p, c => if (c.rest.head?.any fun x => p (read x)) then [c.advance 1] else []
  | .many p least, c =>
    let longest := (c.rest.takeWhile fun x => p (read x)).length
    ((List.range (longest + 1)).reverse.filter (least ≤ ·)).map c.advance
  | .boundary, c =>
    let behind := c.before.head?.any fun x => word (read x)
    let ahead := c.rest.head?.any fun x => word (read x)
    if behind != ahead then [c] else []
  | .seq a b, c => (ends a c).flatMap (ends b)
  | .alt a b, c => ends a c ++ ends b c
  | .group number body, c => (ends body c).map (c.keep number)

def first (r : Regex χ) (c : Cursor α) : Option (Cursor α) := (r.ends read word c).head?

/-- Replaces the matches of an expression that takes a letter at least. The first `skip` letters
have been taken by the match before. -/
@[grind =] def sub (r : Regex χ) (replacement : Cursor α → List α) : Nat → List α → List α → List α
  | _, _, [] => []
  | skip + 1, before, x :: rest => sub r replacement skip (x :: before) rest
  | 0, before, x :: rest =>
    match r.first read word ⟨before, x :: rest, []⟩ with
    | some d =>
      replacement d ++ sub r replacement (rest.length - d.rest.length) (x :: before) rest
    | none => x :: sub r replacement 0 (x :: before) rest

variable {read} {word} {r a b : Regex χ} {c d m : Cursor α} {p : χ → Bool}

/-! ## One constructor at a time -/

theorem mem_ends_letter : d ∈ (letter p).ends read word c ↔
    ∃ x rest, c.rest = x :: rest ∧ p (read x) = true ∧ d = c.advance 1 := by
  rw [ends]
  cases hRest : c.rest with
  | nil => simp
  | cons x rest =>
    by_cases hx : p (read x) = true
    · simp [hx]
    · simp [hx]

variable {least : Nat}

theorem mem_ends_many : d ∈ (many p least).ends read word c ↔
    ∃ n, least ≤ n ∧ n ≤ (c.rest.takeWhile fun x => p (read x)).length ∧ d = c.advance n := by
  rw [ends]
  simp only [List.mem_map, List.mem_filter, List.mem_reverse, List.mem_range, decide_eq_true_eq]
  constructor
  · rintro ⟨n, ⟨hLong, hLeast⟩, rfl⟩
    exact ⟨n, hLeast, Nat.lt_succ_iff.mp hLong, rfl⟩
  · rintro ⟨n, hLeast, hLong, rfl⟩
    exact ⟨n, ⟨Nat.lt_succ_of_le hLong, hLeast⟩, rfl⟩

theorem mem_ends_seq : d ∈ (seq a b).ends read word c ↔ ∃ m ∈ a.ends read word c,
    d ∈ b.ends read word m := by
  rw [ends, List.mem_flatMap]

theorem mem_ends_alt : d ∈ (alt a b).ends read word c ↔ d ∈ a.ends read word c ∨
    d ∈ b.ends read word c := by
  rw [ends, List.mem_append]

theorem mem_ends_group {number : Nat} : d ∈ (group number r).ends read word c ↔
    ∃ m ∈ r.ends read word c, d = c.keep number m := by
  rw [ends, List.mem_map]
  exact exists_congr fun m => and_congr_right fun _ => eq_comm

theorem mem_ends_boundary : d ∈ (boundary : Regex χ).ends read word c ↔
    (c.before.head?.any fun x => word (read x)) ≠ (c.rest.head?.any fun x => word (read x)) ∧
      d = c := by
  rw [ends]
  split
  · next h => simp [bne_iff_ne.mp h]
  · next h => simp [not_not.mp (mt bne_iff_ne.mpr h)]

theorem mem_ends_of_first (h : r.first read word c = some d) : d ∈ r.ends read word c :=
  List.mem_of_mem_head? h

theorem first_ne_none (h : d ∈ r.ends read word c) : ∃ e, r.first read word c = some e := by
  rw [first]
  cases hEnds : r.ends read word c with
  | nil => exact absurd (hEnds ▸ h) List.not_mem_nil
  | cons e rest => exact ⟨e, rfl⟩

theorem first_seq (h : (seq a b).first read word c = some d) :
    ∃ m ∈ a.ends read word c, b.first read word m = some d := by
  rw [first, ends, List.head?_flatMap] at h
  obtain ⟨m, hMem, hFirst⟩ := List.exists_of_findSome?_eq_some h
  exact ⟨m, hMem, hFirst⟩

theorem first_alt (h : (alt a b).first read word c = some d) :
    a.first read word c = some d ∨ b.first read word c = some d := by
  rw [first, ends, List.head?_append, Option.or_eq_some_iff] at h
  exact h.imp id And.right

theorem first_many (h : (many p least).first read word c = some d) :
    least ≤ (c.rest.takeWhile fun x => p (read x)).length ∧
      d = c.advance (c.rest.takeWhile fun x => p (read x)).length := by
  rw [first, ends] at h
  generalize (c.rest.takeWhile fun x => p (read x)).length = longest at h ⊢
  rw [List.range_succ, List.reverse_append, List.reverse_singleton, List.singleton_append,
    List.filter_cons] at h
  by_cases hLeast : least ≤ longest
  · rw [if_pos (decide_eq_true hLeast), List.map_cons, List.head?_cons, Option.some.injEq] at h
    exact ⟨hLeast, h.symm⟩
  · have hNone : (List.range longest).reverse.filter (least ≤ ·) = [] := by
      refine List.filter_eq_nil_iff.mpr fun n hn => ?_
      rw [List.mem_reverse, List.mem_range] at hn
      rw [decide_eq_true_eq]
      omega
    rw [if_neg (by simpa using hLeast), hNone] at h
    cases h

theorem first_many_rest (h : (many p least).first read word c = some d) :
    d.rest = c.rest.dropWhile fun x => p (read x) := by
  rw [(first_many h).2]
  generalize (fun x => p (read x)) = run
  calc c.rest.drop (c.rest.takeWhile run).length
      = (c.rest.takeWhile run ++ c.rest.dropWhile run).drop (c.rest.takeWhile run).length := by
        rw [List.takeWhile_append_dropWhile]
    _ = c.rest.dropWhile run := List.drop_left

/-! ## What a match takes and keeps -/

/-- `d` stands behind `c` in the same text, and what was kept in between are letters that follow
`c`. -/
structure Follows (c d : Cursor α) : Prop where
  taken : ∃ taken, c.rest = taken ++ d.rest ∧ d.before = taken.reverse ++ c.before
  kept : ∀ entry ∈ d.groups, entry ∈ c.groups ∨ entry.2 ⊆ c.rest

namespace Follows

theorem refl (c : Cursor α) : Follows c c := ⟨⟨[], rfl, rfl⟩, fun _ h => .inl h⟩

theorem advance (c : Cursor α) (n : Nat) : Follows c (c.advance n) :=
  ⟨⟨c.rest.take n, (List.take_append_drop n c.rest).symm, rfl⟩, fun _ h => .inl h⟩

theorem trans (h : Follows c m) (h' : Follows m d) : Follows c d := by
  obtain ⟨first, hFirst, hBefore⟩ := h.taken
  obtain ⟨second, hSecond, hBefore'⟩ := h'.taken
  refine ⟨⟨first ++ second, ?_, ?_⟩, fun entry hEntry => ?_⟩
  · rw [hFirst, hSecond, List.append_assoc]
  · rw [hBefore', hBefore, List.reverse_append, List.append_assoc]
  · rcases h'.kept entry hEntry with hOld | hNew
    · exact h.kept entry hOld
    · exact .inr fun x hx => hFirst ▸ List.mem_append_right _ (hNew hx)

theorem keep (h : Follows c d) (number : Nat) : Follows c (c.keep number d) := by
  refine ⟨h.taken, fun entry hEntry => ?_⟩
  rcases List.mem_cons.mp hEntry with rfl | hOld
  · exact .inr (List.take_subset _ _)
  · exact h.kept entry hOld

end Follows

theorem ends_follows (h : d ∈ r.ends read word c) : Follows c d := by
  induction r generalizing c d with
  | empty => exact List.mem_singleton.mp h ▸ .refl c
  | letter p =>
    obtain ⟨x, rest, -, -, rfl⟩ := mem_ends_letter.mp h
    exact .advance c 1
  | many p least =>
    obtain ⟨n, -, -, rfl⟩ := mem_ends_many.mp h
    exact .advance c n
  | boundary => exact (mem_ends_boundary.mp h).2 ▸ .refl c
  | seq a b ihFirst ihSecond =>
    obtain ⟨m, hMiddle, hEnd⟩ := mem_ends_seq.mp h
    exact (ihFirst hMiddle).trans (ihSecond hEnd)
  | alt a b ihFirst ihSecond => exact (mem_ends_alt.mp h).elim ihFirst ihSecond
  | group number body ih =>
    obtain ⟨m, hBody, rfl⟩ := mem_ends_group.mp h
    exact (ih hBody).keep number

def Plain : Regex χ → Prop
  | .seq a b | .alt a b => a.Plain ∧ b.Plain
  | .group _ _ => False
  | _ => True

theorem Plain.groups (h : r.Plain) (hEnd : d ∈ r.ends read word c) : d.groups = c.groups := by
  induction r generalizing c d with
  | empty => rw [List.mem_singleton.mp hEnd]
  | letter p =>
    obtain ⟨x, rest, -, -, rfl⟩ := mem_ends_letter.mp hEnd
    rfl
  | many p least =>
    obtain ⟨n, -, -, rfl⟩ := mem_ends_many.mp hEnd
    rfl
  | boundary => rw [(mem_ends_boundary.mp hEnd).2]
  | seq a b ihFirst ihSecond =>
    obtain ⟨m, hMiddle, hLast⟩ := mem_ends_seq.mp hEnd
    rw [ihSecond h.2 hLast, ihFirst h.1 hMiddle]
  | alt a b ihFirst ihSecond => exact (mem_ends_alt.mp hEnd).elim (ihFirst h.1) (ihSecond h.2)
  | group number body ih => exact h.elim

def Within (q : χ → Prop) : Regex χ → Prop
  | .letter p | .many p _ => ∀ x, p x = true → q x
  | .seq a b | .alt a b => a.Within q ∧ b.Within q
  | .group _ body => body.Within q
  | _ => True

variable {text : List α}

theorem forall_take_takeWhile {q : α → Prop} {p : α → Bool} (hp : ∀ x, p x = true → q x) {n : Nat}
    (h : n ≤ (text.takeWhile p).length) : ∀ x ∈ text.take n, q x := by
  intro x hx
  have hPrefix : text.take n <+: text.takeWhile p :=
    List.prefix_of_prefix_length_le (List.take_prefix n text) (List.takeWhile_prefix p)
      ((List.length_take_le n text).trans h)
  exact hp x (List.mem_takeWhile_imp (hPrefix.subset hx))

variable {q : χ → Prop}

theorem Within.taken (h : r.Within q) (hEnd : d ∈ r.ends read word c) :
    ∃ taken, c.rest = taken ++ d.rest ∧ d.before = taken.reverse ++ c.before ∧
      ∀ x ∈ taken, q (read x) := by
  induction r generalizing c d with
  | empty => exact ⟨[], by simp [List.mem_singleton.mp hEnd]⟩
  | letter p =>
    obtain ⟨x, rest, hRest, hx, rfl⟩ := mem_ends_letter.mp hEnd
    refine ⟨c.rest.take 1, (List.take_append_drop 1 c.rest).symm, rfl, fun y hy => ?_⟩
    rw [hRest, List.take_succ_cons, List.take_zero, List.mem_singleton] at hy
    exact hy ▸ h _ hx
  | many p least =>
    obtain ⟨n, -, hLong, rfl⟩ := mem_ends_many.mp hEnd
    exact ⟨c.rest.take n, (List.take_append_drop n c.rest).symm, rfl,
      forall_take_takeWhile (fun x hx => h _ hx) hLong⟩
  | boundary => exact ⟨[], by simp [(mem_ends_boundary.mp hEnd).2]⟩
  | seq a b ihFirst ihSecond =>
    obtain ⟨m, hMiddle, hLast⟩ := mem_ends_seq.mp hEnd
    obtain ⟨front, hFront, hBefore, hFrontKind⟩ := ihFirst h.1 hMiddle
    obtain ⟨back, hBack, hBefore', hBackKind⟩ := ihSecond h.2 hLast
    refine ⟨front ++ back, ?_, ?_, fun x hx => (List.mem_append.mp hx).elim (hFrontKind x)
      (hBackKind x)⟩
    · rw [hFront, hBack, List.append_assoc]
    · rw [hBefore', hBefore, List.reverse_append, List.append_assoc]
  | alt a b ihFirst ihSecond => exact (mem_ends_alt.mp hEnd).elim (ihFirst h.1) (ihSecond h.2)
  | group number body ih =>
    obtain ⟨m, hBody, rfl⟩ := mem_ends_group.mp hEnd
    obtain ⟨taken, hRest, hBefore, hKind⟩ := ih h hBody
    exact ⟨taken, hRest, hBefore, hKind⟩

theorem within_letters {ps : List (χ → Bool)} (h : ∀ p ∈ ps, ∀ x, p x = true → q x) :
    (letters ps).Within q := by
  induction ps with
  | nil => trivial
  | cons p rest ih =>
    exact ⟨h p List.mem_cons_self, ih fun p hp => h p (List.mem_cons_of_mem _ hp)⟩

theorem mem_ends_letters {ps : List (χ → Bool)}
    (h : List.Forall₂ (fun p x => p (read x) = true) ps text) (before rest : List α)
    (groups : List (Nat × List α)) :
    ⟨text.reverse ++ before, rest, groups⟩ ∈
      (letters ps).ends read word ⟨before, text ++ rest, groups⟩ := by
  induction h generalizing before with
  | nil => exact List.mem_singleton.mpr rfl
  | @cons p x ps text hx _ ih =>
    refine mem_ends_seq.mpr ⟨⟨x :: before, text ++ rest, groups⟩, ?_, ?_⟩
    · exact mem_ends_letter.mpr ⟨x, text ++ rest, rfl, hx, rfl⟩
    · rw [List.reverse_cons, List.append_assoc]
      exact ih (x :: before)

theorem mem_ends_run (h : ∀ x ∈ text, p (read x) = true) (hLeast : least ≤ text.length)
    (before rest : List α) (groups : List (Nat × List α)) :
    ⟨text.reverse ++ before, rest, groups⟩ ∈
      (many p least).ends read word ⟨before, text ++ rest, groups⟩ := by
  refine mem_ends_many.mpr ⟨text.length, hLeast, ?_, ?_⟩
  · rw [List.takeWhile_append_of_pos h, List.length_append]
    exact Nat.le_add_right _ _
  · rw [Cursor.advance, List.take_left, List.drop_left]

theorem group_taken {number : Nat} (hPlain : r.Plain)
    (h : d ∈ (group number r).ends read word c) :
    ∃ m ∈ r.ends read word c, ∃ taken, c.rest = taken ++ m.rest ∧
      m.before = taken.reverse ++ c.before ∧
      d = ⟨m.before, m.rest, (number, taken) :: c.groups⟩ := by
  obtain ⟨m, hBody, rfl⟩ := mem_ends_group.mp h
  obtain ⟨taken, hRest, hBefore⟩ := (ends_follows hBody).taken
  refine ⟨m, hBody, taken, hRest, hBefore, ?_⟩
  rw [Cursor.keep, hPlain.groups hBody, hRest, List.length_append, Nat.add_sub_cancel,
    List.take_left]

theorem mem_ends_oneOf {rs : List (Regex χ)} (hr : r ∈ rs) (h : d ∈ r.ends read word c) :
    d ∈ (oneOf rs).ends read word c := by
  induction rs with
  | nil => cases hr
  | cons a rest ih =>
    cases rest with
    | nil => exact List.mem_singleton.mp hr ▸ h
    | cons b rest =>
      rcases List.mem_cons.mp hr with rfl | hLater
      · exact mem_ends_alt.mpr (.inl h)
      · exact mem_ends_alt.mpr (.inr (ih hLater))

theorem within_oneOf {rs : List (Regex χ)} (h : ∀ r ∈ rs, r.Within q) : (oneOf rs).Within q := by
  induction rs with
  | nil => exact fun x hx => (Bool.false_ne_true hx).elim
  | cons a rest ih =>
    cases rest with
    | nil => exact h a List.mem_cons_self
    | cons b rest =>
      exact ⟨h a List.mem_cons_self, ih fun r hr => h r (List.mem_cons_of_mem _ hr)⟩

/-! ## Replacing -/

section Replace

variable {replacement : Cursor α → List α} {before text rest : List α}

theorem sub_skip (taken before rest : List α) :
    r.sub read word replacement taken.length before (taken ++ rest) =
      r.sub read word replacement 0 (taken.reverse ++ before) rest := by
  induction taken generalizing before with
  | nil => rfl
  | cons x taken ih =>
    rw [List.length_cons, List.cons_append, sub, ih, List.reverse_cons, List.append_assoc,
      List.singleton_append]

theorem sub_none {x : α} (h : r.first read word ⟨before, x :: rest, []⟩ = none) :
    r.sub read word replacement 0 before (x :: rest) =
      x :: r.sub read word replacement 0 (x :: before) rest := by
  rw [sub, h]

theorem sub_some {taken : List α} (h : r.first read word ⟨before, taken ++ d.rest, []⟩ = some d)
    (hTaken : taken ≠ []) :
    r.sub read word replacement 0 before (taken ++ d.rest) =
      replacement d ++ r.sub read word replacement 0 (taken.reverse ++ before) d.rest := by
  obtain ⟨x, more, rfl⟩ := List.exists_cons_of_ne_nil hTaken
  rw [List.cons_append] at h ⊢
  rw [sub, h]
  dsimp only
  rw [List.length_append, Nat.add_sub_cancel, sub_skip, List.reverse_cons, List.append_assoc,
    List.singleton_append]

/-- What holds of the letters of the text, and of those of a replacement when it holds of the
groups, holds of the result. -/
theorem forall_sub {q : α → Prop}
    (hReplacement : ∀ d : Cursor α, (∀ entry ∈ d.groups, ∀ x ∈ entry.2, q x) →
      ∀ x ∈ replacement d, q x)
    (skip : Nat) (before : List α) (hText : ∀ x ∈ text, q x) :
    ∀ x ∈ r.sub read word replacement skip before text, q x := by
  induction text generalizing skip before with
  | nil => exact fun x hx => absurd hx List.not_mem_nil
  | cons y rest ih =>
    have hRest := fun skip before =>
      ih skip before fun x hx => hText x (List.mem_cons_of_mem _ hx)
    cases skip with
    | succ skip => exact hRest skip (y :: before)
    | zero =>
      rw [sub]
      split
      · next d hFirst =>
        intro x hx
        rcases List.mem_append.mp hx with hHere | hLater
        · refine hReplacement d (fun entry hEntry z hz => ?_) x hHere
          rcases (ends_follows (mem_ends_of_first hFirst)).kept entry hEntry with hOld | hNew
          · cases hOld
          · exact hText z (hNew hz)
        · exact hRest _ _ x hLater
      · intro x hx
        rcases List.mem_cons.mp hx with rfl | hLater
        · exact hText x List.mem_cons_self
        · exact hRest _ _ x hLater

end Replace

/-! ## Letters of another type -/

section Map

variable {read' : β → χ} {f : α → β} (hRead : ∀ x, read' (f x) = read x)
include hRead

theorem takeWhile_map (p : χ → Bool) (text : List α) :
    (text.map f).takeWhile (fun x => p (read' x)) =
      (text.takeWhile fun x => p (read x)).map f := by
  rw [List.takeWhile_map]
  simp only [Function.comp_def, hRead]

theorem head?_any_map (p : χ → Bool) (text : List α) :
    ((text.map f).head?.any fun x => p (read' x)) = text.head?.any fun x => p (read x) := by
  cases text with
  | nil => rfl
  | cons x rest => exact congrArg p (hRead x)

omit hRead in
theorem map_advance (c : Cursor α) (n : Nat) : (c.map f).advance n = (c.advance n).map f := by
  rw [Cursor.advance, Cursor.map, Cursor.map, Cursor.advance, List.map_append, List.map_reverse,
    List.map_take, List.map_drop]

omit hRead in
theorem map_keep (c d : Cursor α) (number : Nat) :
    (c.map f).keep number (d.map f) = (c.keep number d).map f := by
  simp only [Cursor.keep, Cursor.map, List.length_map, List.map_cons, List.map_take]

omit hRead in
theorem group_map (c : Cursor α) (number : Nat) :
    (c.map f).group number = (c.group number).map f := by
  obtain ⟨before, rest, groups⟩ := c
  rw [Cursor.map, Cursor.group, Cursor.group]
  dsimp only
  induction groups with
  | nil => rfl
  | cons entry groups ih =>
    rw [List.map_cons, List.lookup_cons, List.lookup_cons]
    cases number == entry.1 with
    | true => rfl
    | false => exact ih

theorem ends_map (r : Regex χ) (c : Cursor α) :
    r.ends read' word (c.map f) = (r.ends read word c).map (Cursor.map f) := by
  induction r generalizing c with
  | empty => rfl
  | letter p =>
    rw [ends, ends, Cursor.map, head?_any_map hRead]
    split
    · exact congrArg (· :: []) (map_advance c 1)
    · rfl
  | many p least =>
    rw [ends, ends]
    have hLength : ((c.map f).rest.takeWhile fun x => p (read' x)).length =
        (c.rest.takeWhile fun x => p (read x)).length := by
      rw [Cursor.map, takeWhile_map hRead, List.length_map]
    rw [hLength, List.map_map]
    exact List.map_congr_left fun n _ => map_advance c n
  | boundary =>
    rw [ends, ends, Cursor.map, head?_any_map hRead, head?_any_map hRead]
    split <;> rfl
  | seq a b ihFirst ihSecond =>
    rw [ends, ends, ihFirst, List.flatMap_map, List.map_flatMap]
    exact List.flatMap_congr fun m _ => ihSecond m
  | alt a b ihFirst ihSecond => rw [ends, ends, ihFirst, ihSecond, List.map_append]
  | group number body ih =>
    rw [ends, ends, ih, List.map_map, List.map_map]
    exact List.map_congr_left fun d _ => map_keep c d number

theorem sub_map (r : Regex χ) {replacement : Cursor α → List α} {replacement' : Cursor β → List β}
    (hReplacement : ∀ d, replacement' (d.map f) = (replacement d).map f) (skip : Nat)
    (before text : List α) :
    r.sub read' word replacement' skip (before.map f) (text.map f) =
      (r.sub read word replacement skip before text).map f := by
  induction text generalizing skip before with
  | nil => cases skip <;> rfl
  | cons x rest ih =>
    cases skip with
    | succ skip => exact ih skip (x :: before)
    | zero =>
      have hFirst : r.first read' word ⟨before.map f, f x :: rest.map f, []⟩ =
          (r.first read word ⟨before, x :: rest, []⟩).map (Cursor.map f) := by
        rw [first, first, ← List.head?_map, ← ends_map hRead]
        rfl
      rw [List.map_cons, sub, sub, hFirst]
      cases r.first read word ⟨before, x :: rest, []⟩ with
      | none => exact congrArg (f x :: ·) (ih 0 (x :: before))
      | some d =>
        dsimp only [Option.map_some]
        rw [hReplacement, List.map_append, List.length_map, Cursor.map, List.length_map]
        exact congrArg (_ ++ ·) (ih _ (x :: before))

end Map

/-! ## Other words -/

section Words

variable {word' : χ → Bool} {q : α → Prop} (hWord : ∀ x, q x → word (read x) = word' (read x))
include hWord

theorem ends_congr (r : Regex χ) {c : Cursor α} (hBefore : ∀ x ∈ c.before, q x)
    (hRest : ∀ x ∈ c.rest, q x) : r.ends read word c = r.ends read word' c := by
  have hHead : ∀ text : List α, (∀ x ∈ text, q x) →
      (text.head?.any fun x => word (read x)) = text.head?.any fun x => word' (read x) := by
    intro text hText
    cases text with
    | nil => rfl
    | cons x rest => exact hWord x (hText x List.mem_cons_self)
  induction r generalizing c with
  | empty => rfl
  | letter p => rfl
  | many p least => rfl
  | boundary => rw [ends, ends, hHead _ hBefore, hHead _ hRest]
  | seq a b ihFirst ihSecond =>
    rw [ends, ends, ← ihFirst hBefore hRest]
    refine List.flatMap_congr fun m hMiddle => ?_
    obtain ⟨taken, hTaken, hPassed⟩ := (ends_follows hMiddle).taken
    rw [hTaken] at hRest
    refine ihSecond ?_ fun x hx => hRest x (List.mem_append_right _ hx)
    rw [hPassed]
    intro x hx
    rcases List.mem_append.mp hx with hNew | hOld
    · exact hRest x (List.mem_append_left _ (List.mem_reverse.mp hNew))
    · exact hBefore x hOld
  | alt a b ihFirst ihSecond =>
    rw [ends, ends, ihFirst hBefore hRest, ihSecond hBefore hRest]
  | group number body ih => rw [ends, ends, ih hBefore hRest]

theorem sub_congr (r : Regex χ) (replacement : Cursor α → List α) (skip : Nat)
    {before text : List α} (hBefore : ∀ x ∈ before, q x) (hText : ∀ x ∈ text, q x) :
    r.sub read word replacement skip before text =
    r.sub read word' replacement skip before text := by
  induction text generalizing skip before with
  | nil => cases skip <;> rfl
  | cons x rest ih =>
    have hNext : ∀ y ∈ x :: before, q y :=
      List.forall_mem_cons.mpr ⟨hText x List.mem_cons_self, hBefore⟩
    have hRest := fun skip => ih skip hNext fun y hy => hText y (List.mem_cons_of_mem _ hy)
    cases skip with
    | succ skip => exact hRest skip
    | zero =>
      have hEnds : r.ends read word ⟨before, x :: rest, []⟩ =
          r.ends read word' ⟨before, x :: rest, []⟩ := ends_congr hWord r hBefore hText
      rw [sub, sub, first, first, hEnds]
      split
      · exact congrArg _ (hRest _)
      · exact congrArg _ (hRest 0)

end Words

end Regex

end Sniff4Hound
