import Mathlib.Data.List.Forall2
import Sniff4Hound.Mobile.LogScrub

/-!
# Which credentials a phone does not see

The access log redacts the values of seven query parameters. Of a log message with one of them,
`_scrub_log_text` takes the value away when it is written `name=value` and the key is one that
`_SECRET_PAIR` names, whatever surrounds it (`hidden_equals`): no match that begins before the place
ends inside it (`Solid`), a match begins where it begins, and what a match keeps ends with its sign
(`PairMatch.kept_prefix`). Written `name: value`, the name can be taken for the value of another
key, and the other keys and JSON members are not found at all (`credential_hidden_iff`).
-/

namespace Sniff4Hound.Mobile

open Regex

variable {α : Type*} {read : α → Char} {write : Char → α} {word : Char → Bool} {c d : Cursor α}

/-! ## The matches of `_SECRET_PAIR` -/

section Shape

theorem plain_letters (ps : List (Char → Bool)) : (Regex.letters ps).Plain := by
  induction ps with
  | nil => trivial
  | cons p ps ih => exact ⟨trivial, ih⟩

theorem plain_oneOf {rs : List (Regex Char)} (h : ∀ r ∈ rs, r.Plain) : (oneOf rs).Plain := by
  induction rs with
  | nil => trivial
  | cons r rest ih =>
    cases rest with
    | nil => exact h r List.mem_cons_self
    | cons s rest =>
      exact ⟨h r List.mem_cons_self, ih fun r hr => h r (List.mem_cons_of_mem _ hr)⟩

theorem mem_secretNames {r : Regex Char} (h : r ∈ SECRET_NAMES) :
    r = API_KEY ∨ ∃ name ∈ ["code", "token", "ticket", "session", "secret", "password", "passwd",
      "pwd", "authorization", "cookie"], r = anyCaseWord name := by
  rcases List.mem_append.mp h with hFirst | hLast
  · obtain ⟨name, hName, rfl⟩ := List.mem_map.mp hFirst
    exact .inr ⟨name, List.mem_append_left ["authorization", "cookie"] hName, rfl⟩
  · rcases List.mem_cons.mp hLast with rfl | hLast
    · exact .inl rfl
    · obtain ⟨name, hName, rfl⟩ := List.mem_map.mp hLast
      exact .inr ⟨name, List.mem_append_right ["code", "token", "ticket", "session", "secret",
        "password", "passwd", "pwd"] hName, rfl⟩

theorem plain_secretNames : (oneOf SECRET_NAMES).Plain := by
  refine plain_oneOf fun r hr => ?_
  rcases mem_secretNames hr with rfl | ⟨name, -, rfl⟩
  · exact ⟨plain_letters _, ⟨trivial, trivial⟩, plain_letters _⟩
  · exact plain_letters _

theorem anyCase_not_assigns {p x : Char} (hp : p.isLower = true) (h : anyCase p x = true) :
    assigns x = false := by
  refine Bool.eq_false_iff.mpr fun hAssigns => ?_
  rw [assigns, Bool.or_eq_true, beq_iff_eq, beq_iff_eq] at hAssigns
  simp only [anyCase, Bool.or_eq_true, Bool.and_eq_true, beq_iff_eq] at h
  rcases h with ((hLetter | ⟨-, hOther | hOther⟩) | ⟨-, hOther⟩) | ⟨-, hOther⟩
  · rcases hAssigns with rfl | rfl <;> exact absurd (hLetter ▸ hp) (by decide)
  all_goals rcases hAssigns with rfl | rfl <;> exact absurd hOther (by decide)

theorem within_secretNames : (oneOf SECRET_NAMES).Within fun x => assigns x = false := by
  have hWord : ∀ name : String, name.toList.all Char.isLower = true →
      (anyCaseWord name).Within fun x => assigns x = false := by
    intro name hName
    refine within_letters fun p hp => ?_
    obtain ⟨letter, hLetter, rfl⟩ := List.mem_map.mp hp
    exact fun x => anyCase_not_assigns (List.all_eq_true.mp hName letter hLetter)
  have hLower : ["code", "token", "ticket", "session", "secret", "password", "passwd", "pwd",
      "authorization", "cookie"].all (fun name => name.toList.all Char.isLower) = true := by
    decide +kernel
  refine within_oneOf fun r hr => ?_
  rcases mem_secretNames hr with rfl | ⟨name, hName, rfl⟩
  · refine ⟨hWord "api" (by decide +kernel), ⟨fun x hx => ?_, trivial⟩,
      hWord "key" (by decide +kernel)⟩
    rw [Bool.or_eq_true, beq_iff_eq, beq_iff_eq] at hx
    rcases hx with rfl | rfl <;> rfl
  · exact hWord name (List.all_eq_true.mp hLower name hName)

theorem mem_ends_separator (h : d ∈ SEPARATOR.ends read word c) :
    ∃ gap sign space, c.rest = gap ++ sign :: space ++ d.rest ∧
      (∀ x ∈ gap, isSpace (read x) = true) ∧ assigns (read sign) = true ∧
      ∀ x ∈ space, isSpace (read x) = true := by
  obtain ⟨m, hGap, hRest⟩ := mem_ends_seq.mp h
  obtain ⟨m', hSign, hSpace⟩ := mem_ends_seq.mp hRest
  have hRun : (many isSpace 0).Within fun x => isSpace x = true := fun x hx => hx
  obtain ⟨gap, hFront, -, hGapKind⟩ := hRun.taken hGap
  obtain ⟨sign, rest, hMiddle, hAssigns, rfl⟩ := mem_ends_letter.mp hSign
  obtain ⟨space, hBack, -, hSpaceKind⟩ := hRun.taken hSpace
  refine ⟨gap, sign, space, ?_, hGapKind, hAssigns, hSpaceKind⟩
  have hTail : rest = space ++ d.rest := by
    rw [← hBack, Cursor.advance, hMiddle]
    rfl
  rw [hFront, hMiddle, hTail, List.append_assoc]
  rfl

/-- Where the value of a secret may end: behind a quote, or where no more letters of a bare value
stand. -/
def Closes (read : α → Char) (c d : Cursor α) : Prop :=
  (∃ front quote, c.rest = front ++ quote :: d.rest ∧ (read quote = '"' ∨ read quote = '\'')) ∨
    ∀ x ∈ d.rest.head?, isBare (read x) = false

theorem quoted_closes {quote : Char} (hQuote : quote = '"' ∨ quote = '\'')
    (h : d ∈ (quoted quote).ends read word c) : Closes read c d := by
  obtain ⟨m, hOpen, hRest⟩ := mem_ends_seq.mp h
  obtain ⟨m', hInner, hClose⟩ := mem_ends_seq.mp hRest
  obtain ⟨front, hFront, -⟩ := (ends_follows hOpen).taken
  obtain ⟨inner, hBody, -⟩ := (ends_follows hInner).taken
  obtain ⟨x, rest, hEnd, hx, rfl⟩ := mem_ends_letter.mp hClose
  refine .inl ⟨front ++ inner, x, ?_, ?_⟩
  · rw [hFront, hBody, hEnd, Cursor.advance, hEnd, List.append_assoc]
    rfl
  · rw [beq_iff_eq] at hx
    exact hx ▸ hQuote

theorem bare_closes (h : BARE_VALUE.first read word c = some d) : Closes read c d := by
  obtain ⟨m, -, hRun⟩ := first_seq h
  refine .inr fun x hx => ?_
  have hNot := List.head?_dropWhile_not (fun x => isBare (read x)) m.rest
  rw [← first_many_rest hRun, Option.mem_def.mp hx] at hNot
  exact hNot

theorem plain_separator : SEPARATOR.Plain := ⟨trivial, trivial, trivial⟩

theorem plain_value : SECRET_VALUE.Plain :=
  ⟨⟨trivial, trivial, trivial⟩, ⟨trivial, trivial, trivial⟩,
    ⟨⟨⟨plain_letters _, plain_letters _⟩, trivial⟩, trivial⟩, trivial⟩

theorem value_closes (h : SECRET_VALUE.first read word c = some d) : Closes read c d := by
  rcases first_alt h with hDouble | hRest
  · exact quoted_closes (.inl rfl) (mem_ends_of_first hDouble)
  · rcases first_alt hRest with hSingle | hBare
    · exact quoted_closes (.inr rfl) (mem_ends_of_first hSingle)
    · exact bare_closes hBare

theorem not_assigns_of_isSpace {x : Char} (h : isSpace x = true) : assigns x = false := by
  refine Bool.eq_false_iff.mpr fun hAssigns => ?_
  rw [assigns, Bool.or_eq_true, beq_iff_eq, beq_iff_eq] at hAssigns
  rcases hAssigns with rfl | rfl <;> exact absurd h (by decide)

structure PairMatch (read : α → Char) (c d : Cursor α) (kept : List α) : Prop where
  hide : ∀ write, hidePair write d = kept ++ "[redacted]".toList.map write
  taken : ∃ value, c.rest = kept ++ value ++ d.rest
  sign : ∃ front sign space, kept = front ++ sign :: space ∧
    (∀ x ∈ front, assigns (read x) = false) ∧ ∀ x ∈ space, isSpace (read x) = true
  closes : Closes read c d

theorem Closes.behind {m : Cursor α} (h : Closes read m d) {taken : List α}
    (hTaken : c.rest = taken ++ m.rest) : Closes read c d := by
  refine h.imp_left ?_
  rintro ⟨front, quote, hRest, hQuote⟩
  exact ⟨taken ++ front, quote, by rw [hTaken, hRest, List.append_assoc], hQuote⟩

theorem pair_match (h : SECRET_PAIR.first read word c = some d) (hGroups : c.groups = []) :
    ∃ kept, PairMatch read c d kept := by
  obtain ⟨m, hWord, hPair⟩ := first_seq h
  obtain ⟨m₁, hName, hPair⟩ := first_seq hPair
  obtain ⟨m₂, hWord', hPair⟩ := first_seq hPair
  obtain ⟨m₃, hSign, hValue⟩ := first_seq hPair
  obtain rfl := (mem_ends_boundary.mp hWord).2
  obtain rfl := (mem_ends_boundary.mp hWord').2
  obtain ⟨e, hLetters, name, hFront, -, rfl⟩ := group_taken plain_secretNames hName
  obtain ⟨e', hBlanks, kept, hMiddle, -, rfl⟩ :=
    group_taken plain_separator hSign
  obtain ⟨name', hFront', -, hNameKind⟩ := within_secretNames.taken hLetters
  obtain ⟨gap, sign, space, hMiddle', hGap, hAssigns, hSpace⟩ := mem_ends_separator hBlanks
  obtain rfl : name = name' := List.append_cancel_right (hFront.symm.trans hFront')
  obtain rfl : kept = gap ++ sign :: space := List.append_cancel_right (hMiddle.symm.trans hMiddle')
  obtain ⟨value, hBack, -⟩ := (ends_follows (mem_ends_of_first hValue)).taken
  have hKept := plain_value.groups (mem_ends_of_first hValue)
  dsimp only at hMiddle hBack hKept
  rw [hGroups] at hKept
  have hText : m.rest = (name ++ (gap ++ sign :: space)) ++ e'.rest := by
    rw [hFront, hMiddle, ← List.append_assoc]
  refine ⟨name ++ (gap ++ sign :: space), ?_, ⟨value, ?_⟩,
    ⟨name ++ gap, sign, space, ?_, ?_, hSpace⟩,
    (value_closes hValue).behind hText⟩
  · intro write
    rw [hidePair, Cursor.group, Cursor.group, hKept]
    rfl
  · rw [hText, hBack, List.append_assoc _ value]
  · rw [List.append_assoc]
  · intro x hx
    rcases List.mem_append.mp hx with hLetter | hBlank
    · exact hNameKind x hLetter
    · exact not_assigns_of_isSpace (hGap x hBlank)

theorem PairMatch.kept_prefix {kept front space value : List α} {sign letter : α}
    (h : PairMatch read c d kept) (hSign : assigns (read sign) = true)
    (hLetter : isSpace (read letter) = false)
    (hText : c.rest = (front ++ sign :: space) ++ letter :: value) :
    kept <+: front ++ sign :: space := by
  obtain ⟨taken, hTaken⟩ := h.taken
  have hKept : kept <+: c.rest := ⟨taken ++ d.rest, by rw [hTaken, List.append_assoc]⟩
  have hFront : front ++ sign :: space <+: c.rest := ⟨letter :: value, hText.symm⟩
  rcases List.prefix_or_prefix_of_prefix hKept hFront with hShort | ⟨more, rfl⟩
  · exact hShort
  · cases more with
    | nil => rw [List.append_nil]
    | cons first more =>
      exfalso
      obtain rfl : first = letter := by
        rw [hText, List.prefix_append_right_inj] at hKept
        exact (List.cons_prefix_cons.mp hKept).1
      obtain ⟨name, sign', space', hSplit, hName, hSpace⟩ := h.sign
      rcases List.append_eq_append_iff.mp hSplit with ⟨rest, hAll, hRest⟩ | ⟨rest, hAll, hRest⟩
      · have hMem : sign ∈ name := hAll ▸
          List.mem_append_left _ (List.mem_append_right _ List.mem_cons_self)
        cases hSign.symm.trans (hName sign hMem)
      · cases rest with
        | nil =>
          rw [List.append_nil] at hAll
          have hMem : sign ∈ name := hAll ▸ List.mem_append_right _ List.mem_cons_self
          cases hSign.symm.trans (hName sign hMem)
        | cons other rest =>
          obtain ⟨-, rfl⟩ := List.cons_eq_cons.mp hRest
          have hBlank := hSpace first (List.mem_append_right _ List.mem_cons_self)
          cases hLetter.symm.trans hBlank

end Shape

/-! ## A place that is hidden -/

section Place

theorem forall_group {q : α → Prop} {d : Cursor α} (h : ∀ entry ∈ d.groups, ∀ x ∈ entry.2, q x)
    (number : Nat) : ∀ x ∈ d.group number, q x := by
  intro x hx
  rw [Cursor.group] at hx
  cases hLookup : d.groups.lookup number with
  | none => rw [hLookup] at hx; cases hx
  | some letters =>
    rw [hLookup] at hx
    obtain ⟨front, back, hGroups, -⟩ := List.lookup_eq_some_iff.mp hLookup
    exact h (number, letters) (hGroups ▸ List.mem_append_right _ List.mem_cons_self) x hx

variable {q : α → Prop} (hWrite : ∀ letter : Char, letter.toNat < 128 → q (write letter))
include hWrite

theorem forall_write {text : List Char} (h : text.all (·.toNat < 128) = true) :
    ∀ x ∈ text.map write, q x := by
  intro x hx
  obtain ⟨letter, hMem, rfl⟩ := List.mem_map.mp hx
  exact hWrite letter (of_decide_eq_true (List.all_eq_true.mp h letter hMem))

theorem forall_hideLong (d : Cursor α) : ∀ x ∈ hideLong write d, q x :=
  forall_write hWrite (by decide +kernel)

theorem forall_hidePair {d : Cursor α} (h : ∀ entry ∈ d.groups, ∀ x ∈ entry.2, q x) :
    ∀ x ∈ hidePair write d, q x :=
  List.forall_mem_append.mpr ⟨List.forall_mem_append.mpr ⟨forall_group h 1, forall_group h 2⟩,
    forall_hideLong hWrite d⟩

theorem forall_hideBearer {d : Cursor α} (h : ∀ entry ∈ d.groups, ∀ x ∈ entry.2, q x) :
    ∀ x ∈ hideBearer write d, q x :=
  List.forall_mem_append.mpr ⟨forall_group h 1, forall_write hWrite (by decide +kernel)⟩

omit hWrite in
theorem sub_pair {before text : List α}
    (h : SECRET_PAIR.first read word ⟨before, text, []⟩ = some d) :
    ∃ kept taken, PairMatch read ⟨before, text, []⟩ d kept ∧ kept <+: taken ∧ taken ≠ [] ∧
      text = taken ++ d.rest ∧
      SECRET_PAIR.sub read word (hidePair write) 0 before text =
        kept ++ "[redacted]".toList.map write ++
          SECRET_PAIR.sub read word (hidePair write) 0 (taken.reverse ++ before) d.rest := by
  obtain ⟨kept, hMatch⟩ := pair_match h rfl
  obtain ⟨value, hText⟩ := hMatch.taken
  obtain ⟨front, sign, space, hKept, -⟩ := hMatch.sign
  have hTaken : kept ++ value ≠ [] := by
    rw [hKept, List.append_assoc]
    exact List.append_ne_nil_of_right_ne_nil _ (List.cons_ne_nil _ _)
  dsimp only at hText
  refine ⟨kept, kept ++ value, hMatch, List.prefix_append _ _, hTaken, hText, ?_⟩
  rw [hText] at h ⊢
  rw [sub_some h hTaken, hMatch.hide]

def Solid (read : α → Char) (word : Char → Bool) (before lead place tail : List α) : Prop :=
  ∀ passed rest, lead = passed ++ rest → ∀ d,
    SECRET_PAIR.first read word ⟨passed.reverse ++ before, rest ++ (place ++ tail), []⟩ = some d →
      d.rest <:+ tail ∨ place ++ tail <:+ d.rest

omit hWrite in
theorem Solid.behind {before passed lead place tail : List α}
    (h : Solid read word before (passed ++ lead) place tail) :
    Solid read word (passed.reverse ++ before) lead place tail := by
  intro more rest hLead d hFirst
  refine h (passed ++ more) rest (by rw [hLead, List.append_assoc]) d ?_
  rwa [List.reverse_append, List.append_assoc]

variable {name space value tail : List α} {sign letter : α}
  (hSign : assigns (read sign) = true) (hLetter : isSpace (read letter) = false)
  (hHead : ∀ x ∈ name ++ sign :: space, q x) (hTail : ∀ x ∈ tail, q x)
  (hFound : ∀ before, (∀ x ∈ before.head?, word (read x) = false) →
    ∃ d, SECRET_PAIR.first read word
      ⟨before, ((name ++ sign :: space) ++ letter :: value) ++ tail, []⟩ = some d)
include hSign hLetter hHead hTail hFound

/-- A place where a match begins, and in which none ends that begins before it, leaves nothing
behind but its name and sign. -/
theorem sub_hides {lead before : List α} (hLead : ∀ x ∈ lead, q x)
    (hBegins : ∀ x ∈ (lead.reverse ++ before).head?, word (read x) = false)
    (hSolid : Solid read word before lead ((name ++ sign :: space) ++ letter :: value) tail) :
    ∀ x ∈ SECRET_PAIR.sub read word (hidePair write) 0 before
      (lead ++ (((name ++ sign :: space) ++ letter :: value) ++ tail)), q x := by
  induction hLength : lead.length using Nat.strong_induction_on generalizing lead before with
  | _ n ih =>
    generalize hText : lead ++ (((name ++ sign :: space) ++ letter :: value) ++ tail) = text
    cases hFirst : SECRET_PAIR.first read word ⟨before, text, []⟩ with
    | none =>
      cases lead with
      | nil =>
        obtain ⟨d, hSome⟩ := hFound before hBegins
        rw [← hText, List.nil_append, hSome] at hFirst
        cases hFirst
      | cons x rest =>
        rw [List.cons_append] at hText
        rw [← hText] at hFirst ⊢
        rw [sub_none hFirst]
        refine List.forall_mem_cons.mpr ⟨hLead x List.mem_cons_self, ?_⟩
        refine ih rest.length ?_ (fun y hy => hLead y (List.mem_cons_of_mem _ hy)) ?_
          (@Solid.behind _ _ _ before [x] _ _ _ hSolid) rfl
        · rw [← hLength, List.length_cons]
          exact Nat.lt_succ_self _
        · rw [List.reverse_cons, List.append_assoc] at hBegins
          exact hBegins
    | some d =>
      obtain ⟨kept, taken, hMatch, hKept, hTaken, hSplit, hSub⟩ := sub_pair hFirst
      rw [hSub]
      rw [← hText] at hFirst hSplit
      rcases hSolid [] lead rfl d hFirst with hBehind | ⟨mid, hMid⟩
      · have hAll : (Cursor.mk before text []).rest =
            ((lead ++ name) ++ sign :: space) ++ letter :: (value ++ tail) := by
          rw [← hText]
          simp only [List.append_assoc, List.cons_append]
        have hPrefix := hMatch.kept_prefix hSign hLetter hAll
        rw [List.append_assoc] at hPrefix
        refine List.forall_mem_append.mpr ⟨List.forall_mem_append.mpr ⟨fun x hx => ?_,
          forall_hideLong hWrite d⟩, ?_⟩
        · exact (List.mem_append.mp (hPrefix.subset hx)).elim (hLead x) (hHead x)
        · exact forall_sub (fun d => forall_hidePair hWrite) 0 _
            fun x hx => hTail x (hBehind.subset hx)
      · have hLeadSplit : lead = taken ++ mid := by
          rw [← hMid, ← List.append_assoc taken] at hSplit
          exact List.append_cancel_right hSplit
        rw [hLeadSplit] at hLead hBegins hSolid hLength
        refine List.forall_mem_append.mpr ⟨List.forall_mem_append.mpr ⟨fun x hx => ?_,
          forall_hideLong hWrite d⟩, ?_⟩
        · exact hLead x (List.mem_append_left _ (hKept.subset hx))
        · rw [← hMid]
          refine ih mid.length ?_ (fun x hx => hLead x (List.mem_append_right _ hx)) ?_
            hSolid.behind rfl
          · rw [← hLength, List.length_append]
            exact Nat.lt_add_of_pos_left (List.length_pos_of_ne_nil hTaken)
          · rwa [List.reverse_append, List.append_assoc] at hBegins

end Place

/-! ## Where a match can begin and end -/

section Ends

/-- A match that ends inside a place ends behind a quote or before a letter that ends a bare
value. -/
theorem ends_inside {before rest place tail : List α}
    (h : SECRET_PAIR.first read word ⟨before, rest ++ (place ++ tail), []⟩ = some d) :
    (d.rest <:+ tail ∨ place ++ tail <:+ d.rest) ∨
      ∃ front back, place = front ++ back ∧ d.rest = back ++ tail ∧
        ((∃ x ∈ front, read x = '"' ∨ read x = '\'') ∨
          ∃ x ∈ back.head?, isBare (read x) = false) := by
  obtain ⟨kept, hMatch⟩ := pair_match h rfl
  obtain ⟨taken, hTaken, -⟩ := (ends_follows (mem_ends_of_first h)).taken
  dsimp only at hTaken
  have hSuffix : d.rest <:+ rest ++ (place ++ tail) := ⟨taken, hTaken.symm⟩
  have hPlace : place ++ tail <:+ rest ++ (place ++ tail) := List.suffix_append _ _
  rcases List.suffix_or_suffix_of_suffix hSuffix hPlace with ⟨front, hFront⟩ | hBefore
  · rcases List.append_eq_append_iff.mp hFront with ⟨back, hSplit, hRest⟩ | ⟨back, -, hRest⟩
    · rcases List.eq_nil_or_concat' front with rfl | ⟨init, last, rfl⟩
      · exact .inl (.inr ⟨[], hFront.symm⟩)
      · cases back with
        | nil => exact .inl (.inl (hRest ▸ List.suffix_refl _))
        | cons x back =>
          refine .inr ⟨init ++ [last], x :: back, hSplit, hRest, ?_⟩
          rcases hMatch.closes with ⟨start, quote, hQuoted, hQuote⟩ | hHead
          · have hSame : (rest ++ init) ++ last :: d.rest = start ++ quote :: d.rest := by
              rw [← hQuoted, ← hFront, List.append_assoc, List.append_assoc]
              rfl
            obtain rfl : last = quote :=
              (List.cons_eq_cons.mp (List.append_inj_right' hSame rfl)).1
            exact .inl ⟨last, List.mem_append_right _ List.mem_cons_self, hQuote⟩
          · exact .inr ⟨x, rfl, hHead x (by rw [hRest]; rfl)⟩
    · exact .inl (.inl ⟨back, hRest.symm⟩)
  · exact .inl (.inr hBefore)

theorem not_quote_of_isBare {x : Char} (h : isBare x = true) : x ≠ '"' ∧ x ≠ '\'' := by
  constructor <;> rintro rfl <;> exact absurd h (by decide)

theorem solid_bare {before lead place tail : List α} (h : ∀ x ∈ place, isBare (read x) = true) :
    Solid read word before lead place tail := by
  intro passed rest _ d hFirst
  rcases ends_inside hFirst with hOutside | ⟨front, back, rfl, -, hEnd⟩
  · exact hOutside
  · exfalso
    rcases hEnd with ⟨x, hx, hQuote⟩ | ⟨x, hx, hStop⟩
    · have hNot := not_quote_of_isBare (h x (List.mem_append_left _ hx))
      exact hQuote.elim hNot.1 hNot.2
    · cases hStop.symm.trans (h x (List.mem_append_right _ (List.mem_of_mem_head? hx)))

theorem solid_parted {before lead first second tail : List α} {part : α}
    (hFirst : ∀ x ∈ first, isBare (read x) = true) (hPart : read part ≠ '"' ∧ read part ≠ '\'')
    (hSecond : ∀ x ∈ second, isBare (read x) = true)
    (hEnds : ∀ passed rest, lead = passed ++ rest → ∀ d ∈ SECRET_PAIR.ends read word
      ⟨passed.reverse ++ before, rest ++ (first ++ part :: second ++ tail), []⟩,
        d.rest ≠ part :: second ++ tail) :
    Solid read word before lead (first ++ part :: second) tail := by
  intro passed rest hLead d hMatch
  rcases ends_inside hMatch with hOutside | ⟨front, back, hSplit, hRest, hEnd⟩
  · exact hOutside
  · exfalso
    have hPlace : ∀ x ∈ first ++ part :: second, x = part ∨ isBare (read x) = true := by
      intro x hx
      rcases List.mem_append.mp hx with hFront | hBack
      · exact .inr (hFirst x hFront)
      · exact (List.mem_cons.mp hBack).imp_right (hSecond x)
    rcases hEnd with ⟨x, hx, hQuote⟩ | ⟨x, hx, hStop⟩
    · rcases hPlace x (hSplit ▸ List.mem_append_left _ hx) with rfl | hBare
      · exact hQuote.elim hPart.1 hPart.2
      · exact hQuote.elim (not_quote_of_isBare hBare).1 (not_quote_of_isBare hBare).2
    · obtain ⟨more, rfl⟩ := List.head?_eq_some_iff.mp hx
      have hOther : x :: more ≠ part :: second := by
        intro hPartHere
        rw [hPartHere] at hRest
        exact hEnds passed rest hLead d (mem_ends_of_first hMatch) hRest
      rcases List.append_eq_append_iff.mp hSplit with ⟨mid, -, hBack⟩ | ⟨mid, rfl, hBack⟩
      · cases mid with
        | nil => exact hOther hBack.symm
        | cons y mid =>
          obtain ⟨-, rfl⟩ := List.cons_eq_cons.mp hBack
          cases hStop.symm.trans (hSecond x (List.mem_append_right _ List.mem_cons_self))
      · cases mid with
        | nil => exact hOther hBack
        | cons y mid =>
          obtain ⟨rfl, -⟩ := List.cons_eq_cons.mp hBack
          cases hStop.symm.trans (hFirst x (List.mem_append_right _ List.mem_cons_self))

theorem pair_found {name : String} (hName : anyCaseWord name ∈ SECRET_NAMES) {letters : List α}
    (hLetters : List.Forall₂ (fun p x => p (read x) = true) (name.toList.map anyCase) letters)
    (hWord : ∀ x ∈ letters, word (read x) = true) (hSome : letters ≠ []) {sign letter : α}
    {space tail before : List α} (hBefore : ∀ x ∈ before.head?, word (read x) = false)
    (hSign : assigns (read sign) = true) (hBreak : word (read sign) = false)
    (hSpace : ∀ x ∈ space, isSpace (read x) = true) (hLetter : isBare (read letter) = true) :
    ∃ d, SECRET_PAIR.first read word
      ⟨before, letters ++ sign :: (space ++ letter :: tail), []⟩ = some d := by
  have hOutside : (before.head?.any fun x => word (read x)) = false := by
    cases before with
    | nil => rfl
    | cons x before => exact hBefore x rfl
  have hInside : ∀ text : List α, ((letters ++ text).head?.any fun x => word (read x)) = true ∧
      ((letters.reverse ++ text).head?.any fun x => word (read x)) = true := by
    intro text
    have hReverse : letters.reverse ≠ [] := mt List.reverse_eq_nil_iff.mp hSome
    obtain ⟨x, more, hFirst⟩ := List.exists_cons_of_ne_nil hSome
    obtain ⟨y, more', hLast⟩ := List.exists_cons_of_ne_nil hReverse
    rw [hLast, hFirst]
    refine ⟨hWord x (hFirst ▸ List.mem_cons_self), hWord y (List.mem_reverse.mp ?_)⟩
    exact hLast ▸ List.mem_cons_self
  have hName' := mem_ends_oneOf hName
    (@mem_ends_letters _ _ read word _ _ hLetters before (sign :: (space ++ letter :: tail)) [])
  have hSeparator : ∀ passed groups, (⟨space.reverse ++ sign :: passed, letter :: tail, groups⟩ :
      Cursor α) ∈ SEPARATOR.ends read word ⟨passed, sign :: (space ++ letter :: tail), groups⟩ :=
    fun passed groups => mem_ends_seq.mpr ⟨_,
      mem_ends_run (fun _ h => absurd h List.not_mem_nil) (Nat.le_refl 0) passed _ groups,
      mem_ends_seq.mpr ⟨_, mem_ends_letter.mpr ⟨sign, _, rfl, hSign, rfl⟩,
        mem_ends_run hSpace (Nat.zero_le _) _ _ _⟩⟩
  have hValue : ∀ passed groups, (⟨letter :: passed, tail, groups⟩ : Cursor α) ∈
      SECRET_VALUE.ends read word ⟨passed, letter :: tail, groups⟩ :=
    fun passed groups => mem_ends_alt.mpr (.inr (mem_ends_alt.mpr (.inr (mem_ends_seq.mpr ⟨_,
      mem_ends_alt.mpr (.inr (List.mem_singleton.mpr rfl)),
      mem_ends_run (List.forall_mem_singleton.mpr hLetter) (Nat.le_refl 1) passed tail groups⟩))))
  refine first_ne_none (mem_ends_seq.mpr ⟨_, mem_ends_boundary.mpr ⟨?_, rfl⟩,
    mem_ends_seq.mpr ⟨_, mem_ends_group.mpr ⟨_, hName', rfl⟩,
      mem_ends_seq.mpr ⟨_, mem_ends_boundary.mpr ⟨?_, rfl⟩,
        mem_ends_seq.mpr ⟨_, mem_ends_group.mpr ⟨_, hSeparator _ _, rfl⟩, hValue _ _⟩⟩⟩⟩)
  · rw [hOutside, (hInside _).1]
    exact Bool.false_ne_true
  · dsimp only [Cursor.keep]
    rw [(hInside _).2, List.head?_cons, Option.any_some, hBreak]
    exact Bool.false_ne_true.symm

end Ends

/-! ## One line -/

section OneLine

def parts (read : α → Char) (x : α) : Bool := isControl (read x) || isSpace (read x)

theorem oneLine_eq (hBlank : read (write ' ') = ' ') (text : List α) :
    oneLine read write text = spaced (parts read) (write ' ') false false text := by
  have hParts : ∀ x, isControl (read x) = true → parts read x = true := fun x hx =>
    Bool.or_eq_true_iff.mpr (.inl hx)
  have hSep : parts read (write ' ') = true := by
    rw [parts, hBlank]
    rfl
  rw [oneLine, joined_words, ← (spaced_replaceRuns hParts hSep false false text).1]
  refine spaced_congr (fun x hx => ?_) false false
  rcases mem_replaceRuns hx with rfl | hOther
  · rw [hSep, hBlank]
    rfl
  · rw [parts, hOther, Bool.false_or]

theorem oneLine_place (hBlank : read (write ' ') = ' ') {first : α} {place : List α}
    (hPlace : ∀ x ∈ first :: place, parts read x = false) (before after : List α) :
    ∃ lead, oneLine read write (before ++ (first :: place ++ after)) =
        lead ++ (first :: place ++ spaced (parts read) (write ' ') true false after) ∧
      (∀ x ∈ lead, x = write ' ' ∨ x ∈ before) ∧
      ∀ x ∈ lead.getLast?, x = write ' ' ∨ x ∈ before.getLast? := by
  obtain ⟨lead, hLead, hMem, hLast, -⟩ := @spaced_front _ (parts read) (write ' ') first
    (hPlace first List.mem_cons_self) false false before (place ++ after)
  refine ⟨lead, ?_, hMem, hLast⟩
  rw [oneLine_eq hBlank, List.cons_append, hLead,
    spaced_word fun x hx => hPlace x (List.mem_cons_of_mem _ hx), List.cons_append]

end OneLine

/-! ## Letters and digits -/

section Letters

theorem alphanum_bare : ∀ n < 128, (Char.ofNat n).isAlphanum = true →
    isSpace (Char.ofNat n) = false ∧ isControl (Char.ofNat n) = false ∧
      isBare (Char.ofNat n) = true := by
  decide +kernel

variable {words : Words} {x : Char}

theorem Words.isAlnum_other (h : words.isAlnum x = true) :
    isSpace x = false ∧ isControl x = false ∧ isBare x = true := by
  rw [Words.isAlnum] at h
  split at h
  · next hAscii =>
    have hBare := alphanum_bare x.toNat hAscii
    rw [Char.ofNat_toNat] at hBare
    exact hBare h
  · next hOther =>
    have hSpace : isSpace x = false := by
      refine Bool.eq_false_iff.mpr fun hSpace => ?_
      cases h.symm.trans (words.alnum_of_space x hSpace)
    refine ⟨hSpace, ?_, ?_⟩
    · rw [isControl, Bool.or_eq_false_iff, decide_eq_false_iff_not, beq_eq_false_iff_ne]
      omega
    · rw [isBare, hSpace]
      have hNot : ∀ y : Char, y.toNat < 128 → (x == y) = false := fun y hy =>
        beq_eq_false_iff_ne.mpr fun hSame => hOther (hSame ▸ hy)
      rw [hNot ',' (by decide), hNot ';' (by decide), hNot '&' (by decide), hNot '"' (by decide),
        hNot '\'' (by decide), hNot ')' (by decide)]
      rfl

theorem isAlphanum_of_lower (h : x.toLower.isLower = true) : x.isAlphanum = true := by
  have hAll : x.isAlphanum = (x.isUpper || x.isLower || x.isDigit) := rfl
  rw [hAll]
  by_cases hUpper : x.val ≥ 'A'.val ∧ x.val ≤ 'Z'.val
  · have hLetter : x.isUpper = true := decide_eq_true hUpper
    rw [hLetter, Bool.true_or, Bool.true_or]
  · have hLower : x.toLower = x := dif_neg hUpper
    rw [hLower] at h
    rw [h, Bool.or_true, Bool.true_or]

theorem ascii_of_alphanum (h : x.isAlphanum = true) : x.toNat < 128 := by
  change (decide (65 ≤ x.toNat ∧ x.toNat ≤ 90) ||
    (decide (97 ≤ x.toNat) && decide (x.toNat ≤ 122)) ||
    (decide (48 ≤ x.toNat) && decide (x.toNat ≤ 57))) = true at h
  simp only [Bool.or_eq_true, Bool.and_eq_true, decide_eq_true_eq] at h
  omega

theorem isAlnum_of_lower (h : x.toLower.isLower = true) : words.isAlnum x = true := by
  have hLetter := isAlphanum_of_lower h
  rw [Words.isAlnum, if_pos (ascii_of_alphanum hLetter), hLetter]

end Letters

/-! ## Messages with a credential -/

def REDACTED_QUERY_KEYS : List String :=
  ["code", "security_code", "access_token", "token", "auth", "ws_ticket", "ticket"]

/-- The keys that `_SECRET_PAIR` names. -/
def EXPRESSED_KEYS : List String := ["code", "token", "ticket"]

/-- `name=value`, `name: value`, and the member of a JSON object. -/
inductive PairForm where
  | equals
  | colon
  | member
deriving DecidableEq

abbrev Marked := Char × Bool

def plain (text : List Char) : List Marked := text.map fun c => (c, false)

def marked (text : List Char) : List Marked := text.map fun c => (c, true)

def PairForm.written : PairForm → List Char → List Char → List Marked
  | .equals, name, value => plain name ++ plain ['='] ++ marked value
  | .colon, name, value => plain name ++ plain [':', ' '] ++ marked value
  | .member, name, value =>
    plain ('"' :: name) ++ plain ['"', ':', ' ', '"'] ++ marked value ++ plain ['"']

/-- A message with a credential in it. The name is a word of its own; in JSON the quotes see to
that. -/
structure Message (words : Words) (name : String) (form : PairForm) where
  before : List Char
  spelled : List Char
  value : List Char
  after : List Char
  begins : form = .member ∨ ∀ c ∈ before.getLast?, words.isWord c = false
  spelled_name : spelled.map Char.toLower = name.toList
  value_some : value ≠ []
  value_alnum : ∀ c ∈ value, words.isAlnum c = true

namespace Message

variable {words : Words} {name : String} {form : PairForm} (m : Message words name form)

def text : List Marked := plain m.before ++ (form.written m.spelled m.value ++ plain m.after)

def scrubbed : List Marked := scrub Prod.fst (fun c => (c, false)) words m.text

def Hidden : Prop := ¬marked m.value <:+: m.scrubbed

/-- A match of `_SECRET_PAIR` ends where the blank before the value stands. -/
def Swallowed : Prop :=
  ∃ passed rest, oneLine Prod.fst (fun c => (c, false)) m.text = passed ++ rest ∧
    ∃ d ∈ SECRET_PAIR.ends Prod.fst words.isWord ⟨passed.reverse, rest, []⟩,
      (' ', false) :: marked m.value <+: d.rest

theorem scrub_log_text : Mobile.scrub_log_text words (String.ofList (m.text.map Prod.fst)) =
    String.ofList (m.scrubbed.map Prod.fst) := by
  rw [Mobile.scrub_log_text, String.toList_ofList, scrubbed]
  exact congrArg String.ofList (@scrub_map Marked Char Prod.fst (fun c => (c, false)) id id Prod.fst
    (fun _ => rfl) (fun _ => rfl) words m.text)

end Message

theorem forall_plain {text : List Char} : ∀ x ∈ plain text, x.2 = false := by
  intro x hx
  obtain ⟨c, -, rfl⟩ := List.mem_map.mp hx
  rfl

section Hide

variable {q : α → Prop} (hWrite : ∀ letter : Char, letter.toNat < 128 → q (write letter))
include hWrite

theorem forall_scrub {words : Words} {text : List α} (hMark : q (write '…'))
    (h : ∀ x ∈ SECRET_PAIR.sub read words.isWord (hidePair write) 0 [] (oneLine read write text),
      q x) : ∀ x ∈ scrub read write words text, q x := by
  have hLong : ∀ x ∈ redact read write words (oneLine read write text), q x := by
    rw [redact]
    exact forall_sub (fun d _ => forall_hideLong hWrite d) 0 []
      (forall_sub (fun d => forall_hideBearer hWrite) 0 [] h)
  rw [scrub]
  split
  · exact List.forall_mem_append.mpr ⟨fun x hx => hLong x (List.mem_of_mem_take hx),
      List.forall_mem_singleton.mpr hMark⟩
  · exact hLong

end Hide

namespace Message

variable {words : Words} {name : String} {form : PairForm} {m : Message words name form}

theorem hidden_of_unmarked (h : ∀ x ∈ SECRET_PAIR.sub Prod.fst words.isWord
    (hidePair fun c => (c, false)) 0 [] (oneLine Prod.fst (fun c => (c, false)) m.text),
      x.2 = false) : m.Hidden := by
  intro hInfix
  obtain ⟨c, value, hValue⟩ := List.exists_cons_of_ne_nil m.value_some
  have hMem : (c, true) ∈ m.scrubbed := by
    refine hInfix.subset ?_
    rw [hValue]
    exact List.mem_cons_self
  have hMark := forall_scrub (q := fun x : Marked => x.2 = false) (fun _ _ => rfl) rfl h _ hMem
  cases hMark

theorem expressed_key (hName : name ∈ EXPRESSED_KEYS) : anyCaseWord name ∈ SECRET_NAMES ∧
    name.toList ≠ [] ∧ ∀ p ∈ name.toList, p.isLower = true := by
  have hKeys : EXPRESSED_KEYS.all (fun key => key.toList.all Char.isLower && key.toList ≠ []) := by
    decide +kernel
  have hKey := List.all_eq_true.mp hKeys name hName
  rw [Bool.and_eq_true, List.all_eq_true, decide_eq_true_eq] at hKey
  refine ⟨List.mem_append_left _ (List.mem_map.mpr ⟨name, ?_, rfl⟩), hKey.2, hKey.1⟩
  exact List.mem_append_left ["session", "secret", "password", "passwd", "pwd"] hName

section Hides

variable (hName : name ∈ EXPRESSED_KEYS)
include hName

theorem spelled_some : m.spelled ≠ [] := by
  intro hNone
  have hSpelled := m.spelled_name
  rw [hNone, List.map_nil] at hSpelled
  exact (expressed_key hName).2.1 hSpelled.symm

theorem spelled_alnum : ∀ x ∈ plain m.spelled, words.isAlnum x.1 = true := by
  intro x hx
  obtain ⟨c, hc, rfl⟩ := List.mem_map.mp hx
  refine isAlnum_of_lower ((expressed_key hName).2.2 _ ?_)
  rw [← m.spelled_name]
  exact List.mem_map_of_mem hc

omit hName in
theorem spelled_found :
    List.Forall₂ (fun (p : Char → Bool) (x : Marked) => p x.1 = true) (name.toList.map anyCase)
      (plain m.spelled) := by
  rw [← m.spelled_name, List.map_map, plain, List.forall₂_map_left_iff, List.forall₂_map_right_iff,
    List.forall₂_same]
  intro c _
  simp [anyCase]

theorem hides {lead space tail : List Marked} {sign : Char} (hSign : assigns sign = true)
    (hBreak : words.isWord sign = false) (hSpace : ∀ x ∈ space, x.2 = false ∧ isSpace x.1 = true)
    (hLead : ∀ x ∈ lead, x.2 = false) (hTail : ∀ x ∈ tail, x.2 = false)
    (hBegins : ∀ x ∈ lead.getLast?, words.isWord x.1 = false)
    (hLine : oneLine Prod.fst (fun c => (c, false)) m.text =
      lead ++ (((plain m.spelled ++ (sign, false) :: space) ++ marked m.value) ++ tail))
    (hSolid : Solid Prod.fst words.isWord [] lead
      ((plain m.spelled ++ (sign, false) :: space) ++ marked m.value) tail) : m.Hidden := by
  obtain ⟨letter, value, hValue⟩ := List.exists_cons_of_ne_nil m.value_some
  have hMarked : marked m.value = (letter, true) :: marked value := by
    rw [hValue]
    rfl
  obtain ⟨hBlank, -, hBare⟩ := Words.isAlnum_other
    (m.value_alnum letter (hValue ▸ List.mem_cons_self))
  rw [hMarked] at hLine hSolid
  refine hidden_of_unmarked ?_
  rw [hLine]
  refine @sub_hides _ Prod.fst (fun c => (c, false)) words.isWord (fun x => x.2 = false)
    (fun _ _ => rfl) (plain m.spelled) space (marked value) tail (sign, false) (letter, true)
    hSign hBlank ?_ hTail (fun before hBefore => ?_) lead [] hLead ?_ hSolid
  · refine List.forall_mem_append.mpr ⟨forall_plain, List.forall_mem_cons.mpr ⟨rfl, ?_⟩⟩
    exact fun x hx => (hSpace x hx).1
  · have hWord : ∀ x ∈ plain m.spelled, words.isWord x.1 = true := fun x hx =>
      Bool.or_eq_true_iff.mpr (.inl (spelled_alnum hName x hx))
    have hSome : plain m.spelled ≠ [] := mt List.map_eq_nil_iff.mp (spelled_some hName)
    obtain ⟨d, hFound⟩ := @pair_found _ Prod.fst words.isWord _ (expressed_key hName).1 _
      spelled_found hWord hSome (sign, false) (letter, true) space (marked value ++ tail)
      before hBefore hSign hBreak (fun x hx => (hSpace x hx).2) hBare
    refine ⟨d, ?_⟩
    simpa only [List.append_assoc, List.cons_append] using hFound
  · rwa [List.append_nil, List.head?_reverse]

theorem spelled_bare : ∀ x ∈ plain m.spelled, parts Prod.fst x = false ∧ isBare x.1 = true := by
  intro x hx
  obtain ⟨hSpace, hControl, hBare⟩ := Words.isAlnum_other (spelled_alnum hName x hx)
  exact ⟨Bool.or_eq_false_iff.mpr ⟨hControl, hSpace⟩, hBare⟩

omit hName in
theorem value_bare : ∀ x ∈ marked m.value, parts Prod.fst x = false ∧ isBare x.1 = true := by
  intro x hx
  obtain ⟨c, hc, rfl⟩ := List.mem_map.mp hx
  obtain ⟨hSpace, hControl, hBare⟩ := Words.isAlnum_other (m.value_alnum c hc)
  exact ⟨Bool.or_eq_false_iff.mpr ⟨hControl, hSpace⟩, hBare⟩

omit hName in
theorem lead_outside {lead : List Marked} (hForm : form ≠ .member)
    (hLead : ∀ x ∈ lead, x = (' ', false) ∨ x ∈ plain m.before)
    (hLast : ∀ x ∈ lead.getLast?, x = (' ', false) ∨ x ∈ (plain m.before).getLast?) :
    (∀ x ∈ lead, x.2 = false) ∧ ∀ x ∈ lead.getLast?, words.isWord x.1 = false := by
  constructor
  · intro x hx
    exact (hLead x hx).elim (fun hBlank => hBlank ▸ rfl) (forall_plain x)
  · intro x hx
    rcases hLast x hx with rfl | hBefore
    · rfl
    · rw [plain, List.getLast?_map] at hBefore
      obtain ⟨c, hc, rfl⟩ := Option.map_eq_some_iff.mp hBefore
      exact m.begins.resolve_left hForm c hc

omit hName in
theorem tail_outside (started pending : Bool) :
    ∀ x ∈ spaced (parts Prod.fst) (' ', false) started pending (plain m.after), x.2 = false := by
  intro x hx
  exact (subset_spaced _ _ _ x hx).elim (fun hBlank => hBlank ▸ rfl) (forall_plain x)

end Hides

theorem hidden_equals (m : Message words name .equals) (hName : name ∈ EXPRESSED_KEYS) :
    m.Hidden := by
  obtain ⟨first, more, hSpelled⟩ := List.exists_cons_of_ne_nil (spelled_some (m := m) hName)
  have hPlace : ∀ x ∈ plain m.spelled ++ [('=', false)] ++ marked m.value,
      parts Prod.fst x = false ∧ isBare x.1 = true :=
    List.forall_mem_append.mpr ⟨List.forall_mem_append.mpr ⟨spelled_bare hName,
      List.forall_mem_singleton.mpr ⟨rfl, rfl⟩⟩, value_bare⟩
  have hSplit : (first, false) :: (plain more ++ [('=', false)] ++ marked m.value) =
      plain m.spelled ++ [('=', false)] ++ marked m.value := by
    rw [hSpelled]
    rfl
  obtain ⟨lead, hLine, hLead, hLast⟩ := @oneLine_place _ Prod.fst (fun c => (c, false)) rfl _ _
    (fun x hx => (hPlace x (hSplit ▸ hx)).1) (plain m.before) (plain m.after)
  rw [hSplit] at hLine
  obtain ⟨hOutside, hBegins⟩ := lead_outside (m := m) (by decide) hLead hLast
  exact hides hName rfl rfl (fun x hx => absurd hx List.not_mem_nil) hOutside (tail_outside _ _)
    hBegins hLine (solid_bare fun x hx => (hPlace x hx).2)

theorem hidden_colon (m : Message words name .colon) (hName : name ∈ EXPRESSED_KEYS)
    (hFree : ¬m.Swallowed) : m.Hidden := by
  obtain ⟨first, more, hSpelled⟩ := List.exists_cons_of_ne_nil (spelled_some (m := m) hName)
  obtain ⟨letter, value, hValue⟩ := List.exists_cons_of_ne_nil m.value_some
  have hMarked : marked m.value = (letter, true) :: marked value := by
    rw [hValue]
    rfl
  have hPlace : ∀ x ∈ plain m.spelled ++ [(':', false)],
      parts Prod.fst x = false ∧ isBare x.1 = true :=
    List.forall_mem_append.mpr ⟨spelled_bare hName, List.forall_mem_singleton.mpr ⟨rfl, rfl⟩⟩
  have hSplit : (first, false) :: (plain more ++ [(':', false)]) =
      plain m.spelled ++ [(':', false)] := by
    rw [hSpelled]
    rfl
  have hText : m.text = plain m.before ++ (plain m.spelled ++ [(':', false)] ++
      ((' ', false) :: (marked m.value ++ plain m.after))) := by
    rw [text, PairForm.written]
    simp only [List.append_assoc]
    rfl
  obtain ⟨lead, hLine, hLead, hLast⟩ := @oneLine_place _ Prod.fst (fun c => (c, false)) rfl _ _
    (fun x hx => (hPlace x (hSplit ▸ hx)).1) (plain m.before)
    ((' ', false) :: (marked m.value ++ plain m.after))
  have hValueParts : ∀ x ∈ marked m.value, parts Prod.fst x = false := fun x hx =>
    (value_bare x hx).1
  have hRest : spaced (parts Prod.fst) (' ', false) true true (marked m.value ++ plain m.after) =
      (' ', false) ::
        (marked m.value ++ spaced (parts Prod.fst) (' ', false) true false (plain m.after)) := by
    rw [hMarked] at hValueParts ⊢
    rw [List.cons_append, spaced_next (hValueParts _ List.mem_cons_self),
      spaced_word fun x hx => hValueParts x (List.mem_cons_of_mem _ hx), List.cons_append]
  rw [hSplit, ← hText, spaced_sep rfl, hRest] at hLine
  obtain ⟨hOutside, hBegins⟩ := lead_outside (m := m) (by decide) hLead hLast
  generalize hTail : spaced (parts Prod.fst) (' ', false) true false (plain m.after) = tail at hLine
  refine @hides _ _ _ m hName lead [(' ', false)] tail ':' rfl rfl
    (List.forall_mem_singleton.mpr ⟨rfl, rfl⟩) hOutside (hTail ▸ tail_outside true false) hBegins
    ?_ ?_
  · rw [hLine]
    simp only [List.append_assoc, List.cons_append, List.nil_append]
  · have hSolid := @solid_parted _ Prod.fst words.isWord [] lead (plain m.spelled ++ [(':', false)])
      (marked m.value) tail (' ', false) (fun x hx => (hPlace x hx).2) (by decide)
      (fun x hx => (value_bare x hx).2) ?_
    · simpa only [List.append_assoc, List.cons_append, List.nil_append] using hSolid
    · intro passed rest hSplitLead d hEnd hRestEnd
      refine hFree ⟨passed, rest ++ (plain m.spelled ++ [(':', false)] ++ (' ', false) ::
        (marked m.value ++ tail)), ?_, d, ?_, ?_⟩
      · rw [hLine, hSplitLead, List.append_assoc]
      · simpa only [List.append_assoc, List.cons_append, List.nil_append, List.append_nil]
        using hEnd
      · rw [hRestEnd]
        exact ⟨tail, rfl⟩

end Message

/-! ## Messages that show a credential -/

section Ascii

theorem scrub_ascii (words : Words) (hWrite : ∀ letter, read (write letter) = letter)
    {text : List α} (hText : ∀ x ∈ text, (read x).toNat < 128) :
    scrub read write words text = scrub read write Words.ascii text := by
  have hLetters : ∀ letter : Char, letter.toNat < 128 → (read (write letter)).toNat < 128 :=
    fun letter h => (hWrite letter).symm ▸ h
  have hWord : ∀ x, (read x).toNat < 128 → words.isWord (read x) = Words.ascii.isWord (read x) :=
    fun x hx => words.isWord_ascii hx
  have hLine : ∀ x ∈ oneLine read write text, (read x).toNat < 128 := by
    rw [oneLine_eq (hWrite ' ')]
    intro x hx
    rcases subset_spaced _ _ _ x hx with rfl | hMem
    · exact hLetters ' ' (by decide)
    · exact hText x hMem
  have hPairs : ∀ x ∈ SECRET_PAIR.sub read Words.ascii.isWord (hidePair write) 0 []
      (oneLine read write text), (read x).toNat < 128 :=
    forall_sub (fun d => forall_hidePair hLetters) 0 [] hLine
  have hBearer : ∀ x ∈ BEARER.sub read Words.ascii.isWord (hideBearer write) 0 []
      (SECRET_PAIR.sub read Words.ascii.isWord (hidePair write) 0 [] (oneLine read write text)),
        (read x).toNat < 128 :=
    forall_sub (fun d => forall_hideBearer hLetters) 0 [] hPairs
  have hNone : ∀ x ∈ ([] : List α), (read x).toNat < 128 := fun x hx => absurd hx List.not_mem_nil
  have hRedact : redact read write words (oneLine read write text) =
      redact read write Words.ascii (oneLine read write text) := by
    rw [redact, redact, sub_congr hWord _ _ 0 hNone hLine, sub_congr hWord _ _ 0 hNone hPairs,
      sub_congr hWord _ _ 0 hNone hBearer]
  rw [scrub, scrub, hRedact]

end Ascii

/-- Before a key that `_SECRET_PAIR` names, another one that takes it for its value. -/
def lure (name : String) (form : PairForm) : List Char :=
  if form = .colon ∧ name ∈ EXPRESSED_KEYS then "token: ".toList else []

def lured (name : String) (form : PairForm) : List Marked :=
  plain (lure name form) ++ (form.written name.toList "abc".toList ++ plain [])

theorem lured_shown : ∀ name ∈ REDACTED_QUERY_KEYS, ∀ form ∈ [PairForm.equals, .colon, .member],
    ¬(form = .equals ∧ name ∈ EXPRESSED_KEYS) →
      (∀ x ∈ lured name form, x.1.toNat < 128) ∧ marked "abc".toList <:+:
        scrub Prod.fst (fun c => (c, false)) Words.ascii (lured name form) := by
  decide +kernel

theorem lure_ends (words : Words) (name : String) (form : PairForm) :
    ∀ c ∈ (lure name form).getLast?, words.isWord c = false := by
  intro c hc
  rw [lure] at hc
  split at hc
  · have hBlank : "token: ".toList.getLast? = some ' ' := by decide +kernel
    rw [hBlank] at hc
    exact Option.some.inj hc ▸ words.isWord_ascii (by decide)
  · cases hc

theorem keys_lower : ∀ name ∈ REDACTED_QUERY_KEYS, name.toList.map Char.toLower = name.toList := by
  decide +kernel

/-- The key as it stands, with the value `abc` and nothing behind it. -/
def luredMessage (words : Words) {name : String} (hName : name ∈ REDACTED_QUERY_KEYS)
    (form : PairForm) : Message words name form where
  before := lure name form
  spelled := name.toList
  value := "abc".toList
  after := []
  begins := .inr (lure_ends words name form)
  spelled_name := keys_lower name hName
  value_some := by decide +kernel
  value_alnum c hc := by
    have hLetters : "abc".toList.all (fun c => c.toLower.isLower) = true := by decide +kernel
    exact isAlnum_of_lower (List.all_eq_true.mp hLetters c hc)

theorem not_hidden_lured (words : Words) {name : String} (hName : name ∈ REDACTED_QUERY_KEYS)
    {form : PairForm} (h : ¬(form = .equals ∧ name ∈ EXPRESSED_KEYS)) :
    ¬(luredMessage words hName form).Hidden := by
  have hForm : form ∈ [PairForm.equals, .colon, .member] := by cases form <;> simp
  obtain ⟨hAscii, hShown⟩ := lured_shown name hName form hForm h
  rw [← scrub_ascii words (fun _ => rfl) hAscii] at hShown
  exact not_not_intro hShown

/-- Of the keys that the access log redacts and the ways to write them: the value is hidden in every
message just when it is written `name=value` and `_SECRET_PAIR` names the key. Written
`name: value` it is hidden as long as the name is not taken for a value itself. -/
theorem credential_hidden_iff (words : Words) {name : String} (hName : name ∈ REDACTED_QUERY_KEYS)
    (form : PairForm) :
    ((∀ m : Message words name form, m.Hidden) ↔ form = .equals ∧ name ∈ EXPRESSED_KEYS) ∧
      (form = .colon → name ∈ EXPRESSED_KEYS →
        ∀ m : Message words name form, ¬m.Swallowed → m.Hidden) := by
  refine ⟨⟨fun hAll => ?_, ?_⟩, ?_⟩
  · by_contra hOther
    exact not_hidden_lured words hName hOther (hAll _)
  · rintro ⟨rfl, hExpressed⟩ m
    exact m.hidden_equals hExpressed
  · rintro rfl hExpressed m hFree
    exact m.hidden_colon hExpressed hFree

/-- `code=value` and `code: value`, and not `"code": "value"`. -/
theorem credential_hidden_code :
    (∀ m : Message Words.ascii "code" .equals, m.Hidden) ∧
      (∀ m : Message Words.ascii "code" .colon, ¬m.Swallowed → m.Hidden) ∧
      ¬∀ m : Message Words.ascii "code" .member, m.Hidden := by
  have hCode : "code" ∈ REDACTED_QUERY_KEYS := by decide
  refine ⟨(credential_hidden_iff Words.ascii hCode .equals).1.mpr ⟨rfl, by decide⟩,
    (credential_hidden_iff Words.ascii hCode .colon).2 rfl (by decide), fun hAll => ?_⟩
  exact absurd ((credential_hidden_iff Words.ascii hCode .member).1.mp hAll).1 (by decide)

/-- `security_code=abc` goes to the phone as it is. -/
theorem security_code_shown : ¬∀ (words : Words) (name : String) (form : PairForm),
    name ∈ REDACTED_QUERY_KEYS → ∀ m : Message words name form, m.Hidden := by
  intro hAll
  have hKey : "security_code" ∈ REDACTED_QUERY_KEYS := by decide
  exact @not_hidden_lured Words.ascii _ hKey .equals (by decide) (hAll _ _ _ hKey _)

end Sniff4Hound.Mobile
