import Mathlib.Data.List.DropRight

/-!
# Words with one blank between them

A text is read as words between separators, and written with one blank between two words. `spaced`
does that in one pass, and a second pass changes nothing (`spaced_spaced`). Joining the parts that
splitting leaves gives the same text (`joined_words`), and so do runs of separators that are
replaced by blanks first, as long as the blanks at both ends go away (`replaceRuns_trimmed`).
-/

namespace Sniff4Hound

variable {α : Type*} (sep : α → Bool) (blank : α)

/-- The words with one blank between two. `started` says that a word has been written, `pending`
that a separator stands before what comes next. -/
def spaced (started pending : Bool) : List α → List α
  | [] => []
  | c :: rest =>
    if sep c then spaced started true rest
    else if started && pending then blank :: c :: spaced true false rest
    else c :: spaced true false rest

/-- Every run of letters in `p` becomes one blank; `inRun` says that its blank is written. -/
def replaceRuns (p : α → Bool) (blank : α) (inRun : Bool) : List α → List α
  | [] => []
  | c :: rest =>
    if p c then
      if inRun then replaceRuns p blank true rest else blank :: replaceRuns p blank true rest
    else c :: replaceRuns p blank false rest

variable {sep} {blank} {c : α} {rest text : List α}

theorem spaced_sep (hc : sep c = true) (started pending : Bool) :
    spaced sep blank started pending (c :: rest) = spaced sep blank started true rest := if_pos hc

theorem spaced_letter (hc : sep c = false) (started : Bool) :
    spaced sep blank started false (c :: rest) = c :: spaced sep blank true false rest := by
  rw [spaced, if_neg (by simp [hc]), if_neg (by simp)]

theorem spaced_next (hc : sep c = false) :
    spaced sep blank true true (c :: rest) = blank :: c :: spaced sep blank true false rest := by
  rw [spaced, if_neg (by simp [hc]), if_pos (Bool.and_self true)]

theorem spaced_first (pending : Bool) :
    spaced sep blank false pending text = spaced sep blank false false text := by
  cases text with
  | nil => rfl
  | cons c rest => rw [spaced, spaced, Bool.false_and, Bool.false_and]

/-! ## What is written -/

theorem length_spaced (started pending : Bool) (text : List α) :
    (spaced sep blank started pending text).length ≤ text.length + (started && pending).toNat := by
  induction text generalizing started pending with
  | nil => exact Nat.zero_le _
  | cons c rest ih =>
    by_cases hc : sep c = true
    · rw [spaced_sep hc]
      have hRest := ih started true
      rw [List.length_cons]
      have hOne : (started && true).toNat ≤ 1 := Bool.toNat_le _
      omega
    · rw [spaced, if_neg hc]
      have hRest := ih true false
      rw [Bool.and_false, Bool.toNat_false, Nat.add_zero] at hRest
      split
      · next hBoth =>
        rw [hBoth, List.length_cons, List.length_cons, List.length_cons, Bool.toNat_true]
        omega
      · rw [List.length_cons, List.length_cons]
        omega

theorem mem_spaced {started pending : Bool} (h : c ∈ spaced sep blank started pending text) :
    c = blank ∨ sep c = false := by
  induction text generalizing started pending with
  | nil => cases h
  | cons d rest ih =>
    by_cases hd : sep d = true
    · rw [spaced_sep hd] at h
      exact ih h
    · rw [spaced, if_neg hd] at h
      have hLetter : sep d = false := Bool.eq_false_iff.mpr hd
      split at h
      · rcases List.mem_cons.mp h with rfl | hRest
        · exact .inl rfl
        · rcases List.mem_cons.mp hRest with rfl | hLater
          · exact .inr hLetter
          · exact ih hLater
      · rcases List.mem_cons.mp h with rfl | hLater
        · exact .inr hLetter
        · exact ih hLater

theorem subset_spaced (started pending : Bool) (text : List α) :
    ∀ c ∈ spaced sep blank started pending text, c = blank ∨ c ∈ text := by
  induction text generalizing started pending with
  | nil => exact fun c hc => absurd hc List.not_mem_nil
  | cons d rest ih =>
    have hRest : ∀ started pending, ∀ c ∈ spaced sep blank started pending rest,
        c = blank ∨ c ∈ d :: rest := fun started pending c hc =>
      (ih started pending c hc).imp_right (List.mem_cons_of_mem d)
    have hWord : ∀ c ∈ d :: spaced sep blank true false rest, c = blank ∨ c ∈ d :: rest :=
      List.forall_mem_cons.mpr ⟨.inr List.mem_cons_self, hRest true false⟩
    rw [spaced]
    split
    · exact hRest started true
    · split
      · exact List.forall_mem_cons.mpr ⟨.inl rfl, hWord⟩
      · exact hWord

theorem spaced_word {word : List α} (hWord : ∀ c ∈ word, sep c = false) :
    spaced sep blank true false (word ++ rest) = word ++ spaced sep blank true false rest := by
  induction word with
  | nil => rfl
  | cons c word ih =>
    rw [List.cons_append, spaced_letter (hWord c List.mem_cons_self),
      ih fun d hd => hWord d (List.mem_cons_of_mem _ hd), List.cons_append]

/-- What stands before a letter is written before it, and ends with a blank or with its own last
letter. -/
theorem spaced_front (hc : sep c = false) (started pending : Bool) (front rest : List α) :
    ∃ lead, spaced sep blank started pending (front ++ c :: rest) =
        lead ++ c :: spaced sep blank true false rest ∧
      (∀ x ∈ lead, x = blank ∨ x ∈ front) ∧
      (∀ x ∈ lead.getLast?, x = blank ∨ x ∈ front.getLast?) ∧
      (started = true → lead = [] → front = [] ∧ pending = false) := by
  induction front generalizing started pending with
  | nil =>
    by_cases hBoth : (started && pending) = true
    · refine ⟨[blank], ?_, ?_, ?_, fun _ h => absurd h (List.cons_ne_nil _ _)⟩
      · rw [List.nil_append, spaced, hc, if_neg Bool.false_ne_true, if_pos hBoth]
        rfl
      · exact List.forall_mem_singleton.mpr (.inl rfl)
      · intro x hx
        exact .inl (Option.some.inj hx).symm
    · refine ⟨[], ?_, fun x hx => absurd hx List.not_mem_nil, nofun, fun hStarted _ => ⟨rfl, ?_⟩⟩
      · rw [List.nil_append, spaced, hc, if_neg Bool.false_ne_true, if_neg hBoth]
        rfl
      · rw [hStarted, Bool.true_and] at hBoth
        exact Bool.eq_false_iff.mpr hBoth
  | cons d front ih =>
    by_cases hd : sep d = true
    · obtain ⟨lead, hLead, hMem, hLast, hNil⟩ := ih started true
      refine ⟨lead, (spaced_sep hd started pending).trans hLead,
        fun x hx => (hMem x hx).imp_right (List.mem_cons_of_mem d),
        fun x hx => (hLast x hx).imp_right List.mem_getLast?_cons, fun hStarted hEmpty => ?_⟩
      cases (hNil hStarted hEmpty).2
    · obtain ⟨lead, hLead, hMem, hLast, hNil⟩ := ih true false
      have hWord : ∀ x ∈ d :: lead, x = blank ∨ x ∈ d :: front :=
        List.forall_mem_cons.mpr ⟨.inr List.mem_cons_self,
          fun x hx => (hMem x hx).imp_right (List.mem_cons_of_mem d)⟩
      have hEnd : ∀ x ∈ (d :: lead).getLast?, x = blank ∨ x ∈ (d :: front).getLast? := by
        intro x hx
        cases lead with
        | nil =>
          rw [(hNil rfl rfl).1]
          exact .inr hx
        | cons y lead =>
          rw [List.getLast?_cons_cons] at hx
          exact (hLast x hx).imp_right List.mem_getLast?_cons
      rw [List.cons_append, spaced, if_neg hd, hLead]
      split
      · refine ⟨blank :: d :: lead, rfl, List.forall_mem_cons.mpr ⟨.inl rfl, hWord⟩, ?_,
          fun _ h => absurd h (List.cons_ne_nil _ _)⟩
        rw [List.getLast?_cons_cons]
        exact hEnd
      · exact ⟨d :: lead, rfl, hWord, hEnd, fun _ h => absurd h (List.cons_ne_nil _ _)⟩

theorem spaced_congr {sep' : α → Bool} (h : ∀ c ∈ text, sep c = sep' c) (started pending : Bool) :
    spaced sep blank started pending text = spaced sep' blank started pending text := by
  induction text generalizing started pending with
  | nil => rfl
  | cons c rest ih =>
    have hRest := ih fun d hd => h d (List.mem_cons_of_mem _ hd)
    rw [spaced, spaced, h c List.mem_cons_self, hRest, hRest]

theorem spaced_map {β : Type*} {f : α → β} {sep' : β → Bool} (hSep : ∀ c, sep' (f c) = sep c)
    (started pending : Bool) (text : List α) :
    spaced sep' (f blank) started pending (text.map f) =
      (spaced sep blank started pending text).map f := by
  induction text generalizing started pending with
  | nil => rfl
  | cons c rest ih =>
    rw [List.map_cons, spaced, spaced, hSep, ih, ih]
    split
    · rfl
    · split <;> rfl

theorem spaced_again (hBlank : sep blank = true) (pending : Bool) (text : List α) :
    spaced sep blank true false (spaced sep blank true pending text) =
      spaced sep blank true pending text := by
  induction text generalizing pending with
  | nil => rfl
  | cons c rest ih =>
    by_cases hc : sep c = true
    · rw [spaced_sep hc]
      exact ih true
    · have hLetter : sep c = false := Bool.eq_false_iff.mpr hc
      cases pending with
      | true => rw [spaced_next hLetter, spaced_sep hBlank, spaced_next hLetter, ih]
      | false => rw [spaced_letter hLetter, spaced_letter hLetter, ih]

theorem spaced_spaced (hBlank : sep blank = true) (text : List α) :
    spaced sep blank false false (spaced sep blank false false text) =
      spaced sep blank false false text := by
  induction text with
  | nil => rfl
  | cons c rest ih =>
    by_cases hc : sep c = true
    · rw [spaced_sep hc, spaced_first true]
      exact ih
    · have hLetter : sep c = false := Bool.eq_false_iff.mpr hc
      rw [spaced_letter hLetter, spaced_letter hLetter, spaced_again hBlank]

/-! ## Splitting and joining -/

section Split

def blanked (blank : α) (parts : List (List α)) : List α :=
  (parts.filter (· ≠ [])).flatMap (blank :: ·)

theorem blanked_nil_cons (parts : List (List α)) : blanked blank ([] :: parts) =
    blanked blank parts := by
  rw [blanked, List.filter_cons_of_neg (by simp)]
  rfl

theorem blanked_cons {part : List α} (h : part ≠ []) (parts : List (List α)) :
    blanked blank (part :: parts) = blank :: (part ++ blanked blank parts) := by
  rw [blanked, List.filter_cons_of_pos (by simp [h]), List.flatMap_cons, List.cons_append]
  rfl

theorem spaced_parts (text : List α) {first : List α} {parts : List (List α)}
    (h : text.splitOnP sep = first :: parts) :
    spaced sep blank true true text = blanked blank (first :: parts) ∧
      spaced sep blank true false text = first ++ blanked blank parts := by
  induction text generalizing first parts with
  | nil =>
    rw [List.splitOnP_nil] at h
    cases h
    exact ⟨rfl, rfl⟩
  | cons c rest ih =>
    rw [List.splitOnP_cons_eq_if_modifyHead] at h
    by_cases hc : sep c = true
    · rw [if_pos hc] at h
      cases h
      obtain ⟨first, parts, hRest⟩ := List.exists_cons_of_ne_nil (List.splitOnP_ne_nil sep rest)
      rw [spaced_sep hc, spaced_sep hc, blanked_nil_cons, List.nil_append, hRest]
      exact ⟨(ih hRest).1, (ih hRest).1⟩
    · have hLetter : sep c = false := Bool.eq_false_iff.mpr hc
      obtain ⟨word, parts', hRest⟩ := List.exists_cons_of_ne_nil (List.splitOnP_ne_nil sep rest)
      rw [if_neg hc, hRest, List.modifyHead_cons] at h
      cases h
      rw [spaced_next hLetter, spaced_letter hLetter, blanked_cons (List.cons_ne_nil _ _),
        (ih hRest).2]
      exact ⟨rfl, rfl⟩

theorem intercalate_blanked {part : List α} (parts : List (List α)) (h : ∀ p ∈ parts, p ≠ []) :
    [blank].intercalate (part :: parts) = part ++ blanked blank parts := by
  induction parts generalizing part with
  | nil => rw [List.intercalate_singleton, blanked, List.filter_nil, List.flatMap_nil,
    List.append_nil]
  | cons next parts ih =>
    rw [List.intercalate_cons_cons, ih fun p hp => h p (List.mem_cons_of_mem _ hp),
      blanked_cons (h next List.mem_cons_self), List.append_assoc]
    rfl

theorem joined_words (text : List α) :
    [blank].intercalate ((text.splitOnP sep).filter (· ≠ [])) =
    spaced sep blank false false text := by
  induction text with
  | nil => rfl
  | cons c rest ih =>
    rw [List.splitOnP_cons_eq_if_modifyHead]
    by_cases hc : sep c = true
    · rw [if_pos hc, List.filter_cons_of_neg (by simp), spaced_sep hc, spaced_first]
      exact ih
    · obtain ⟨word, parts, hRest⟩ := List.exists_cons_of_ne_nil (List.splitOnP_ne_nil sep rest)
      have hWords : ∀ p ∈ parts.filter (· ≠ []), p ≠ [] :=
        fun p hp => of_decide_eq_true (List.mem_filter.mp hp).2
      have hBlanked : blanked blank (parts.filter (· ≠ [])) = blanked blank parts := by
        rw [blanked, blanked, List.filter_filter]
        simp only [Bool.and_self]
      rw [if_neg hc, hRest, List.modifyHead_cons, List.filter_cons_of_pos (by simp),
        intercalate_blanked _ hWords, hBlanked, spaced_letter (Bool.eq_false_iff.mpr hc),
        (spaced_parts rest hRest).2]
      rfl

end Split

/-! ## Replacing runs -/

theorem spaced_replaceRuns {p : α → Bool} (hp : ∀ c, p c = true → sep c = true)
    (hBlank : sep blank = true) (started pending : Bool) (text : List α) :
    spaced sep blank started pending (replaceRuns p blank false text) =
        spaced sep blank started pending text ∧
      spaced sep blank started true (replaceRuns p blank true text) =
        spaced sep blank started true text := by
  induction text generalizing started pending with
  | nil => exact ⟨rfl, rfl⟩
  | cons c rest ih =>
    by_cases hc : p c = true
    · rw [replaceRuns, replaceRuns, if_pos hc, if_pos hc, if_neg (by decide), if_pos rfl,
        spaced_sep hBlank, spaced_sep (hp c hc), spaced_sep (hp c hc)]
      exact ⟨(ih started true).2, (ih started true).2⟩
    · rw [replaceRuns, replaceRuns, if_neg hc, if_neg hc, spaced, spaced, spaced, spaced,
        (ih started true).1, (ih true false).1]
      exact ⟨rfl, rfl⟩

theorem mem_replaceRuns {p : α → Bool} {inRun : Bool} (h : c ∈ replaceRuns p blank inRun text) :
    c = blank ∨ p c = false := by
  induction text generalizing inRun with
  | nil => cases h
  | cons d rest ih =>
    rw [replaceRuns] at h
    split at h
    · split at h
      · exact ih h
      · exact (List.mem_cons.mp h).imp_right ih |>.elim .inl id
    · next hd =>
      rcases List.mem_cons.mp h with rfl | hRest
      · exact .inr (Bool.eq_false_iff.mpr hd)
      · exact ih hRest

theorem replaceRuns_map {β : Type*} {f : α → β} {p : α → Bool} {p' : β → Bool}
    (hp : ∀ c, p' (f c) = p c) (inRun : Bool) (text : List α) :
    replaceRuns p' (f blank) inRun (text.map f) = (replaceRuns p blank inRun text).map f := by
  induction text generalizing inRun with
  | nil => rfl
  | cons c rest ih =>
    rw [List.map_cons, replaceRuns, replaceRuns, hp, ih, ih]
    split
    · split <;> rfl
    · rfl

theorem spaced_dropWhile {p : α → Bool} (hp : ∀ c, p c = true → sep c = true) (text : List α) :
    spaced sep blank false false (text.dropWhile p) = spaced sep blank false false text := by
  induction text with
  | nil => rfl
  | cons c rest ih =>
    by_cases hc : p c = true
    · rw [List.dropWhile_cons_of_pos hc, ih, spaced_sep (hp c hc), spaced_first true]
    · rw [List.dropWhile_cons_of_neg hc]

theorem spaced_snoc (hc : sep c = true) (started pending : Bool) (text : List α) :
    spaced sep blank started pending (text ++ [c]) = spaced sep blank started pending text := by
  induction text generalizing started pending with
  | nil => exact spaced_sep hc started pending
  | cons d rest ih => rw [List.cons_append, spaced, spaced, ih, ih]

theorem spaced_rdropWhile {p : α → Bool} (hp : ∀ c, p c = true → sep c = true)
    (started pending : Bool) (text : List α) :
    spaced sep blank started pending (text.reverse.dropWhile p).reverse =
      spaced sep blank started pending text := by
  induction text using List.reverseRecOn with
  | nil => rfl
  | append_singleton text c ih =>
    rw [List.reverse_append, List.reverse_singleton, List.singleton_append]
    by_cases hc : p c = true
    · rw [List.dropWhile_cons_of_pos hc, ih, spaced_snoc (hp c hc)]
    · rw [List.dropWhile_cons_of_neg hc, List.reverse_cons, List.reverse_reverse]

section Trimmed

variable {p : α → Bool} (hSep : ∀ c, p c = true → sep c = true)
include hSep

/-- Behind a word, the runs are the blanks between the words of a text that ends with a word. -/
theorem replaceRuns_spaced (hText : ∀ c ∈ text, sep c = true → p c = true)
    (hLast : ∀ c ∈ text.getLast?, sep c = false) :
    replaceRuns p blank false text = spaced sep blank true false text ∧
      (text ≠ [] → blank :: replaceRuns p blank true text = spaced sep blank true true text) := by
  induction text with
  | nil => exact ⟨rfl, fun h => absurd rfl h⟩
  | cons c rest ih =>
    have hRest : ∀ c ∈ rest.getLast?, sep c = false := by
      intro d hd
      refine hLast d ?_
      cases rest with
      | nil => cases hd
      | cons e tail =>
        rw [List.getLast?_cons_cons]
        exact hd
    obtain ⟨hWord, hGap⟩ := ih (fun d hd => hText d (List.mem_cons_of_mem _ hd)) hRest
    by_cases hc : p c = true
    · have hMore : rest ≠ [] := by
        rintro rfl
        cases (hSep c hc).symm.trans (hLast c rfl)
      rw [replaceRuns, replaceRuns, if_pos hc, if_pos hc, if_neg (by decide), if_pos rfl,
        spaced_sep (hSep c hc), spaced_sep (hSep c hc)]
      exact ⟨hGap hMore, fun _ => hGap hMore⟩
    · have hLetter : sep c = false :=
        Bool.eq_false_iff.mpr fun hSome => hc (hText c List.mem_cons_self hSome)
      rw [replaceRuns, replaceRuns, if_neg hc, if_neg hc, spaced_letter hLetter,
        spaced_next hLetter, hWord]
      exact ⟨rfl, fun _ => rfl⟩

omit hSep in
theorem head?_dropWhile (hText : ∀ c ∈ text, sep c = true → p c = true)
    (h : c ∈ (text.dropWhile p).head?) : sep c = false := by
  have hNot := List.head?_dropWhile_not p text
  rw [Option.mem_def.mp h] at hNot
  have hMem : c ∈ text := (List.dropWhile_sublist p).subset (List.mem_of_mem_head? h)
  exact Bool.eq_false_iff.mpr fun hSome => Bool.eq_false_iff.mp hNot (hText c hMem hSome)

theorem replaceRuns_trimmed (hText : ∀ c ∈ text, sep c = true → p c = true) :
    replaceRuns p blank false (((text.dropWhile p).reverse.dropWhile p).reverse) =
      spaced sep blank false false text := by
  have hSame : spaced sep blank false false (((text.dropWhile p).reverse.dropWhile p).reverse) =
      spaced sep blank false false text := by
    rw [spaced_rdropWhile hSep, spaced_dropWhile hSep]
  have hFront : ∀ c ∈ (text.dropWhile p).reverse, sep c = true → p c = true := fun c hc =>
    hText c ((List.dropWhile_sublist p).subset (List.mem_reverse.mp hc))
  rw [← hSame]
  generalize hTrimmed : ((text.dropWhile p).reverse.dropWhile p).reverse = trimmed
  have hPrefix : trimmed <+: text.dropWhile p := hTrimmed ▸ List.rdropWhile_prefix p _
  have hLast : ∀ c ∈ trimmed.getLast?, sep c = false := by
    intro c hc
    rw [← hTrimmed, List.getLast?_reverse] at hc
    exact head?_dropWhile hFront hc
  have hInside : ∀ c ∈ trimmed, sep c = true → p c = true := fun c hc =>
    hFront c (List.mem_reverse.mpr (hPrefix.subset hc))
  have hRuns : replaceRuns p blank false trimmed = spaced sep blank true false trimmed :=
    (replaceRuns_spaced hSep hInside hLast).1
  cases trimmed with
  | nil => rfl
  | cons c rest =>
    obtain ⟨tail, hTail⟩ := hPrefix
    have hLetter : sep c = false := by
      refine head?_dropWhile hText ?_
      rw [← hTail]
      exact Option.mem_def.mpr rfl
    rw [hRuns, spaced_letter hLetter, spaced_letter hLetter]

end Trimmed

end Sniff4Hound
