import Sniff4Hound.Capture.DnsNames
import Sniff4Hound.Library.SuffixRules

/-!
# Names and the domains they belong to

`domain_names.py` groups names by the domain that was registered. The rules of the public suffixes
come in three sets, and one loop over the suffixes of a name remembers the longest rule of each
kind. What it finds is the domain that the rules define (`public_suffix_registered`), and
`describe` cuts the name in front of it.

* `domain_follows_rules`: both, for every rule set and every visible name.
-/

namespace Sniff4Hound

/-! ## The code -/

/-- What the module takes from the language: the codec for international names, which keeps ASCII,
and the parser of addresses. -/
structure DomainEnv where
  rt : Runtime
  lowers : rt.LowersAscii
  idna : String → Option String
  idna_ascii : ∀ label, (∀ c ∈ label.toList, c.toNat < 128) → (idna label).getD label = label
  is_address : String → Bool

/-- The sets that `_load` fills: whole rules, and the rest of those that begin with `*.` or `!`. -/
structure RuleSets where
  exact : List String
  wildcard : List String
  exception : List String

/-- `name.split(".")` -/
def labelsOf (name : String) : List (List Char) := name.toList.splitOn '.'

theorem lawful_labels : LawfulBEq (List Char) := inferInstance

instance decidableEmptyLabel (name : String) : Decidable ([] ∈ labelsOf name) :=
  @List.instDecidableMemOfLawfulBEq _ _ lawful_labels [] (labelsOf name)

/-- `".".join(labels)` -/
def dotted (labels : List (List Char)) : String := String.ofList (['.'].intercalate labels)

def ascii_name (env : DomainEnv) (value : String) : String :=
  let text := env.rt.lower (stripDots (strip value))
  if text = "" ∨ 253 < text.length then ""
  else if [] ∈ labelsOf text then ""
  else
    dotted ((labelsOf text).map fun label =>
      ((env.idna (String.ofList label)).getD (String.ofList label)).toList)

structure RuleLengths where
  exception_labels : Nat
  exact_labels : Nat
  wildcard_labels : Nat

/-- One round of the loop of `registrable_domain`. -/
def RuleSets.see (rules : RuleSets) (labels : List (List Char)) (found : RuleLengths)
    (index : Nat) : RuleLengths :=
  let suffix := dotted (labels.drop index)
  let count := labels.length - index
  { exception_labels :=
      if suffix ∈ rules.exception then max found.exception_labels count else found.exception_labels
    exact_labels :=
      if suffix ∈ rules.exact then max found.exact_labels count else found.exact_labels
    wildcard_labels :=
      if 0 < index ∧ suffix ∈ rules.wildcard then max found.wildcard_labels (count + 1)
      else found.wildcard_labels }

def RuleSets.lengths (rules : RuleSets) (labels : List (List Char)) : RuleLengths :=
  (List.range labels.length).foldl (rules.see labels) ⟨0, 0, 0⟩

def RuleSets.public_suffix_labels (rules : RuleSets) (labels : List (List Char)) : Nat :=
  let found := rules.lengths labels
  if found.exception_labels ≠ 0 then found.exception_labels - 1
  else max 1 (max found.exact_labels found.wildcard_labels)

def registrable_domain (env : DomainEnv) (rules : RuleSets) (value : String) : String :=
  let name := ascii_name env value
  if name = "" then ""
  else if env.is_address name then name
  else
    let labels := labelsOf name
    if labels.length = 1 then name
    else
      let count := rules.public_suffix_labels labels
      if labels.length ≤ count then name else dotted (labels.drop (labels.length - (count + 1)))

structure Described where
  base_domain : String
  subdomain : String
  is_subdomain : Bool

def describe (env : DomainEnv) (rules : RuleSets) (value : String) : Described :=
  let name := ascii_name env value
  let base := registrable_domain env rules name
  let subdomain :=
    if name ≠ "" ∧ base ≠ "" ∧ name ≠ base ∧ ("." ++ base).toList <:+ name.toList then
      slice name (name.length - (base.length + 1))
    else ""
  ⟨base, subdomain, subdomain ≠ ""⟩

/-! ## Normal names -/

def Visible (c : Char) : Prop := 0x21 ≤ c.toNat ∧ c.toNat ≤ 0x7E

instance : DecidablePred Visible := fun c =>
  inferInstanceAs (Decidable (0x21 ≤ c.toNat ∧ c.toNat ≤ 0x7E))

/-- The labels of a name that `_ascii_name` leaves alone. -/
structure NormalLabels (labels : List (List Char)) : Prop where
  nonempty : labels ≠ []
  separable : Separable '.' labels
  visible : ∀ label ∈ labels, ∀ c ∈ label, Visible c ∧ c.toLower = c
  short : (dotted labels).length ≤ 253

variable {c : Char}

theorem Visible.not_space (h : Visible c) : isSpace c = false := by
  obtain ⟨hLow, hHigh⟩ := h
  simp only [isSpace, Bool.or_eq_false_iff, Bool.and_eq_false_iff, decide_eq_false_iff_not,
    beq_eq_false_iff_ne]
  omega

theorem strip_visible {s : String} (h : ∀ c ∈ s.toList, Visible c) : strip s = s := by
  have hDrop {letters : List Char} (hLetters : ∀ c ∈ letters, Visible c) :
      letters.dropWhile isSpace = letters := by
    cases letters with
    | nil => rfl
    | cons c rest =>
      rw [List.dropWhile_cons_of_neg]
      rw [(hLetters c List.mem_cons_self).not_space]
      decide
  rw [strip, hDrop h, hDrop fun c hc => h c (List.mem_reverse.mp hc), List.reverse_reverse,
    String.ofList_toList]

variable {labels : List (List Char)}

theorem labelsOf_dotted (hNe : labels ≠ []) (h : Separable '.' labels) :
    labelsOf (dotted labels) = labels := by
  rw [labelsOf, dotted, String.toList_ofList, splitOn_joined h, if_neg hNe]

variable {n : Nat}

theorem dotted_cut (hPos : 0 < n) (hn : n < labels.length) :
    dotted labels = dotted (labels.take n) ++ "." ++ dotted (labels.drop n) := by
  have hFront : labels.take n ≠ [] := by
    rw [Ne, List.take_eq_nil_iff, not_or]
    exact ⟨hPos.ne', List.ne_nil_of_length_pos (Nat.zero_lt_of_lt hn)⟩
  have hBack : labels.drop n ≠ [] := by
    rw [Ne, List.drop_eq_nil_iff, Nat.not_le]
    exact hn
  have hJoined := @joined_append _ '.' _ _ hFront hBack
  rw [List.take_append_drop] at hJoined
  rw [dotted, dotted, dotted, hJoined]
  apply String.toList_injective
  simp

theorem dotted_labelsOf (name : String) : dotted (labelsOf name) = name := by
  rw [labelsOf, dotted, List.intercalate_splitOn, String.ofList_toList]

namespace NormalLabels

variable {labels : List (List Char)} (h : NormalLabels labels)
include h

theorem chars {c : Char} (hc : c ∈ (dotted labels).toList) : Visible c ∧ c.toLower = c := by
  rw [dotted, String.toList_ofList] at hc
  rcases mem_joined hc with rfl | ⟨label, hLabel, hIn⟩
  · exact ⟨⟨by decide, by decide⟩, by decide⟩
  · exact h.visible label hLabel c hIn

theorem labels_eq : labelsOf (dotted labels) = labels := labelsOf_dotted h.nonempty h.separable

theorem ne_empty : dotted labels ≠ "" := by
  intro hEmpty
  have hLabels := h.labels_eq
  rw [hEmpty] at hLabels
  have hNil : [] ∈ labels := hLabels ▸ List.mem_cons_self
  exact (h.separable [] hNil).1 rfl

theorem lower_eq (env : DomainEnv) : env.rt.lower (dotted labels) = dotted labels := by
  rw [env.lowers _ fun c hc => (h.chars hc).1.2.trans_lt (by decide)]
  have hMap : (dotted labels).toList.map Char.toLower = (dotted labels).toList.map id :=
    List.map_congr_left fun c hc => (h.chars hc).2
  rw [hMap, List.map_id, String.ofList_toList]

theorem ends : (dotted labels).toList.head? ≠ some '.' ∧
    (dotted labels).toList.getLast? ≠ some '.' := by
  rw [dotted, String.toList_ofList]
  exact ⟨h.separable.head?_joined, h.separable.getLast?_joined⟩

theorem map_idna (env : DomainEnv) : (labels.map fun label =>
    ((env.idna (String.ofList label)).getD (String.ofList label)).toList) = labels := by
  have hMap : (labels.map fun label =>
      ((env.idna (String.ofList label)).getD (String.ofList label)).toList) = labels.map id := by
    refine List.map_congr_left fun label hLabel => ?_
    rw [env.idna_ascii, String.toList_ofList]
    · rfl
    · intro c hc
      rw [String.toList_ofList] at hc
      exact (h.visible label hLabel c hc).1.2.trans_lt (by decide)
  rw [hMap, List.map_id]

theorem ascii_name_eq (env : DomainEnv) : ascii_name env (dotted labels) = dotted labels := by
  have hText : env.rt.lower (stripDots (strip (dotted labels))) = dotted labels := by
    rw [strip_visible fun c hc => (h.chars hc).1, stripDots_of_ends h.ends.1 h.ends.2,
      h.lower_eq env]
  have hFull : [] ∉ labelsOf (dotted labels) := by
    rw [h.labels_eq]
    exact h.separable.nil_notMem
  rw [ascii_name, hText, if_neg (not_or.mpr ⟨h.ne_empty, Nat.not_lt.mpr h.short⟩), if_neg hFull,
    h.labels_eq, h.map_idna env]

theorem drop {n : Nat} (hn : n < labels.length) : NormalLabels (labels.drop n) where
  nonempty := fun hNil => absurd (List.drop_eq_nil_iff.mp hNil) (Nat.not_le.mpr hn)
  separable := fun label hLabel => h.separable label (List.mem_of_mem_drop hLabel)
  visible := fun label hLabel => h.visible label (List.mem_of_mem_drop hLabel)
  short := by
    have hShort := h.short
    rcases Nat.eq_zero_or_pos n with rfl | hPos
    · exact hShort
    · rw [dotted_cut hPos hn, String.length_append, String.length_append] at hShort
      omega

theorem take {n : Nat} (hPos : 0 < n) (hn : n < labels.length) : NormalLabels (labels.take n) where
  nonempty := fun hNil => (List.take_eq_nil_iff.mp hNil).elim hPos.ne' h.nonempty
  separable := fun label hLabel => h.separable label (List.mem_of_mem_take hLabel)
  visible := fun label hLabel => h.visible label (List.mem_of_mem_take hLabel)
  short := by
    have hShort := h.short
    rw [dotted_cut hPos hn, String.length_append, String.length_append] at hShort
    omega

end NormalLabels

/-! ## Normalisation -/

def normalName (value : String) : String :=
  let text := String.ofList ((stripDots value).toList.map Char.toLower)
  if text = "" ∨ 253 < text.length ∨ [] ∈ labelsOf text then "" else text

theorem lower_visible :
    ∀ n < 0x7F, 0x21 ≤ n → 0x21 ≤ (Char.ofNat n).toLower.toNat ∧
      (Char.ofNat n).toLower.toNat ≤ 0x7E ∧ (Char.ofNat n).toLower.toLower =
        (Char.ofNat n).toLower := by
  decide +kernel

theorem Visible.toLower (h : Visible c) : Visible c.toLower ∧ c.toLower.toLower = c.toLower := by
  have hLower := lower_visible c.toNat (Nat.lt_succ_of_le h.2) h.1
  rw [Char.ofNat_toNat] at hLower
  exact ⟨⟨hLower.1, hLower.2.1⟩, hLower.2.2⟩

theorem mem_stripDots {s : String} (h : c ∈ (stripDots s).toList) : c ∈ s.toList := by
  rw [stripDots, String.toList_ofList, List.mem_reverse] at h
  have hFront := (List.dropWhile_sublist _).subset h
  rw [List.mem_reverse] at hFront
  exact (List.dropWhile_sublist _).subset hFront

theorem normalLabels_of_text {text : String} (hShort : text.length ≤ 253)
    (hLabels : [] ∉ labelsOf text) (hChars : ∀ c ∈ text.toList, Visible c ∧ c.toLower = c) :
    NormalLabels (labelsOf text) where
  nonempty := List.splitOn_ne_nil _ _
  separable := fun label hLabel =>
    ⟨fun hNil => hLabels (hNil ▸ hLabel), notMem_splitOn text.toList label hLabel⟩
  visible := fun label hLabel c hc => hChars c (by
    rw [← dotted_labelsOf text, dotted, String.toList_ofList]
    exact mem_joined_of_mem hLabel hc)
  short := by rwa [dotted_labelsOf]

theorem ascii_name_visible (env : DomainEnv) {value : String}
    (h : ∀ c ∈ value.toList, Visible c) :
    ascii_name env value = normalName value ∧
      (normalName value = "" ∨
        ∃ labels, NormalLabels labels ∧ normalName value = dotted labels) := by
  have hStripped : ∀ c ∈ (stripDots value).toList, Visible c := fun c hc => h c (mem_stripDots hc)
  have hText : env.rt.lower (stripDots (strip value)) =
      String.ofList ((stripDots value).toList.map Char.toLower) := by
    rw [strip_visible h, env.lowers _ fun c hc => (hStripped c hc).2.trans_lt (by decide)]
  have hChars : ∀ c ∈ (String.ofList ((stripDots value).toList.map Char.toLower)).toList,
      Visible c ∧ c.toLower = c := by
    intro c hc
    rw [String.toList_ofList] at hc
    obtain ⟨letter, hLetter, rfl⟩ := List.mem_map.mp hc
    exact (hStripped letter hLetter).toLower
  rw [ascii_name, hText, normalName]
  generalize String.ofList ((stripDots value).toList.map Char.toLower) = text at hChars
  by_cases hSome : text = ""
  · rw [if_pos (.inl hSome), if_pos (.inl hSome)]
    exact ⟨rfl, .inl rfl⟩
  by_cases hLong : 253 < text.length
  · rw [if_pos (.inr hLong), if_pos (.inr (.inl hLong))]
    exact ⟨rfl, .inl rfl⟩
  rw [if_neg (not_or.mpr ⟨hSome, hLong⟩)]
  by_cases hNil : [] ∈ labelsOf text
  · rw [if_pos hNil, if_pos (.inr (.inr hNil))]
    exact ⟨rfl, .inl rfl⟩
  have hNormal := normalLabels_of_text (Nat.not_lt.mp hLong) hNil hChars
  rw [if_neg hNil, if_neg (not_or.mpr ⟨hSome, not_or.mpr ⟨hLong, hNil⟩⟩), hNormal.map_idna env,
    dotted_labelsOf]
  exact ⟨rfl, .inr ⟨labelsOf text, hNormal, (dotted_labelsOf text).symm⟩⟩

/-! ## The longest rules -/

def Greatest (p : Nat → Prop) (size : Nat → Nat) (n best : Nat) : Prop :=
  (∀ index < n, p index → size index ≤ best) ∧ (best = 0 ∨ ∃ index < n, p index ∧ size index = best)

theorem Greatest.zero (p : Nat → Prop) (size : Nat → Nat) : Greatest p size 0 0 :=
  ⟨fun index hIndex => absurd hIndex (Nat.not_lt_zero index), .inl rfl⟩

theorem Greatest.succ {p : Nat → Prop} {size : Nat → Nat} {best : Nat} [Decidable (p n)]
    (h : Greatest p size n best) :
    Greatest p size (n + 1) (if p n then max best (size n) else best) := by
  obtain ⟨hBound, hReached⟩ := h
  have hLater {index : Nat} (hIndex : index < n) : index < n + 1 := Nat.lt_succ_of_lt hIndex
  split
  · next hHere =>
    constructor
    · intro index hIndex hp
      rcases Nat.lt_succ_iff_lt_or_eq.mp hIndex with hBefore | rfl
      · exact (hBound index hBefore hp).trans (Nat.le_max_left _ _)
      · exact Nat.le_max_right _ _
    · rcases Nat.le_total best (size n) with hLess | hMore
      · exact .inr ⟨n, Nat.lt_succ_self n, hHere, (Nat.max_eq_right hLess).symm⟩
      · rw [Nat.max_eq_left hMore]
        exact hReached.imp_right fun ⟨index, hIndex, hRest⟩ => ⟨index, hLater hIndex, hRest⟩
  · next hHere =>
    constructor
    · intro index hIndex hp
      rcases Nat.lt_succ_iff_lt_or_eq.mp hIndex with hBefore | rfl
      · exact hBound index hBefore hp
      · exact absurd hp hHere
    · exact hReached.imp_right fun ⟨index, hIndex, hRest⟩ => ⟨index, hLater hIndex, hRest⟩

structure Found (rules : RuleSets) (labels : List (List Char)) (n : Nat) (found : RuleLengths) :
    Prop where
  exception : Greatest (fun index => dotted (labels.drop index) ∈ rules.exception)
    (labels.length - ·) n found.exception_labels
  exact : Greatest (fun index => dotted (labels.drop index) ∈ rules.exact)
    (labels.length - ·) n found.exact_labels
  wildcard : Greatest (fun index => 0 < index ∧ dotted (labels.drop index) ∈ rules.wildcard)
    (labels.length - · + 1) n found.wildcard_labels

theorem Found.see {rules : RuleSets} {found : RuleLengths} (h : Found rules labels n found) :
    Found rules labels (n + 1) (rules.see labels found n) where
  exception := h.exception.succ
  exact := h.exact.succ
  wildcard := h.wildcard.succ

theorem found_lengths (rules : RuleSets) (labels : List (List Char)) :
    Found rules labels labels.length (rules.lengths labels) := by
  suffices hRounds : ∀ n,
      Found rules labels n ((List.range n).foldl (rules.see labels) ⟨0, 0, 0⟩) from
    hRounds labels.length
  intro n
  induction n with
  | zero => exact ⟨.zero _ _, .zero _ _, .zero _ _⟩
  | succ n ih =>
    rw [List.range_succ, List.foldl_append]
    exact ih.see

/-! ## The rules that match -/

inductive RuleSets.Has (rules : RuleSets) : SuffixRule (List Char) → Prop
  | exact {name : String} (mem : name ∈ rules.exact) : Has rules ⟨(labelsOf name).map some, false⟩
  | wildcard {name : String} (mem : name ∈ rules.wildcard) :
      Has rules ⟨none :: (labelsOf name).map some, false⟩
  | exception {name : String} (mem : name ∈ rules.exception) :
      Has rules ⟨(labelsOf name).map some, true⟩

def RuleSets.set (rules : RuleSets) : Set (SuffixRule (List Char)) := {rule | rules.Has rule}

theorem length_labelsOf_pos (name : String) : 0 < (labelsOf name).length :=
  List.length_pos_of_ne_nil (List.splitOn_ne_nil _ _)

theorem RuleSets.Has.length_pos {rules : RuleSets} {rule : SuffixRule (List Char)}
    (h : rules.Has rule) : 0 < rule.labels.length := by
  cases h with
  | exact mem => exact (List.length_map some).symm ▸ length_labelsOf_pos _
  | wildcard mem => exact Nat.succ_pos _
  | exception mem => exact (List.length_map some).symm ▸ length_labelsOf_pos _

section Matching

variable {rules : RuleSets} {labels : List (List Char)}

theorem suffix_index {front : List (List Char)} {name : String}
    (h : labels = front ++ labelsOf name) :
    front.length < labels.length ∧ dotted (labels.drop front.length) = name ∧
      labels.length - front.length = (labelsOf name).length := by
  have hPos := length_labelsOf_pos name
  have hLength := congrArg List.length h
  rw [List.length_append] at hLength
  refine ⟨by omega, ?_, by omega⟩
  rw [h, List.drop_left, dotted_labelsOf]

variable {found : RuleLengths}

theorem matched_le (hFound : Found rules labels labels.length found) {rule : SuffixRule (List Char)}
    (hRule : rules.Has rule) (hMatches : rule.Matches labels) :
    rule.labels.length ≤ if rule.isException then found.exception_labels
      else max found.exact_labels found.wildcard_labels := by
  cases hRule with
  | exact mem =>
    obtain ⟨front, hFront⟩ := SuffixRule.matches_some.mp hMatches
    obtain ⟨hIndex, hName, hLength⟩ := suffix_index hFront
    have hBound := hFound.exact.1 _ hIndex (show _ ∈ rules.exact from hName.symm ▸ mem)
    rw [List.length_map, ← hLength]
    exact hBound.trans (Nat.le_max_left _ _)
  | wildcard mem =>
    obtain ⟨front, part, hFront⟩ := SuffixRule.matches_any.mp hMatches
    rw [← List.singleton_append, ← List.append_assoc] at hFront
    obtain ⟨hIndex, hName, hLength⟩ := suffix_index hFront
    rw [List.length_append, List.length_singleton] at hIndex hName hLength
    have hBound := hFound.wildcard.1 _ hIndex ⟨Nat.succ_pos _, hName.symm ▸ mem⟩
    rw [List.length_cons, List.length_map, ← hLength]
    exact hBound.trans (Nat.le_max_right _ _)
  | exception mem =>
    obtain ⟨front, hFront⟩ := SuffixRule.matches_some.mp hMatches
    obtain ⟨hIndex, hName, hLength⟩ := suffix_index hFront
    rw [List.length_map, ← hLength]
    exact hFound.exception.1 _ hIndex (show _ ∈ rules.exception from hName.symm ▸ mem)

variable (h : NormalLabels labels)
include h

theorem labels_from {index : Nat} (hIndex : index < labels.length) :
    labelsOf (dotted (labels.drop index)) = labels.drop index := (h.drop hIndex).labels_eq

theorem matches_from {index : Nat} (hIndex : index < labels.length) (isException : Bool) :
    (SuffixRule.mk ((labelsOf (dotted (labels.drop index))).map some) isException).Matches labels :=
  SuffixRule.matches_some.mpr
    ⟨labels.take index, by rw [labels_from h hIndex, List.take_append_drop]⟩

theorem exception_reached (hFound : Found rules labels labels.length found)
    (hSome : found.exception_labels ≠ 0) :
    ∃ rule ∈ rules.set, rule.Matches labels ∧ rule.isException = true ∧
      rule.labels.length = found.exception_labels := by
  obtain ⟨index, hIndex, hMem, hLength⟩ := hFound.exception.2.resolve_left hSome
  refine ⟨_, .exception hMem, matches_from h hIndex true, rfl, ?_⟩
  rw [List.length_map, labels_from h hIndex, List.length_drop]
  exact hLength

theorem plain_reached (hFound : Found rules labels labels.length found)
    (hSome : max found.exact_labels found.wildcard_labels ≠ 0) :
    ∃ rule ∈ rules.set, rule.Matches labels ∧ rule.isException = false ∧
      rule.labels.length = max found.exact_labels found.wildcard_labels := by
  rcases Nat.le_total found.wildcard_labels found.exact_labels with hExact | hWildcard
  · rw [Nat.max_eq_left hExact] at hSome ⊢
    obtain ⟨index, hIndex, hMem, hLength⟩ := hFound.exact.2.resolve_left hSome
    refine ⟨_, .exact hMem, matches_from h hIndex false, rfl, ?_⟩
    rw [List.length_map, labels_from h hIndex, List.length_drop]
    exact hLength
  · rw [Nat.max_eq_right hWildcard] at hSome ⊢
    obtain ⟨index, hIndex, ⟨hPos, hMem⟩, hLength⟩ := hFound.wildcard.2.resolve_left hSome
    obtain ⟨before, rfl⟩ := Nat.exists_eq_succ_of_ne_zero hPos.ne'
    refine ⟨_, .wildcard hMem, SuffixRule.matches_any.mpr
      ⟨labels.take before, labels[before], ?_⟩, rfl, ?_⟩
    · rw [labels_from h hIndex, List.cons_getElem_drop_succ, List.take_append_drop]
    · rw [List.length_cons, List.length_map, labels_from h hIndex, List.length_drop]
      exact hLength

theorem public_suffix_registered (rules : RuleSets) :
    Registered rules.set labels
      (labels.drop (labels.length - (rules.public_suffix_labels labels + 1))) := by
  have hFound := found_lengths rules labels
  rw [RuleSets.public_suffix_labels]
  generalize rules.lengths labels = found at hFound
  by_cases hException : found.exception_labels ≠ 0
  · obtain ⟨rule, hRule, hMatches, hKind, hLength⟩ := exception_reached h hFound hException
    refine ⟨rule, .longest hRule hMatches ?_ ?_, ?_⟩
    · exact fun hPlain => absurd hPlain (by rw [hKind]; decide)
    · intro other hOther hMatchesOther hSame
      have hBound := matched_le hFound hOther hMatchesOther
      rwa [hSame, hKind, if_pos rfl, ← hLength] at hBound
    · rw [if_pos hException, SuffixRule.suffixLength, if_pos hKind, hLength]
  · have hNone : found.exception_labels = 0 := not_not.mp hException
    have hPlain {other : SuffixRule (List Char)} (hOther : rules.Has other)
        (hMatches : other.Matches labels) : other.isException = false := by
      have hBound := matched_le hFound hOther hMatches
      by_contra hKind
      rw [if_pos (Bool.not_eq_false _ ▸ hKind), hNone] at hBound
      exact absurd hOther.length_pos (Nat.not_lt.mpr hBound)
    rw [if_neg hException]
    by_cases hSome : max found.exact_labels found.wildcard_labels ≠ 0
    · obtain ⟨rule, hRule, hMatches, hKind, hLength⟩ := plain_reached h hFound hSome
      refine ⟨rule, .longest hRule hMatches ?_ ?_, ?_⟩
      · exact fun _ other hOther hMatchesOther => hPlain hOther hMatchesOther
      · intro other hOther hMatchesOther hSame
        have hBound := matched_le hFound hOther hMatchesOther
        rw [hSame, hKind, if_neg (by decide), ← hLength] at hBound
        exact hBound
      · rw [SuffixRule.suffixLength, if_neg (by rw [hKind]; decide), hLength,
          Nat.max_eq_right (Nat.one_le_iff_ne_zero.mpr hSome)]
    · refine ⟨SuffixRule.default, .none ?_, ?_⟩
      · intro other hOther hMatches
        have hBound := matched_le hFound hOther hMatches
        rw [hPlain hOther hMatches, if_neg (by decide), not_not.mp hSome] at hBound
        exact absurd hOther.length_pos (Nat.not_lt.mpr hBound)
      · rw [not_not.mp hSome]
        rfl

end Matching

/-! ## The domain of a name -/

section Domains

variable {labels : List (List Char)} (h : NormalLabels labels) (env : DomainEnv) (rules : RuleSets)
include h

/-- The domain is the last labels of the name: all of them for an address, and otherwise those that
the rules register. -/
theorem registrable_domain_cases {value : String} (hName : ascii_name env value = dotted labels) :
    ∃ n < labels.length, registrable_domain env rules value = dotted (labels.drop n) ∧
      if env.is_address (dotted labels) then n = 0
      else Registered rules.set labels (labels.drop n) := by
  have hPos : 0 < labels.length := List.length_pos_of_ne_nil h.nonempty
  have hRegistered := public_suffix_registered h rules
  rw [registrable_domain, hName, if_neg h.ne_empty, h.labels_eq]
  by_cases hAddress : env.is_address (dotted labels) = true
  · rw [if_pos hAddress]
    exact ⟨0, hPos, by rw [List.drop_zero], if_pos hAddress ▸ rfl⟩
  · refine ⟨labels.length - (rules.public_suffix_labels labels + 1), by omega, ?_, ?_⟩
    · rw [if_neg hAddress]
      by_cases hOne : labels.length = 1
      · rw [if_pos hOne, Nat.sub_eq_zero_of_le (by omega), List.drop_zero]
      · rw [if_neg hOne]
        by_cases hSuffix : labels.length ≤ rules.public_suffix_labels labels
        · rw [if_pos hSuffix, Nat.sub_eq_zero_of_le (by omega), List.drop_zero]
        · rw [if_neg hSuffix]
    · rw [if_neg hAddress]
      exact hRegistered

theorem registrable_domain_fixed {n : Nat} (hn : n < labels.length)
    (hDomain : env.is_address (dotted labels) = false →
      Registered rules.set labels (labels.drop n))
    (hZero : env.is_address (dotted labels) → n = 0) :
    registrable_domain env rules (dotted (labels.drop n)) = dotted (labels.drop n) := by
  have hBack := h.drop hn
  obtain ⟨m, hm, hSame, hKind⟩ := registrable_domain_cases hBack env rules (hBack.ascii_name_eq env)
  rw [hSame]
  by_cases hAddress : env.is_address (dotted (labels.drop n)) = true
  · rw [if_pos hAddress] at hKind
    rw [hKind, List.drop_zero]
  · rw [if_neg hAddress] at hKind
    cases hWhole : env.is_address (dotted labels) with
    | true =>
      rw [hZero hWhole, List.drop_zero] at hAddress
      exact absurd hWhole hAddress
    | false => rw [hKind.unique (hDomain hWhole).again]

theorem describe_cut {value : String} {n : Nat} (hn : n < labels.length)
    (hName : ascii_name env value = dotted labels)
    (hBase : registrable_domain env rules (dotted labels) = dotted (labels.drop n)) :
    describe env rules value =
      if n = 0 then ⟨dotted labels, "", false⟩
      else ⟨dotted (labels.drop n), dotted (labels.take n), true⟩ := by
  rw [describe, hName, hBase]
  by_cases hZero : n = 0
  · rw [if_pos hZero, hZero, List.drop_zero, if_neg fun hCut => hCut.2.2.1 rfl]
    rfl
  · have hPos : 0 < n := Nat.pos_of_ne_zero hZero
    have hBack := h.drop hn
    have hCut := dotted_cut hPos hn
    have hList : (dotted labels).toList =
        (dotted (labels.take n)).toList ++ ("." ++ dotted (labels.drop n)).toList := by
      rw [← String.toList_append, ← String.append_assoc, ← hCut]
    have hLength : (dotted labels).length =
        (dotted (labels.take n)).length + 1 + (dotted (labels.drop n)).length := by
      conv_lhs => rw [hCut]
      rw [String.length_append, String.length_append]
      rfl
    have hDiffer : dotted labels ≠ dotted (labels.drop n) := by
      intro hSame
      rw [hSame] at hLength
      omega
    have hSlice : slice (dotted labels) ((dotted labels).length -
        ((dotted (labels.drop n)).length + 1)) = dotted (labels.take n) := by
      have hCount : (dotted labels).length - ((dotted (labels.drop n)).length + 1) =
          (dotted (labels.take n)).toList.length := by
        rw [String.length_toList]
        omega
      rw [slice, hCount, hList, List.take_left, String.ofList_toList]
    rw [if_neg hZero, if_pos ⟨h.ne_empty, hBack.ne_empty, hDiffer, hList ▸ List.suffix_append _ _⟩,
      hSlice]
    exact congrArg _ (decide_eq_true (h.take hPos hn).ne_empty)

end Domains

/-- For every rule set and every visible ASCII text: the normalised name, and if it is one that is
no address, the domain that the rules register for it, which is its own domain (a name that is a
suffix is its own, too); the name is described as this domain with the labels before it. -/
theorem domain_follows_rules (env : DomainEnv) (rules : RuleSets) (value : String)
    (hValue : ∀ c ∈ value.toList, Visible c) :
    let name := ascii_name env value
    let domain := registrable_domain env rules value
    let described := describe env rules value
    name = normalName value ∧
    (name = "" → domain = "") ∧
    (name ≠ "" → if env.is_address name then domain = name
      else ∀ part, Registered rules.set (labelsOf name) part ↔ part = labelsOf domain) ∧
    registrable_domain env rules domain = domain ∧
    described.base_domain = domain ∧
    described.is_subdomain = decide (described.subdomain ≠ "") ∧
    (described.subdomain = "" ∧ domain = name ∨
      described.subdomain ≠ "" ∧ described.subdomain ++ "." ++ domain = name ∧
        labelsOf name = labelsOf described.subdomain ++ labelsOf domain) := by
  obtain ⟨hName, hCases⟩ := ascii_name_visible env hValue
  rcases hCases with hNone | ⟨labels, h, hLabels⟩
  · -- without a name nothing is described
    have hEmpty : ascii_name env value = "" := hName.trans hNone
    have hDomain : registrable_domain env rules value = "" := by
      rw [registrable_domain, if_pos hEmpty]
    have hAgain : registrable_domain env rules "" = "" := by
      have hBlank : ascii_name env "" = "" :=
        (@ascii_name_visible env "" (by simp)).1.trans (by decide +kernel)
      rw [registrable_domain, if_pos hBlank]
    have hDescribed : describe env rules value = ⟨"", "", false⟩ := by
      rw [describe, hEmpty, hAgain, if_neg fun hSome => hSome.1 rfl]
      rfl
    dsimp only
    rw [hDomain, hDescribed, hEmpty]
    exact ⟨hNone.symm, fun _ => rfl, fun hSome => absurd rfl hSome, hAgain, rfl, rfl, .inl
      ⟨rfl, rfl⟩⟩
  · have hText : ascii_name env value = dotted labels := hName.trans hLabels
    obtain ⟨n, hn, hDomain, hKind⟩ := registrable_domain_cases h env rules hText
    have hBase : registrable_domain env rules (dotted labels) = dotted (labels.drop n) := by
      rw [← hDomain, registrable_domain, registrable_domain, h.ascii_name_eq env, hText]
    have hDescribed := describe_cut h env rules hn hText hBase
    have hBack := h.drop hn
    dsimp only
    rw [hText, hDomain, hDescribed, h.labels_eq, hBack.labels_eq]
    refine ⟨hLabels.symm, fun hNone => absurd hNone h.ne_empty, fun _ => ?_, ?_, ?_, ?_, ?_⟩
    · split
      · next hAddress =>
        rw [if_pos hAddress] at hKind
        rw [hKind, List.drop_zero]
      · next hAddress =>
        rw [if_neg hAddress] at hKind
        intro part
        constructor
        · exact fun hPart => hPart.unique hKind
        · rintro rfl
          exact hKind
    · refine registrable_domain_fixed h env rules hn ?_ ?_
      · intro hAddress
        rwa [if_neg (by rw [hAddress]; decide)] at hKind
      · intro hAddress
        rwa [if_pos hAddress] at hKind
    · split
      · next hZero => rw [hZero, List.drop_zero]
      · rfl
    · split
      · rfl
      · next hSome =>
        exact (decide_eq_true (h.take (Nat.pos_of_ne_zero hSome) hn).ne_empty).symm
    · split
      · next hZero => exact .inl ⟨rfl, by rw [hZero, List.drop_zero]⟩
      · next hSome =>
        have hPos : 0 < n := Nat.pos_of_ne_zero hSome
        refine .inr ⟨(h.take hPos hn).ne_empty, (dotted_cut hPos hn).symm, ?_⟩
        rw [(h.take hPos hn).labels_eq, List.take_append_drop]

def asciiDomains : DomainEnv where
  rt := Runtime.ascii
  lowers := Runtime.lowersAscii_ascii
  idna := some
  idna_ascii _ _ := rfl
  is_address _ := false

def cookRules : RuleSets := ⟨["co.ck"], ["ck"], ["www.ck"]⟩

/-- The exception makes `www.ck` a domain, which the wildcard alone would make a suffix. -/
theorem domain_follows_rules_cook :
    (∀ part, Registered cookRules.set (labelsOf "x.www.ck") part ↔ part = labelsOf "www.ck") ∧
    (describe asciiDomains cookRules "X.www.ck.").subdomain ++ "." ++ "www.ck" = "x.www.ck" := by
  have hName : ascii_name asciiDomains "X.www.ck." = "x.www.ck" := by decide +kernel
  have hDomain : registrable_domain asciiDomains cookRules "X.www.ck." = "www.ck" := by
    decide +kernel
  obtain ⟨-, -, hRegistered, -, -, -, hCut⟩ :=
    domain_follows_rules asciiDomains cookRules "X.www.ck."
      (List.forall_iff_forall_mem.mp (by decide +kernel))
  rw [hName, hDomain] at hRegistered hCut
  constructor
  · exact hRegistered (by decide)
  · exact (hCut.resolve_left fun hWhole => absurd hWhole.2 (by decide)).2.1

end Sniff4Hound
