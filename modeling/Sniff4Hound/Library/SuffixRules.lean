import Mathlib.Data.List.Forall2
import Mathlib.Data.Set.Basic

/-!
# Rules for the suffixes of names

A name is a list of labels, and a rule matches the names that end in its labels, of which some may
stand for any label. Of the rules that match, an exception prevails, and otherwise the longest;
without any rule the last label counts. The rule that prevails says where the suffix of the name
begins, and one label more is what is registered under it (`Registered`). That is one part of the
name (`Registered.unique`), and nothing but itself is registered under it (`Registered.again`).
-/

namespace Sniff4Hound

structure SuffixRule (α : Type*) where
  labels : List (Option α)
  isException : Bool

variable {α : Type*}

namespace SuffixRule

def default : SuffixRule α := ⟨[none], false⟩

def Fits (label : Option α) (part : α) : Prop := label = none ∨ label = some part

def Matches (rule : SuffixRule α) (name : List α) : Prop :=
  ∃ front back, name = front ++ back ∧ List.Forall₂ Fits rule.labels back

def suffixLength (rule : SuffixRule α) : Nat :=
  if rule.isException then rule.labels.length - 1 else rule.labels.length

theorem Matches.append {rule : SuffixRule α} {name : List α} (h : rule.Matches name)
    (front : List α) : rule.Matches (front ++ name) := by
  obtain ⟨middle, back, rfl, hBack⟩ := h
  exact ⟨front ++ middle, back, (List.append_assoc front middle back).symm, hBack⟩

theorem Matches.drop {rule : SuffixRule α} {name : List α} (h : rule.Matches name) {n : Nat}
    (hn : rule.labels.length ≤ name.length - n) : rule.Matches (name.drop n) := by
  obtain ⟨front, back, rfl, hBack⟩ := h
  have hLength := hBack.length_eq
  rw [List.length_append] at hn
  by_cases hFront : n ≤ front.length
  · exact ⟨front.drop n, back, List.drop_append_of_le_length hFront, hBack⟩
  · have hNil : rule.labels.length = 0 := by omega
    refine ⟨(front ++ back).drop n, [], (List.append_nil _).symm, ?_⟩
    rw [List.length_eq_zero_iff.mp hNil]
    exact List.Forall₂.nil

theorem forall₂_some {labels back : List α} :
    List.Forall₂ Fits (labels.map some) back ↔ back = labels := by
  rw [List.forall₂_map_left_iff]
  constructor
  · intro h
    refine (List.forall₂_eq_eq_eq ▸ h.imp ?_ : labels = back).symm
    rintro label part (hNone | hSome)
    · cases hNone
    · exact Option.some.inj hSome
  · rintro rfl
    exact List.forall₂_same.mpr fun label _ => .inr rfl

theorem matches_some {labels name : List α} {isException : Bool} :
    (SuffixRule.mk (labels.map some) isException).Matches name ↔
      ∃ front, name = front ++ labels := by
  constructor
  · rintro ⟨front, back, rfl, hBack⟩
    exact ⟨front, by rw [forall₂_some.mp hBack]⟩
  · rintro ⟨front, rfl⟩
    exact ⟨front, labels, rfl, forall₂_some.mpr rfl⟩

theorem matches_any {labels name : List α} {isException : Bool} :
    (SuffixRule.mk (none :: labels.map some) isException).Matches name ↔
      ∃ front part, name = front ++ part :: labels := by
  constructor
  · rintro ⟨front, back, rfl, hBack⟩
    obtain ⟨part, rest, -, hRest, rfl⟩ := List.forall₂_cons_left_iff.mp hBack
    exact ⟨front, part, by rw [forall₂_some.mp hRest]⟩
  · rintro ⟨front, part, rfl⟩
    exact ⟨front, part :: labels, rfl, .cons (.inl rfl) (forall₂_some.mpr rfl)⟩

end SuffixRule

/-- Among the rules that match, the longest exception or, if there is none, the longest rule;
without a rule that matches, the default. -/
inductive Prevails (rules : Set (SuffixRule α)) (name : List α) : SuffixRule α → Prop
  | longest {rule : SuffixRule α} (mem : rule ∈ rules) (here : rule.Matches name)
      (kind : rule.isException = false → ∀ other ∈ rules, other.Matches name →
        other.isException = false)
      (long : ∀ other ∈ rules, other.Matches name → other.isException = rule.isException →
        other.labels.length ≤ rule.labels.length) : Prevails rules name rule
  | none (noMatch : ∀ other ∈ rules, ¬other.Matches name) : Prevails rules name SuffixRule.default

/-- The suffix of a name and one label more. A name that is nothing but a suffix has no label to spare
and counts as registered itself: the subtraction stops at the whole name. -/
def Registered (rules : Set (SuffixRule α)) (name part : List α) : Prop :=
  ∃ rule, Prevails rules name rule ∧ part = name.drop (name.length - (rule.suffixLength + 1))

variable {rules : Set (SuffixRule α)} {name part other : List α}

theorem Prevails.suffixLength_eq {rule rule' : SuffixRule α} (h : Prevails rules name rule)
    (h' : Prevails rules name rule') : rule.suffixLength = rule'.suffixLength := by
  cases h with
  | longest mem here kind long =>
    cases h' with
    | longest mem' here' kind' long' =>
      have hKind : rule'.isException = rule.isException := by
        cases hOne : rule.isException with
        | false => exact kind hOne rule' mem' here'
        | true =>
          cases hTwo : rule'.isException with
          | false => exact absurd (kind' hTwo rule mem here) (by rw [hOne]; decide)
          | true => rfl
      have hLength : rule.labels.length = rule'.labels.length :=
        Nat.le_antisymm (long' rule mem here hKind.symm) (long rule' mem' here' hKind)
      rw [SuffixRule.suffixLength, SuffixRule.suffixLength, hKind, hLength]
    | none noMatch => exact absurd here (noMatch _ mem)
  | none noMatch =>
    cases h' with
    | longest mem' here' kind' long' => exact absurd here' (noMatch _ mem')
    | none _ => rfl

theorem Registered.unique (h : Registered rules name part) (h' : Registered rules name other) :
    part = other := by
  obtain ⟨rule, hRule, rfl⟩ := h
  obtain ⟨rule', hRule', rfl⟩ := h'
  rw [hRule.suffixLength_eq hRule']

theorem Registered.again (h : Registered rules name part) : Registered rules part part := by
  obtain ⟨rule, hRule, rfl⟩ := h
  by_cases hShort : name.length ≤ rule.suffixLength + 1
  · rw [Nat.sub_eq_zero_of_le hShort, List.drop_zero]
    exact ⟨rule, hRule, by rw [Nat.sub_eq_zero_of_le hShort, List.drop_zero]⟩
  · refine ⟨rule, ?_, ?_⟩
    · have hUp : ∀ other : SuffixRule α,
          other.Matches (name.drop (name.length - (rule.suffixLength + 1))) →
            other.Matches name := by
        intro other hOther
        have hAppend := hOther.append (name.take (name.length - (rule.suffixLength + 1)))
        rwa [List.take_append_drop] at hAppend
      cases hRule with
      | longest mem here kind long =>
        refine .longest mem (here.drop ?_) (fun hPlain other hMem hOther =>
          kind hPlain other hMem (hUp other hOther)) fun other hMem hOther =>
            long other hMem (hUp other hOther)
        have hLength : rule.labels.length ≤ rule.suffixLength + 1 := by
          rw [SuffixRule.suffixLength]
          split <;> omega
        omega
      | none noMatch => exact .none fun other hMem hOther => noMatch other hMem (hUp other hOther)
    · rw [List.length_drop]
      have hZero : name.length - (name.length - (rule.suffixLength + 1)) -
          (rule.suffixLength + 1) = 0 := by omega
      rw [hZero, List.drop_zero]

end Sniff4Hound
