import Sniff4Hound.Capture.LinkContract

/-!
# Previews of payloads

The text that is kept of a printable payload is not empty: a letter at its end survives the
decoding, stands in a word, and some of the words are left when the text is cut off.
-/

namespace Sniff4Hound

theorem utf8Start_low {b : Nat} {pending : Utf8Pending} (h : utf8Start b = some pending) :
    0x80 ≤ pending.low := by
  rw [utf8Start] at h
  split_ifs at h <;> cases h <;> exact Nat.le_of_ble_eq_true rfl

theorem mem_utf8Decode (bad : List Char) (front : Bytes) :
    ∀ pending : Option Utf8Pending, (∀ p ∈ pending, 0x80 ≤ p.low) →
      'A' ∈ utf8Decode bad pending (front ++ [0x41]) := by
  induction front with
  | nil =>
    intro pending hLow
    cases pending with
    | none => exact List.mem_cons_self
    | some p =>
      have hHere := hLow p rfl
      rw [List.nil_append, utf8Decode]
      dsimp only
      rw [if_neg (fun h => absurd (hHere.trans h.1) (by decide)), if_pos (by decide)]
      exact List.mem_append_right _ List.mem_cons_self
  | cons b rest ih =>
    intro pending hLow
    have hNone := ih none nofun
    have hStart : ∀ {p : Utf8Pending}, utf8Start b.toNat = some p →
        'A' ∈ utf8Decode bad (some p) (rest ++ [0x41]) := by
      intro p hp
      refine ih (some p) fun q hq => ?_
      rw [← Option.some.inj hq]
      exact utf8Start_low hp
    cases pending with
    | none =>
      rw [List.cons_append, utf8Decode]
      split
      · exact List.mem_cons_of_mem _ hNone
      split
      · exact hStart ‹_›
      · exact List.mem_append_right _ hNone
    | some p =>
      rw [List.cons_append, utf8Decode]
      dsimp only
      split
      · split
        · exact List.mem_cons_of_mem _ hNone
        · refine ih _ fun q hq => ?_
          rw [← Option.some.inj hq]
      split
      · exact List.mem_append_right _ (List.mem_cons_of_mem _ hNone)
      split
      · exact List.mem_append_right _ (hStart ‹_›)
      · exact List.mem_append_right _ hNone

theorem exists_word (separates : Char → Bool) {letter : Char} (hLetter : separates letter = false)
    {raw : List Char} (h : letter ∈ raw) : ∃ word ∈ raw.splitOnP separates, word ≠ [] := by
  induction raw with
  | nil => cases h
  | cons c rest ih =>
    rw [List.splitOnP_cons_eq_if_modifyHead]
    by_cases hc : separates c = true
    · rw [if_pos hc]
      rcases List.mem_cons.mp h with rfl | hRest
      · rw [hLetter] at hc
        cases hc
      · obtain ⟨word, hWord, hSome⟩ := ih hRest
        exact ⟨word, List.mem_cons_of_mem _ hWord, hSome⟩
    · rw [if_neg hc]
      obtain ⟨word, words, hWords⟩ := List.exists_cons_of_ne_nil
        (List.splitOnP_ne_nil separates rest)
      rw [hWords]
      exact ⟨c :: word, List.mem_cons_self, List.cons_ne_nil _ _⟩

theorem normalize_text_ne_empty {raw : List Char} {letter : Char} (h : letter ∈ raw)
    (hVisible : 0x21 ≤ letter.toNat ∧ letter.toNat ≤ 0x7E) (limit : Nat) :
    normalize_text raw limit ≠ "" := by
  obtain ⟨word, hWord, hSome⟩ := exists_word (fun c =>
    !(decide (0x21 ≤ c.toNat) && decide (c.toNat ≤ 0x7E))) (by simp [hVisible]) h
  have hWords : word ∈ (raw.splitOnP fun c =>
      !(decide (0x21 ≤ c.toNat) && decide (c.toNat ≤ 0x7E))).filter (· ≠ []) :=
    List.mem_filter.mpr ⟨hWord, decide_eq_true hSome⟩
  have hAll : ∀ word ∈ (raw.splitOnP fun c =>
      !(decide (0x21 ≤ c.toNat) && decide (c.toNat ≤ 0x7E))).filter (· ≠ []), word ≠ [] :=
    fun word hMem => of_decide_eq_true (List.mem_filter.mp hMem).2
  rw [normalize_text]
  generalize (raw.splitOnP fun c =>
    !(decide (0x21 ≤ c.toNat) && decide (c.toNat ≤ 0x7E))).filter (· ≠ []) = words at hWords hAll
  split
  · intro hEmpty
    have hList := congrArg String.toList hEmpty
    rw [String.toList_append] at hList
    exact absurd (List.append_eq_nil_iff.mp hList).2 (by decide)
  · obtain ⟨first, rest, rfl⟩ := List.exists_cons_of_ne_nil (List.ne_nil_of_mem hWords)
    rw [List.map_cons]
    apply join_ne_empty
    intro hEmpty
    exact hAll first List.mem_cons_self (String.ofList_eq_empty_iff.mp hEmpty)

theorem preview_ne_empty (front : Bytes) (limit : Nat) :
    bytes_to_text_preview (front ++ [0x41]) limit ≠ "" := by
  rw [bytes_to_text_preview, if_neg (List.append_ne_nil_of_right_ne_nil _ (List.cons_ne_nil _ _))]
  exact normalize_text_ne_empty (mem_utf8Decode [] front none nofun) (by decide) limit

end Sniff4Hound
