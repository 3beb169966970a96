import Sniff4Hound.Capture.Addresses
import Sniff4Hound.Library.SpacedWords

/-!
# Texts that are normalised twice

Texts are normalised when they are captured, again when they are stored, and once more at every
start. `normalize_text` marks a text that it cuts off with an ellipsis, which it does not keep
itself: the second pass takes the mark away (`mark_lost`). A text that need not be cut off is left
alone (`normalize_text_twice_iff`).
-/

namespace Sniff4Hound

/-! ## The passes of `normalize_text` -/

/-- What `PRINTABLE_RE` replaces. -/
def unprintable (c : Char) : Bool := !(0x20 ≤ c.toNat && c.toNat ≤ 0x7E)

def separates (c : Char) : Bool := !(0x21 ≤ c.toNat && c.toNat ≤ 0x7E)

/-- `re.sub(r"\s+", " ", PRINTABLE_RE.sub(" ", raw).strip())` -/
def cleaned (raw : List Char) : List Char :=
  let text := replaceRuns unprintable ' ' false raw
  replaceRuns isSpace ' ' false (((text.dropWhile isSpace).reverse.dropWhile isSpace).reverse)

def spacedText (raw : List Char) : List Char := spaced separates ' ' false false raw

theorem separates_of_unprintable {c : Char} (h : unprintable c = true) : separates c = true := by
  rw [unprintable, Bool.not_eq_true', Bool.and_eq_false_iff, decide_eq_false_iff_not,
    decide_eq_false_iff_not] at h
  rw [separates, Bool.not_eq_true', Bool.and_eq_false_iff, decide_eq_false_iff_not,
    decide_eq_false_iff_not]
  omega

theorem printable_replaceRuns {raw : List Char} {inRun : Bool} {c : Char}
    (h : c ∈ replaceRuns unprintable ' ' inRun raw) : unprintable c = false := by
  rcases mem_replaceRuns h with rfl | hKept
  · decide
  · exact hKept

theorem separates_of_isSpace {c : Char} (h : isSpace c = true) : separates c = true := by
  by_contra hWord
  rw [separates, Bool.not_eq_true', Bool.not_eq_false, Bool.and_eq_true, decide_eq_true_eq,
    decide_eq_true_eq] at hWord
  simp only [isSpace, Bool.or_eq_true, Bool.and_eq_true, decide_eq_true_eq, beq_iff_eq] at h
  omega

theorem isSpace_of_separates {c : Char} (h : unprintable c = false) (hc : separates c = true) :
    isSpace c = true := by
  rw [unprintable, Bool.not_eq_false', Bool.and_eq_true, decide_eq_true_eq, decide_eq_true_eq] at h
  rw [separates, Bool.not_eq_true', Bool.and_eq_false_iff, decide_eq_false_iff_not,
    decide_eq_false_iff_not] at hc
  have hBlank : c.toNat = 32 := by omega
  rw [isSpace, hBlank]
  rfl

variable (raw : List Char)

theorem cleaned_eq : cleaned raw = spacedText raw := by
  rw [cleaned, spacedText, replaceRuns_trimmed (fun c => separates_of_isSpace)
    fun c hc => isSpace_of_separates (printable_replaceRuns hc)]
  exact (spaced_replaceRuns (fun c => separates_of_unprintable) (by decide) false false raw).1

theorem normalize_text_eq (limit : Nat) :
    normalize_text raw limit =
      if limit ≠ 0 ∧ limit < (cleaned raw).length then
        rstrip (String.ofList ((cleaned raw).take (limit - 1))) ++ "…"
      else String.ofList (cleaned raw) := by
  have hJoined : join " " (((raw.splitOnP separates).filter (· ≠ [])).map String.ofList) =
      String.ofList (cleaned raw) := by
    refine String.toList_inj.mp ?_
    have hMap : (((raw.splitOnP separates).filter (· ≠ [])).map String.ofList).map String.toList =
        (raw.splitOnP separates).filter (· ≠ []) := by
      rw [List.map_map]
      exact List.map_id'' (fun word => String.toList_ofList) _
    have hList := toList_join ' ' (((raw.splitOnP separates).filter (· ≠ [])).map String.ofList)
    rw [hMap, joined_words] at hList
    rw [cleaned_eq, String.toList_ofList]
    exact hList
  have hText : normalize_text raw limit =
      let text := join " " (((raw.splitOnP separates).filter (· ≠ [])).map String.ofList)
      if limit ≠ 0 ∧ text.length > limit then rstrip (slice text (limit - 1))
        ++ "…" else text := rfl
  rw [hText]
  dsimp only
  rw [hJoined, slice, String.toList_ofList, String.length_ofList]

/-! ## Twice -/

theorem length_cleaned : (cleaned raw).length ≤ raw.length := by
  rw [cleaned_eq]
  exact length_spaced false false raw

theorem cleaned_cleaned : cleaned (cleaned raw) = cleaned raw := by
  rw [cleaned_eq, cleaned_eq]
  exact spaced_spaced (by decide) raw

theorem mark_notMem_cleaned : '…' ∉ cleaned raw := by
  intro hMem
  rw [cleaned_eq] at hMem
  rcases mem_spaced hMem with hBlank | hWord
  · exact absurd hBlank (by decide)
  · exact absurd hWord (by decide)

theorem length_rstrip_le (s : String) : (rstrip s).length ≤ s.length := by
  rw [rstrip, String.length_ofList, List.length_reverse, ← String.length_toList,
    ← @List.length_reverse _ s.toList]
  exact (List.dropWhile_sublist _).length_le

/-- A second pass changes nothing just when the words, with one blank between two, are no longer
than the limit, or when there is no limit. -/
theorem normalize_text_twice_iff (raw : List Char) (limit : Nat) :
    normalize_text (normalize_text raw limit).toList limit = normalize_text raw limit ↔
      limit = 0 ∨ (spacedText raw).length ≤ limit := by
  rw [← cleaned_eq]
  by_cases hCut : limit ≠ 0 ∧ limit < (cleaned raw).length
  · refine iff_of_false ?_ (by omega)
    have hMarked := normalize_text_eq raw limit
    rw [if_pos hCut] at hMarked
    have hShort : (normalize_text raw limit).toList.length ≤ limit := by
      rw [hMarked, String.length_toList, String.length_append]
      have hFront := length_rstrip_le (String.ofList ((cleaned raw).take (limit - 1)))
      rw [String.length_ofList, List.length_take] at hFront
      have hMark : "…".length = 1 := rfl
      omega
    have hMem : '…' ∈ (normalize_text raw limit).toList := by
      rw [hMarked, String.toList_append]
      exact List.mem_append_right _ List.mem_cons_self
    have hSecond := normalize_text_eq (normalize_text raw limit).toList limit
    have hLength := length_cleaned (normalize_text raw limit).toList
    rw [if_neg (by omega)] at hSecond
    intro hSame
    rw [← hSame, hSecond, String.toList_ofList] at hMem
    exact mark_notMem_cleaned _ hMem
  · refine iff_of_true ?_ (by omega)
    have hText := normalize_text_eq raw limit
    rw [if_neg hCut] at hText
    rw [hText, String.toList_ofList, normalize_text_eq, cleaned_cleaned, if_neg hCut]

/-- Three letters with room for two: `a…`, and then `a`. -/
theorem mark_lost : normalize_text (normalize_text "abc".toList 2).toList 2 ≠
    normalize_text "abc".toList 2 := by decide +kernel

end Sniff4Hound
