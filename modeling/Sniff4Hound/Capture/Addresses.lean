import Sniff4Hound.Capture.Bytes
import Sniff4Hound.Library.JoinedText

/-!
# Addresses and their texts

The texts of `ipaddress` determine the addresses: four decimal numbers with dots between them,
and eight hexadecimal ones with colons, where the longest run of zeros is left out. The text of an
endpoint, an address with a port behind it, determines both.
-/

namespace Sniff4Hound

/-! ## Joined numerals -/

theorem toList_join (sep : Char) (parts : List String) :
    (join (String.singleton sep) parts).toList = [sep].intercalate (parts.map String.toList) := by
  induction parts with
  | nil => rfl
  | cons part rest ih =>
    cases rest with
    | nil => simp [join]
    | cons next rest =>
      have hJoin : (join (String.singleton sep) (part :: next :: rest)).toList =
          part.toList ++ ([sep] ++ (join (String.singleton sep) (next :: rest)).toList) := by
        rw [show join (String.singleton sep) (part :: next :: rest) = part ++
          String.singleton sep ++ join (String.singleton sep) (next :: rest) from rfl,
          String.toList_append, String.toList_append, String.toList_singleton,
          List.append_assoc]
      rw [hJoin, ih, List.map_cons, List.map_cons, List.map_cons,
        List.intercalate_cons_cons, List.append_assoc]

theorem toList_toString (n : Nat) : (toString n).toList = Nat.toDigits 10 n := by
  rw [Nat.toString_eq_ofList_toDigits, String.toList_ofList]

theorem toList_hexNumeral (n : Nat) : (hexNumeral n).toList = Nat.toDigits 16 n :=
  String.toList_ofList

theorem hexNumeral_inj {m n : Nat} (h : hexNumeral m = hexNumeral n) : m = n := by
  apply toDigits_inj (show 1 < 16 by decide) (by decide)
  rw [← toList_hexNumeral, ← toList_hexNumeral, h]

theorem separable_toDigits {base : Nat} (hBase : 1 < base) (hHex : base ≤ 16) {sep : Char}
    (hSep : ∀ digit < 16, sep ≠ Nat.digitChar digit) (numbers : List Nat) :
    Separable sep (numbers.map (Nat.toDigits base)) := by
  intro part hPart
  obtain ⟨n, -, rfl⟩ := List.mem_map.mp hPart
  exact ⟨Nat.toDigits_ne_nil, notMem_toDigits hBase hHex hSep n⟩

theorem separable_hexNumeral (groups : List Nat) :
    Separable ':' ((groups.map hexNumeral).map String.toList) := by
  rw [List.map_map, show String.toList ∘ hexNumeral = Nat.toDigits 16 from
    funext toList_hexNumeral]
  exact separable_toDigits (by decide) (by decide) (by decide) groups

theorem map_hexNumeral_inj {groups groups' : List Nat}
    (h : (groups.map hexNumeral).map String.toList = (groups'.map hexNumeral).map String.toList) :
    groups = groups' := by
  apply List.map_injective_iff.mpr (fun m n => hexNumeral_inj)
  exact List.map_injective_iff.mpr (fun s t => String.toList_inj.mp) h

/-! ## IPv4 -/

theorem toList_ipv4Text (data : Bytes) :
    (ipv4Text data).toList = ['.'].intercalate ((data.map UInt8.toNat).map (Nat.toDigits 10)) := by
  rw [ipv4Text, show "." = String.singleton '.' from rfl, toList_join, List.map_map, List.map_map]
  congr 2
  exact funext fun b => toList_toString b.toNat

variable {data : Bytes}

theorem ipv4Text_inj {data' : Bytes} (h : ipv4Text data = ipv4Text data') : data = data' := by
  have hSame := congrArg String.toList h
  rw [toList_ipv4Text, toList_ipv4Text] at hSame
  have hDigits := joined_inj (separable_toDigits (by decide) (by decide) (by decide) _)
    (separable_toDigits (by decide) (by decide) (by decide) _) hSame
  have hNumbers := List.map_injective_iff.mpr
    (fun m n => toDigits_inj (by decide : 1 < 10) (by decide)) hDigits
  exact List.map_injective_iff.mpr (fun a b => UInt8.toNat_inj.mp) hNumbers

theorem notMem_ipv4Text {c : Char} (hDot : c ≠ '.') (hDigit : ∀ digit < 16, c ≠ Nat.digitChar digit)
    (data : Bytes) : c ∉ (ipv4Text data).toList := by
  rw [toList_ipv4Text]
  intro hMem
  rcases mem_joined hMem with hSep | ⟨part, hPart, hIn⟩
  · exact hDot hSep
  · obtain ⟨n, -, rfl⟩ := List.mem_map.mp hPart
    exact notMem_toDigits (by decide) (by decide) hDigit n hIn

theorem dot_mem_ipv4Text (h : data.length = 4) : '.' ∈ (ipv4Text data).toList := by
  match data, h with
  | [a, b, c, d], _ =>
    rw [toList_ipv4Text, List.map_cons, List.map_cons, List.map_cons, List.map_cons,
      List.intercalate_cons_cons]
    exact List.mem_append_left _ (List.mem_append_right _ List.mem_cons_self)

/-! ## IPv6 -/

theorem take_zeroRun (groups : List Nat) :
    groups.take (zeroRun groups) = List.replicate (zeroRun groups) 0 := by
  induction groups with
  | nil => rfl
  | cons group rest ih =>
    rw [zeroRun, List.takeWhile_cons]
    split
    · rename_i hZero
      rw [List.length_cons, List.take_succ_cons, List.replicate_succ, of_decide_eq_true hZero]
      exact congrArg _ ih
    · rfl

theorem longestZeroRun_spec (groups : List Nat) :
    (longestZeroRun groups).2 ≤ zeroRun (groups.drop (longestZeroRun groups).1) := by
  rw [longestZeroRun]
  generalize List.range groups.length = places
  suffices h : ∀ best : Nat × Nat, best.2 ≤ zeroRun (groups.drop best.1) →
      (places.foldl (fun best i => if zeroRun (groups.drop i) > best.2 then
        (i, zeroRun (groups.drop i)) else best) best).2 ≤ zeroRun (groups.drop
          (places.foldl (fun best i => if zeroRun (groups.drop i) > best.2 then
            (i, zeroRun (groups.drop i)) else best) best).1) from
    h (0, 0) (Nat.zero_le _)
  induction places with
  | nil => exact fun best hBest => hBest
  | cons place rest ih =>
    intro best hBest
    rw [List.foldl_cons]
    apply ih
    split
    · exact Nat.le_refl _
    · exact hBest

variable {start length : Nat}

theorem groups_of_run {groups : List Nat} (h : longestZeroRun groups = (start, length)) :
    groups = groups.take start ++ (List.replicate length 0 ++ groups.drop (start + length)) := by
  have hRun := longestZeroRun_spec groups
  rw [h] at hRun
  have hZeros : (groups.drop start).take length = List.replicate length 0 := by
    have hTake := congrArg (List.take length) (take_zeroRun (groups.drop start))
    rw [List.take_take, List.take_replicate, Nat.min_eq_left hRun] at hTake
    exact hTake
  rw [← hZeros, ← List.drop_drop, List.take_append_drop, List.take_append_drop]

theorem toList_ipv6Text_gap (h : longestZeroRun (hextets data) = (start, length))
    (hLong : 1 < length) :
    (ipv6Text data).toList = gapText ':'
      (((hextets data).take start).map hexNumeral |>.map String.toList)
      (((hextets data).drop (start + length)).map hexNumeral |>.map String.toList) := by
  rw [ipv6Text]
  dsimp only
  rw [h, if_pos hLong, show ":" = String.singleton ':' from rfl, String.toList_append,
    String.toList_append, toList_join, toList_join, gapText]
  simp only [List.map_take, List.map_drop, List.append_assoc]
  rfl

theorem toList_ipv6Text_full (h : longestZeroRun (hextets data) = (start, length))
    (hShort : ¬1 < length) :
    (ipv6Text data).toList =
      [':'].intercalate (((hextets data).map hexNumeral).map String.toList) := by
  rw [ipv6Text]
  dsimp only
  rw [h, if_neg hShort, show ":" = String.singleton ':' from rfl, toList_join]

theorem length_hextets : ∀ {n : Nat} {data : Bytes}, data.length = 2 * n → (hextets data).length = n
  | 0, data, h => by
    rw [List.length_eq_zero_iff.mp h]
    rfl
  | n + 1, a :: b :: rest, h => by
    rw [List.length_cons, List.length_cons] at h
    rw [hextets, List.length_cons, length_hextets (n := n) (by omega)]
  | n + 1, [a], h => by
    rw [List.length_singleton] at h
    omega
  | n + 1, [], h => by
    rw [List.length_nil] at h
    omega

theorem hextets_inj : ∀ {n : Nat} {data data' : Bytes}, data.length = 2 * n →
    data'.length = 2 * n → hextets data = hextets data' → data = data'
  | 0, data, data', h, h', _ => by
    rw [List.length_eq_zero_iff.mp h, List.length_eq_zero_iff.mp h']
  | n + 1, a :: b :: rest, a' :: b' :: rest', h, h', hSame => by
    rw [List.length_cons, List.length_cons] at h h'
    rw [hextets, hextets] at hSame
    obtain ⟨hGroup, hRest⟩ := List.cons.inj hSame
    have hLow := b.toNat_lt
    have hLow' := b'.toNat_lt
    have ha : a = a' := UInt8.toNat_inj.mp (by omega)
    have hb : b = b' := UInt8.toNat_inj.mp (by omega)
    rw [ha, hb, hextets_inj (n := n) (by omega) (by omega) hRest]
  | n + 1, [], _, h, _, _ => by
    rw [List.length_nil] at h
    omega
  | n + 1, [a], _, h, _, _ => by
    rw [List.length_singleton] at h
    omega
  | n + 1, _ :: _ :: _, [], _, h', _ => by
    rw [List.length_nil] at h'
    omega
  | n + 1, _ :: _ :: _, [a], _, h', _ => by
    rw [List.length_singleton] at h'
    omega

theorem ipv6Text_inj {data' : Bytes} (h : data.length = 16) (h' : data'.length = 16)
    (hSame : ipv6Text data = ipv6Text data') : data = data' := by
  apply hextets_inj (n := 8) h h'
  have hLength := length_hextets (n := 8) h
  have hLength' := length_hextets (n := 8) h'
  have hSome : ∀ {data : Bytes}, (hextets data).length = 8 →
      ((hextets data).map hexNumeral).map String.toList ≠ [] := by
    intro data hLength hNone
    rw [List.map_eq_nil_iff, List.map_eq_nil_iff] at hNone
    rw [hNone] at hLength
    cases hLength
  have hText := congrArg String.toList hSame
  cases hRun : longestZeroRun (hextets data) with
  | mk start length =>
  cases hRun' : longestZeroRun (hextets data') with
  | mk start' length' =>
  by_cases hLong : 1 < length <;> by_cases hLong' : 1 < length'
  · rw [toList_ipv6Text_gap hRun hLong, toList_ipv6Text_gap hRun' hLong'] at hText
    obtain ⟨hFront, hBack⟩ := gapText_inj (separable_hexNumeral _) (separable_hexNumeral _)
      (separable_hexNumeral _) (separable_hexNumeral _) hText
    have hTake := map_hexNumeral_inj hFront
    have hDrop := map_hexNumeral_inj hBack
    have hGroups := groups_of_run hRun
    have hGroups' := groups_of_run hRun'
    rw [hTake, hDrop] at hGroups
    -- the runs are what is missing to eight groups
    have hZeros : length = length' := by
      have hCount := congrArg List.length hGroups
      have hCount' := congrArg List.length hGroups'
      simp only [List.length_append, List.length_replicate] at hCount hCount'
      omega
    rw [hGroups, hZeros]
    exact hGroups'.symm
  · rw [toList_ipv6Text_gap hRun hLong, toList_ipv6Text_full hRun' hLong'] at hText
    exact absurd hText (gapText_ne (separable_hexNumeral _) (separable_hexNumeral _)
      (separable_hexNumeral _) (hSome hLength'))
  · rw [toList_ipv6Text_full hRun hLong, toList_ipv6Text_gap hRun' hLong'] at hText
    exact absurd hText.symm (gapText_ne (separable_hexNumeral _) (separable_hexNumeral _)
      (separable_hexNumeral _) (hSome hLength))
  · rw [toList_ipv6Text_full hRun hLong, toList_ipv6Text_full hRun' hLong'] at hText
    exact map_hexNumeral_inj
      (joined_inj (separable_hexNumeral _) (separable_hexNumeral _) hText)

theorem colon_mem_ipv6Text (h : data.length = 16) : ':' ∈ (ipv6Text data).toList := by
  have hLength := length_hextets (n := 8) h
  cases hRun : longestZeroRun (hextets data) with
  | mk start length =>
  by_cases hLong : 1 < length
  · rw [toList_ipv6Text_gap hRun hLong, gapText]
    exact List.mem_append_right _ List.mem_cons_self
  · rw [toList_ipv6Text_full hRun hLong]
    generalize hextets data = parts at hLength
    rcases parts with _ | ⟨first, _ | ⟨second, rest⟩⟩
    · cases hLength
    · cases hLength
    · rw [List.map_cons, List.map_cons, List.map_cons, List.map_cons,
        List.intercalate_cons_cons]
      exact List.mem_append_left _ (List.mem_append_right _ List.mem_cons_self)

theorem notMem_ipv6Text {c : Char} (hColon : c ≠ ':')
    (hDigit : ∀ digit < 16, c ≠ Nat.digitChar digit) (data : Bytes) :
    c ∉ (ipv6Text data).toList := by
  have hJoined : ∀ groups : List Nat,
      c ∉ [':'].intercalate ((groups.map hexNumeral).map String.toList) := by
    intro groups hMem
    rcases mem_joined hMem with hSep | ⟨part, hPart, hIn⟩
    · exact hColon hSep
    · rw [List.map_map] at hPart
      obtain ⟨n, -, rfl⟩ := List.mem_map.mp hPart
      rw [Function.comp_apply, toList_hexNumeral] at hIn
      exact notMem_toDigits (by decide) (by decide) hDigit n hIn
  cases hRun : longestZeroRun (hextets data) with
  | mk start length =>
  by_cases hLong : 1 < length
  · rw [toList_ipv6Text_gap hRun hLong, gapText]
    intro hMem
    rcases List.mem_append.mp hMem with hFront | hBack
    · exact hJoined _ hFront
    · simp only [List.mem_cons] at hBack
      rcases hBack with hSep | hSep | hBack
      · exact hColon hSep
      · exact hColon hSep
      · exact hJoined _ hBack
  · rw [toList_ipv6Text_full hRun hLong]
    exact hJoined _

end Sniff4Hound
