import Sniff4Hound.Detection.NormalMatch

/-!
# Normalizing twice

What is stored is normalized already, if no two entries of a list are stored as one text: the
normalizer drops repeated entries before it cleans them (`match_twice`).

* `normalize_match_law`: what is stored decides every packet as the match that was given.
-/

namespace Sniff4Hound

/-! ## The entries of stored criteria -/

section Stored

variable (rt : Runtime) (data : List (String × Value)) (b : Bool)

def storedFlags (key : String) : List String :=
  flagSet ((keptItems data key).flatMap (parse_tcp_flags_value rt))

theorem get_names : ∀ key ∈ NAME_KEYS, Value.get (normalCriteria rt data b).entries key =
    .list (((keptNames rt data key).map (Value.toText rt)).map .str) := by
  simp only [NAME_KEYS, List.forall_mem_cons, List.not_mem_nil, false_imp_iff, implies_true,
    and_true]
  exact ⟨rfl, rfl⟩

theorem get_numbers : ∀ key ∈ NUMBER_LIST_KEYS, Value.get (normalCriteria rt data b).entries key =
    .list ((intField rt data key).map .int) := by
  simp only [NUMBER_LIST_KEYS, List.forall_mem_cons, List.not_mem_nil, false_imp_iff, implies_true,
    and_true]
  exact ⟨rfl, rfl, rfl, rfl, rfl, rfl, rfl, rfl, rfl, rfl, rfl, rfl, rfl⟩

theorem get_texts : ∀ list ∈ TEXT_KEYS, Value.get (normalCriteria rt data b).entries list.2 =
    .list ((storedTexts rt data list.1 list.2).map .str) := by
  simp only [TEXT_KEYS, List.forall_mem_cons, List.not_mem_nil, false_imp_iff, implies_true,
    and_true]
  exact ⟨rfl, rfl, rfl, rfl, rfl, rfl, rfl, rfl, rfl, rfl, rfl, rfl, rfl, rfl, rfl⟩

theorem get_flags : ∀ key ∈ FLAG_KEYS, Value.get (normalCriteria rt data b).entries key =
    .list ((storedFlags rt data key).map .str) := by
  simp only [FLAG_KEYS, List.forall_mem_cons, List.not_mem_nil, false_imp_iff, implies_true,
    and_true]
  exact ⟨rfl, rfl⟩

end Stored

theorem plainData_entries (rt : Runtime) {data : List (String × Value)} (b : Bool) :
    PlainData (normalCriteria rt data b).entries := by
  have hStrings : ∀ {key : String} {items : List String},
      Value.get (normalCriteria rt data b).entries key = .list (items.map .str) →
        (Value.get (normalCriteria rt data b).entries key =
            .list (listItems (normalCriteria rt data b).entries key) ∨
          Value.get (normalCriteria rt data b).entries key = .null) ∧
        ∀ item ∈ listItems (normalCriteria rt data b).entries key, item.isEntry = true := by
    intro key items hGet
    rw [listItems, hGet]
    refine ⟨Or.inl rfl, fun item hItem => ?_⟩
    obtain ⟨_, -, rfl⟩ := List.mem_map.mp hItem
    rfl
  intro key hKey
  rcases List.mem_append.mp hKey with hKey | hFlags
  · rcases List.mem_append.mp hKey with hKey | hTexts
    · rcases List.mem_append.mp hKey with hNames | hNumbers
      · exact hStrings (get_names rt data b key hNames)
      · have hGet := get_numbers rt data b key hNumbers
        rw [listItems, hGet]
        refine ⟨Or.inl rfl, fun item hItem => ?_⟩
        obtain ⟨_, -, rfl⟩ := List.mem_map.mp hItem
        rfl
    · obtain ⟨list, hList, rfl⟩ := List.mem_map.mp hTexts
      exact hStrings (get_texts rt data b list hList)
  · exact hStrings (get_flags rt data b key hFlags)

theorem nodup_entries {values : List Value} (h : ∀ v ∈ values, v.isEntry = true) :
    (unique_ordered Value.eqv values).Nodup :=
  nodup_unique_ordered fun v hv => (eqv_entry (h v hv) (h v hv)).mpr rfl

theorem unique_entries {values : List Value} (h : ∀ v ∈ values, v.isEntry = true)
    (hNodup : values.Nodup) : unique_ordered Value.eqv values = values :=
  unique_ordered_eq_self hNodup fun v hv w hw hSame => (eqv_entry (h v hv) (h w hw)).mp hSame

section Twice

variable {rt : Runtime} {data data' : List (String × Value)} {b : Bool} {key : String}

theorem names_twice (hLower : rt.LowersText)
    (hSame : SameFields (normalCriteria rt data b).entries data') (hKey : key ∈ NAME_KEYS) :
    keptNames rt data' key = keptNames rt data key := by
  have hStrings : ∀ v ∈ keptNames rt data key,
      ∃ w, v = .str (normalize_protocol_name rt w) := by
    intro v hv
    obtain ⟨w, -, rfl⟩ := List.mem_map.mp (mem_of_mem_unique_ordered hv)
    exact ⟨w, rfl⟩
  have hEntries : ∀ v ∈ keptNames rt data key, v.isEntry = true := by
    intro v hv
    obtain ⟨w, rfl⟩ := hStrings v hv
    rfl
  have hNodup : (keptNames rt data key).Nodup := by
    refine nodup_entries fun v hv => ?_
    obtain ⟨w, -, rfl⟩ := List.mem_map.mp hv
    rfl
  have hItems : listItems data' key = keptNames rt data key := by
    have hList : key ∈ LIST_KEYS := List.mem_append_left _ (List.mem_append_left _
      (List.mem_append_left _ hKey))
    rw [hSame.listItems hList, listItems, get_names rt data b key hKey, List.map_map]
    refine (List.map_congr_left fun v hv => ?_).trans (List.map_id _)
    obtain ⟨w, rfl⟩ := hStrings v hv
    rfl
  have hKept : (keptNames rt data key).filter (fun item => !isBlank item) =
      keptNames rt data key := by
    refine List.filter_eq_self.mpr fun v hv => ?_
    obtain ⟨w, rfl⟩ := hStrings v hv
    rw [isBlank, decide_eq_false (strip_normalize hLower w)]
    rfl
  have hNames : (keptNames rt data key).map
      (fun item => Value.str (normalize_protocol_name rt item)) = keptNames rt data key := by
    refine (List.map_congr_left fun v hv => ?_).trans (List.map_id _)
    obtain ⟨w, rfl⟩ := hStrings v hv
    rw [normalize_stored hLower]
    rfl
  rw [keptNames, hItems, hKept, hNames]
  exact unique_entries hEntries hNodup

theorem numbers_twice (hSame : SameFields (normalCriteria rt data b).entries data')
    (hKey : key ∈ NUMBER_LIST_KEYS) : intField rt data' key = intField rt data key := by
  have hGet := (hSame.lists key (number_mem hKey)).trans (get_numbers rt data b key hKey)
  have hNumbers : ((intField rt data key).map .int).filterMap (Value.toInt? rt) =
      intField rt data key := by
    rw [List.filterMap_map]
    exact List.filterMap_some
  have hNodup : (intField rt data key).Nodup :=
    nodup_unique_ordered fun i _ => beq_self_eq_true i
  rw [intField, hGet]
  dsimp only
  rw [hNumbers]
  exact unique_ordered_eq_self hNodup fun i _ j _ hEq => beq_iff_eq.mp hEq

theorem kept_strings {items : List String} (hItems : listItems data key = items.map .str)
    (hSome : ∀ s ∈ items, strip s ≠ "") (hNodup : items.Nodup) :
    keptItems data key = items.map .str := by
  have hKept : (items.map Value.str).filter (fun item => !isBlank item) = items.map .str := by
    refine List.filter_eq_self.mpr fun v hv => ?_
    obtain ⟨s, hs, rfl⟩ := List.mem_map.mp hv
    rw [isBlank, decide_eq_false (hSome s hs)]
    rfl
  rw [keptItems, hItems, hKept]
  refine unique_entries (fun v hv => ?_) (hNodup.map fun s t hEq => Value.str.inj hEq)
  obtain ⟨s, -, rfl⟩ := List.mem_map.mp hv
  rfl

theorem flags_twice (hUpper : rt.UppersAscii)
    (hSame : SameFields (normalCriteria rt data b).entries data') (hKey : key ∈ FLAG_KEYS) :
    storedFlags rt data' key = storedFlags rt data key := by
  have hItems : listItems data' key = (storedFlags rt data key).map .str := by
    rw [hSame.listItems (flag_mem hKey), listItems, get_flags rt data b key hKey]
  have hFlag : ∀ flag ∈ storedFlags rt data key, flag ∈ TCP_FLAGS :=
    fun flag hFlag => (mem_flagSet.mp hFlag).1
  have hSome : ∀ flag ∈ storedFlags rt data key, strip flag ≠ "" := fun flag hMem =>
    (by decide : ∀ flag ∈ TCP_FLAGS, strip flag ≠ "") flag (hFlag flag hMem)
  have hNodup : (storedFlags rt data key).Nodup :=
    List.Nodup.filter _ (by decide : TCP_FLAGS.Nodup)
  have hParsed : ((storedFlags rt data key).map Value.str).flatMap (parse_tcp_flags_value rt) =
      storedFlags rt data key := by
    rw [List.flatMap_map]
    refine (List.flatMap_congr fun flag hMem => ?_).trans (List.flatMap_singleton' _)
    exact parse_flag hUpper (hFlag flag hMem)
  rw [storedFlags, kept_strings hItems hSome hNodup, hParsed]
  exact flagSet_flagSet _

theorem storedText_twice (hLower : rt.LowersText) (hUpper : rt.UppersAscii) {kind : TextKind}
    {item : Value} (hSome : strip (item.toText rt) ≠ "")
    (hHex : kind = .hex → HexEntry rt item ∧ strip (storedText rt .hex item) =
      storedText rt .hex item) :
    strip (storedText rt kind item) ≠ "" ∧
      storedText rt kind (.str (storedText rt kind item)) = storedText rt kind item := by
  cases kind with
  | pattern =>
    refine ⟨?_, strip_strip _⟩
    rw [storedText, strip_strip]
    exact hSome
  | address =>
    refine ⟨?_, lower_stored hLower _⟩
    rw [storedText, strip_stored hLower, Ne, rt.lower_eq_empty]
    exact hSome
  | literal => exact ⟨hSome, rfl⟩
  | hex =>
    obtain ⟨hEntry, hTrimmed⟩ := hHex rfl
    refine ⟨hEntry.some, ?_⟩
    have hRead := (hEntry.read hLower).1
    rw [← hTrimmed] at hRead
    exact hRead.trans hTrimmed
  | flags =>
    obtain ⟨hParsed, hStrip, hText⟩ := parse_tcp_flag_spec hUpper item
    refine ⟨fun hEmpty => hText (hStrip.symm.trans hEmpty), ?_⟩
    have hSame : parse_tcp_flags_value rt (.str (tcp_flag_spec rt item)) =
        parse_tcp_flags_value rt item := hParsed
    rw [storedText, storedText, tcp_flag_spec, hSame, tcp_flag_spec]

theorem texts_twice (hLower : rt.LowersText) (hUpper : rt.UppersAscii) (hPlain : PlainData data)
    (hSame : SameFields (normalCriteria rt data b).entries data') {kind : TextKind}
    (hKey : (kind, key) ∈ TEXT_KEYS)
    (hApart : ∀ item ∈ listItems data key, ∀ item' ∈ listItems data key, isBlank item = false →
      isBlank item' = false → storedText rt kind item = storedText rt kind item' → item = item')
    (hHex : kind = .hex → ∀ item ∈ listItems data key, isBlank item = false →
      HexEntry rt item ∧ strip (storedText rt .hex item) = storedText rt .hex item) :
    storedTexts rt data' kind key = storedTexts rt data kind key := by
  have hList := text_mem hKey
  have hItems : listItems data' key = (storedTexts rt data kind key).map .str := by
    rw [hSame.listItems hList, listItems, get_texts rt data b (kind, key) hKey]
  have hTwice : ∀ item ∈ keptItems data key, strip (storedText rt kind item) ≠ "" ∧
      storedText rt kind (.str (storedText rt kind item)) = storedText rt kind item := by
    intro item hItem
    obtain ⟨hMem, hBlank⟩ := (mem_keptItems hPlain hList).mp hItem
    exact storedText_twice hLower hUpper (mem_nonblank_kept hPlain hList hItem)
      fun hKind => hHex hKind item hMem hBlank
  have hNodup : (storedTexts rt data kind key).Nodup := by
    refine List.Nodup.map_on ?_ (nodup_entries fun v hv => ?_)
    · intro item hItem item' hItem' hEq
      obtain ⟨hMem, hBlank⟩ := (mem_keptItems hPlain hList).mp hItem
      obtain ⟨hMem', hBlank'⟩ := (mem_keptItems hPlain hList).mp hItem'
      exact hApart item hMem item' hMem' hBlank hBlank' hEq
    · exact (hPlain key hList).2 v (List.mem_of_mem_filter hv)
  have hSome : ∀ s ∈ storedTexts rt data kind key, strip s ≠ "" := by
    intro s hs
    obtain ⟨item, hItem, rfl⟩ := List.mem_map.mp hs
    exact (hTwice item hItem).1
  rw [storedTexts, kept_strings hItems hSome hNodup, List.map_map]
  refine (List.map_congr_left fun s hs => ?_).trans (List.map_id _)
  obtain ⟨item, hItem, rfl⟩ := List.mem_map.mp hs
  exact (hTwice item hItem).2

theorem group_by_twice (hLower : rt.LowersText) (v : Value) :
    group_by_spec rt (.str (group_by_spec rt v)) = group_by_spec rt v := by
  have hChoice : ∀ choice ∈ GROUP_BY_CHOICES, rt.lower (strip choice) = choice := by
    intro choice hMem
    have hAll : ∀ choice ∈ GROUP_BY_CHOICES, strip choice = choice ∧
        (choice.toList.all fun c => decide (c.toNat < 128)) = true ∧
        String.ofList (choice.toList.map Char.toLower) = choice := by
      decide
    obtain ⟨hStrip, hLetters, hLowered⟩ := hAll choice hMem
    rw [hStrip, hLower.ascii choice fun c hc =>
      of_decide_eq_true (List.all_eq_true.mp hLetters c hc), hLowered]
  have hMem : group_by_spec rt v ∈ GROUP_BY_CHOICES := by
    rw [group_by_spec]
    split
    · assumption
    · decide
  generalize group_by_spec rt v = choice at hMem
  rw [group_by_spec, text_str, hChoice choice hMem]
  exact if_pos hMem

/-- Fields whose stored entries are read back as they are stored. -/
def MatchFields.Settled (rt : Runtime) (fields : MatchFields) : Prop :=
  fields.CleanHex rt ∧ fields.Apart rt

theorem criteria_twice (hLower : rt.LowersText) (hUpper : rt.UppersAscii) {fields : MatchFields}
    (hSettled : fields.Settled rt) (hFields : SameFields fields.entries data)
    (hSame : SameFields (normalCriteria rt data b).entries data') :
    normalizeCriteria rt data' = .ok (normalCriteria rt data b) := by
  have hPlain := hFields.plainData fields.plainData
  have hNames : ∀ key ∈ NAME_KEYS, keptNames rt data' key = keptNames rt data key :=
    fun key hKey => names_twice hLower hSame hKey
  have hNumbers : ∀ key ∈ NUMBER_LIST_KEYS, intField rt data' key = intField rt data key :=
    fun key hKey => numbers_twice hSame hKey
  have hFlags : ∀ key ∈ FLAG_KEYS,
      flagSet ((keptItems data' key).flatMap (parse_tcp_flags_value rt)) =
        flagSet ((keptItems data key).flatMap (parse_tcp_flags_value rt)) :=
    fun key hKey => flags_twice hUpper hSame hKey
  have hTexts : ∀ list ∈ TEXT_KEYS,
      storedTexts rt data' list.1 list.2 = storedTexts rt data list.1 list.2 := by
    intro list hList
    obtain ⟨kind, key⟩ := list
    have hItems : listItems data key = listItems fields.entries key :=
      hFields.listItems (text_mem hList)
    refine texts_twice hLower hUpper hPlain hSame hList ?_ ?_
    · rw [hItems]
      exact hSettled.2.texts (kind, key) hList
    · rw [hItems]
      rintro rfl item hItem hBlank
      have hKey : key ∈ HEX_KEYS := by
        have hAll : ∀ list ∈ TEXT_KEYS, list.1 = .hex → list.2 ∈ HEX_KEYS := by decide
        exact hAll _ hList rfl
      exact ⟨hSettled.1 key hKey item hItem hBlank, hSettled.2.hexes key hKey item hItem hBlank⟩
  have hSwitch : boolField rt data' "request_only" false = .ok b := by
    rw [boolField, Value.has, Value.get, hSame.request_only]
    rfl
  have hIntegers : ∀ key ∈ INTEGER_KEYS, Value.get data' key =
      Value.get (normalCriteria rt data b).entries key := hSame.integers
  simp only [NAME_KEYS, List.forall_mem_cons, List.not_mem_nil, false_imp_iff, implies_true,
    and_true] at hNames
  simp only [NUMBER_LIST_KEYS, List.forall_mem_cons, List.not_mem_nil, false_imp_iff, implies_true,
    and_true] at hNumbers
  simp only [FLAG_KEYS, List.forall_mem_cons, List.not_mem_nil, false_imp_iff, implies_true,
    and_true] at hFlags
  simp only [TEXT_KEYS, List.forall_mem_cons, List.not_mem_nil, false_imp_iff, implies_true,
    and_true] at hTexts
  simp only [INTEGER_KEYS, List.forall_mem_cons, List.not_mem_nil, false_imp_iff, implies_true,
    and_true] at hIntegers
  obtain ⟨hMin, hMax, hText, hCount, hWindow⟩ := hIntegers
  have hGroup : group_by_spec rt (Value.get data' "group_by") =
      group_by_spec rt (Value.get data "group_by") := by
    rw [hSame.group_by]
    exact group_by_twice hLower _
  have hCountTwice : max 0 ((Value.get data' "count_threshold").safe_int rt 0) =
      max 0 ((Value.get data "count_threshold").safe_int rt 0) := by
    rw [hCount]
    exact max_eq_right (le_max_left _ _)
  have hWindowTwice : max 0 ((Value.get data' "window_seconds").safe_int rt 0) =
      max 0 ((Value.get data "window_seconds").safe_int rt 0) := by
    rw [hWindow]
    exact max_eq_right (le_max_left _ _)
  rw [normalizeCriteria_plain (hSame.plainData (plainData_entries rt b)), hSwitch]
  refine congrArg Except.ok ?_
  rw [normalCriteria, hGroup, hCountTwice, hWindowTwice, hMin, hMax, hText]
  simp only [hNames, hNumbers, hFlags, hTexts]
  rfl

end Twice

/-! ## The levels of a stored match -/

theorem Match.dataList_eq (ms : List Match) :
    Match.dataList ms = (ms.map Match.data).map .dict := by
  induction ms with
  | nil => rfl
  | cons m rest ih => rw [Match.dataList, ih, List.map_cons, List.map_cons]

theorem entries_flat (c : Criteria) :
    ∀ key ∈ "conditions" :: CONDITION_KEYS, Value.has c.entries key = false := by
  simp only [CONDITION_KEYS, List.forall_mem_cons, List.not_mem_nil, false_imp_iff, implies_true,
    and_true]
  exact ⟨rfl, rfl, rfl, rfl⟩

section Levels

variable {rt : Runtime} (hLower : rt.LowersText) (hUpper : rt.UppersAscii)

include hLower hUpper

theorem node_twice {fields : MatchFields} (hSettled : fields.Settled rt)
    {data : List (String × Value)} (hFields : SameFields fields.entries data) {c : Criteria}
    (hStored : normalizeCriteria rt data = .ok c) (all any noneOf : List Value) :
    normalizeCriteria rt (conditionEntries c.entries all any noneOf) = .ok c := by
  rw [normalizeCriteria_plain (hFields.plainData fields.plainData)] at hStored
  cases hSwitch : boolField rt data "request_only" false with
  | error e =>
    rw [hSwitch] at hStored
    cases hStored
  | ok b =>
    rw [hSwitch] at hStored
    injection hStored with hStored
    subst hStored
    exact criteria_twice hLower hUpper hSettled hFields (sameFields_conditions _ _ _ _)

theorem match_twice (levels : Nat) : ∀ {t : MatchTree} {m : Match},
    t.AtLevels (MatchFields.Settled rt) levels → normalize_match rt levels t.data = .ok m →
      normalize_match rt levels m.data = .ok m := by
  induction levels with
  | zero =>
    rintro ⟨fields, all, any, noneOf⟩ m hSettled hStored
    rw [normalize_match, bind_eq_ok] at hStored
    obtain ⟨c, hCriteria, hNode⟩ := hStored
    cases pure_eq_ok.mp hNode
    rw [normalize_match, bind_eq_ok]
    exact ⟨c, node_twice hLower hUpper hSettled (sameFields_conditions _ _ _ _) hCriteria _ _ _,
      rfl⟩
  | succ levels ih =>
    rintro ⟨fields, all, any, noneOf⟩ m ⟨hSettled, hAll, hAny, hNone⟩ hStored
    obtain ⟨hData, hItemsAll, hItemsAny, hItemsNone⟩ := node_items fields all any noneOf
    have hList : ∀ {trees : List MatchTree} {ms : List Match},
        (∀ t ∈ trees, t.AtLevels (MatchFields.Settled rt) levels) →
          (trees.map MatchTree.data).mapM (normalize_match rt levels) = .ok ms →
            (ms.map Match.data).mapM (normalize_match rt levels) = .ok ms := by
      intro trees ms hTrees hMs
      have hPairs := Store.mapM_ok.mp hMs
      rw [List.forall₂_map_left_iff] at hPairs
      rw [Store.mapM_ok, List.forall₂_map_left_iff, List.forall₂_same]
      clear hMs
      induction hPairs with
      | nil => exact fun _ hMem => absurd hMem List.not_mem_nil
      | cons hHead _ ihTail =>
        rw [List.forall_mem_cons]
        exact ⟨ih (hTrees _ List.mem_cons_self) hHead,
          ihTail fun t ht => hTrees t (List.mem_cons_of_mem _ ht)⟩
    rw [hData, normalize_match] at hStored
    simp only [hItemsAll, hItemsAny, hItemsNone, bind_eq_ok] at hStored
    obtain ⟨c, hCriteria, allOut, hAllOut, anyOut, hAnyOut, noneOut, hNoneOut, hNode⟩ := hStored
    cases pure_eq_ok.mp hNode
    obtain ⟨hOutAll, hOutAny, hOutNone⟩ := conditionItems_entries (entries_flat c)
      (allOut.map Match.data) (anyOut.map Match.data) (noneOut.map Match.data)
    rw [Match.data, Match.dataList_eq, Match.dataList_eq, Match.dataList_eq, normalize_match]
    simp only [hOutAll, hOutAny, hOutNone, bind_eq_ok]
    exact ⟨c, node_twice hLower hUpper hSettled (sameFields_conditions _ _ _ _) hCriteria _ _ _,
      allOut, hList hAll hAllOut, anyOut, hList hAny hAnyOut, noneOut, hList hNone hNoneOut, rfl⟩

end Levels

/-! ## The law of the normalizer -/

/-- The normalizer rejects a tree, or what it stores is read as the tree is, down to the fourth
level of conditions and with thresholds from zero on; and it stores its own result as it is, if no
two entries of a list are stored as one text. -/
theorem normalize_match_law (env : Env) (hLower : env.LowersText) (hUpper : env.UppersAscii)
    (t : MatchTree) (hHex : t.AtLevels (MatchFields.CleanHex env.toRuntime) MATCH_LEVELS) :
    (∃ message, normalize_match env.toRuntime MATCH_LEVELS t.data = .error message) ∨
      ∃ m, normalize_match env.toRuntime MATCH_LEVELS t.data = .ok m ∧
        (∀ enabled packet packet_text, rule_matches_packet env enabled m packet packet_text =
          rule_matches_packet env enabled ((t.read env.toRuntime).bounded MATCH_LEVELS) packet
            packet_text) ∧
        (t.AtLevels (MatchFields.Settled env.toRuntime) MATCH_LEVELS →
          normalize_match env.toRuntime MATCH_LEVELS m.data = .ok m) := by
  cases hStored : normalize_match env.toRuntime MATCH_LEVELS t.data with
  | error message => exact Or.inl ⟨message, rfl⟩
  | ok m =>
    refine Or.inr ⟨m, rfl, fun enabled packet packet_text => ?_,
      fun hSettled => match_twice hLower hUpper MATCH_LEVELS hSettled hStored⟩
    rw [rule_matches_packet, rule_matches_packet]
    exact congrArg (enabled && ·)
      (normalize_reads hLower hUpper packet packet_text MATCH_LEVELS hHex hStored)

theorem Runtime.lowersText_ascii : Runtime.ascii.LowersText where
  ascii := Runtime.lowersAscii_ascii
  trimmed := strip_lower_ascii
  settled s t h := by
    have hLetters : t.toList.map Char.toLower = t.toList := by
      refine (List.map_congr_left fun c hc => ?_).trans (List.map_id _)
      have hLowered := h c hc
      rw [Runtime.ascii, String.toList_ofList] at hLowered
      obtain ⟨d, -, rfl⟩ := List.mem_map.mp hLowered
      exact toLower_toLower d
    show String.ofList (t.toList.map Char.toLower) = t
    rw [hLetters, String.ofList_toList]

def tlsFields : MatchFields where
  entries := [("protocols", .list [.str " TCP "]), ("ports", .list [.str "443", .int 8443]),
    ("payload_prefix_hex", .list [.str "0x16"])]
  lists := by decide
  integers := by decide
  request_only := by decide
  flat := by decide

def tcpRuleFields : MatchFields where
  entries := [("protocols", .list [.str "tcp"])]
  lists := by decide
  integers := by decide
  request_only := by decide
  flat := by decide

theorem tlsFields_settled : tlsFields.Settled Runtime.ascii := by
  have hPrefix : ∀ key ∈ HEX_KEYS, ∀ item ∈ listItems tlsFields.entries key,
      item = .str "0x16" := by
    intro key hKey item hItem
    rcases List.mem_pair.mp hKey with rfl | rfl
    · exact List.mem_singleton.mp hItem
    · cases hItem
  have hFew : ∀ list ∈ TEXT_KEYS, (listItems tlsFields.entries list.2).length ≤ 1 := by
    decide +kernel
  refine ⟨fun key hKey item hItem _ => ?_, ⟨fun list hList item hItem item' hItem' _ _ _ => ?_,
    fun key hKey item hItem _ => ?_⟩⟩
  · rw [hPrefix key hKey item hItem]
    exact ⟨by decide, by decide, by decide⟩
  · obtain ⟨i, hi, rfl⟩ := List.getElem_of_mem hItem
    obtain ⟨j, hj, rfl⟩ := List.getElem_of_mem hItem'
    have hShort := hFew list hList
    have hSame : i = j := by omega
    subst hSame
    rfl
  · rw [hPrefix key hKey item hItem]
    decide

/-- A TLS rule is stored with trimmed names, numbers and a prefix without a mark. -/
theorem normalize_match_tls :
    ∃ m, normalize_match Runtime.ascii MATCH_LEVELS (MatchTree.node tlsFields [] [] []).data =
        .ok m ∧ normalize_match Runtime.ascii MATCH_LEVELS m.data = .ok m := by
  have hSettled := tlsFields_settled
  have hLaw := normalize_match_law Env.ascii Runtime.lowersText_ascii Runtime.uppersAscii_ascii
    (.node tlsFields [] [] []) ⟨hSettled.1, nofun, nofun, nofun⟩
  rcases hLaw with ⟨message, hError⟩ | ⟨m, hStored, -, hTwice⟩
  · have hOk : (normalize_match Runtime.ascii MATCH_LEVELS
        (MatchTree.node tlsFields [] [] []).data).isOk = true := by decide +kernel
    have hError : normalize_match Runtime.ascii MATCH_LEVELS
        (MatchTree.node tlsFields [] [] []).data = .error message := hError
    rw [hError] at hOk
    cases hOk
  · exact ⟨m, hStored, hTwice ⟨hSettled, nofun, nofun, nofun⟩⟩

def excluding : Nat → MatchTree
  | 0 => .node tcpRuleFields [] [] []
  | n + 1 => .node tcpRuleFields [] [] [excluding n]

theorem excluding_clean (levels : Nat) :
    ∀ n, (excluding n).AtLevels (MatchFields.CleanHex Runtime.ascii) levels := by
  have hClean : tcpRuleFields.CleanHex Runtime.ascii := by
    intro key hKey item hItem
    rcases List.mem_pair.mp hKey with rfl | rfl
    · cases hItem
    · cases hItem
  induction levels with
  | zero =>
    intro n
    cases n <;> exact hClean
  | succ levels ih =>
    intro n
    cases n with
    | zero => exact ⟨hClean, nofun, nofun, nofun⟩
    | succ n =>
      refine ⟨hClean, nofun, nofun, fun t ht => ?_⟩
      cases List.mem_singleton.mp ht
      exact ih n

/-- Of five exclusions around a condition the last is lost, and the rule fires where it did not. -/
theorem deep_condition_lost : ¬∀ (env : Env), env.LowersText → env.UppersAscii →
    ∀ t : MatchTree, (∃ message, normalize_match env.toRuntime MATCH_LEVELS t.data =
        .error message) ∨
      ∃ m, normalize_match env.toRuntime MATCH_LEVELS t.data = .ok m ∧
        (∀ packet packet_text, rule_matches_packet env true m packet packet_text =
          rule_matches_packet env true (t.read env.toRuntime) packet packet_text) ∧
        normalize_match env.toRuntime MATCH_LEVELS m.data = .ok m := by
  intro hAll
  rcases hAll Env.ascii Runtime.lowersText_ascii Runtime.uppersAscii_ascii (excluding 5) with
    ⟨message, hError⟩ | ⟨m, hStored, hSame, -⟩
  · have hOk : (normalize_match Runtime.ascii MATCH_LEVELS (excluding 5).data).isOk = true := by
      decide +kernel
    have hError : normalize_match Runtime.ascii MATCH_LEVELS (excluding 5).data =
        .error message := hError
    rw [hError] at hOk
    cases hOk
  · have hPacket := hSame (fun key => if key = "proto" then .str "tcp" else .null) ""
    have hBounded : ReadsAs Env.ascii (fun key => if key = "proto" then .str "tcp" else .null) "" m
        (((excluding 5).read Runtime.ascii).bounded MATCH_LEVELS) := by
      exact normalize_reads Runtime.lowersText_ascii Runtime.uppersAscii_ascii _ _ MATCH_LEVELS
        (excluding_clean MATCH_LEVELS 5) hStored
    rw [rule_matches_packet, hBounded] at hPacket
    revert hPacket
    decide +kernel

end Sniff4Hound
