import Sniff4Hound.Detection.NormalForm

/-!
# Normalized matches

By induction over the levels of nesting: what `normalize_match` stores of a tree is read by the
matcher as the tree itself is, down to the fourth level of conditions (`normalize_reads`).
Conditions below that level are dropped, and an exclusion around a dropped condition lets more
through (`deep_condition_lost`).
-/

namespace Sniff4Hound

/-! ## The dictionary of a tree -/

section Entries

variable {entries : List (String × Value)} {key : String} (all any noneOf : List Value)

theorem lookup_conditionEntries (hKey : key ∉ CONDITION_KEYS) :
    (conditionEntries entries all any noneOf).lookup key = entries.lookup key := by
  simp only [CONDITION_KEYS, List.mem_cons, List.not_mem_nil, or_false, not_or] at hKey
  obtain ⟨hAll, hAny, hNone⟩ := hKey
  rw [conditionEntries, List.lookup_append]
  simp only [List.lookup_cons, List.lookup_nil, beq_false_of_ne hAll, beq_false_of_ne hAny,
    beq_false_of_ne hNone]
  exact Option.or_none

theorem get_conditionEntries (hKey : key ∉ CONDITION_KEYS) :
    Value.get (conditionEntries entries all any noneOf) key = Value.get entries key := by
  rw [Value.get, Value.get, lookup_conditionEntries all any noneOf hKey]

theorem get_conditions {entries : List (String × Value)}
    (hFlat : ∀ key ∈ CONDITION_KEYS, Value.has entries key = false) :
    Value.get (conditionEntries entries all any noneOf) "all" = .list all ∧
      Value.get (conditionEntries entries all any noneOf) "any" = .list any ∧
      Value.get (conditionEntries entries all any noneOf) "none" = .list noneOf := by
  have hLookup : ∀ key ∈ CONDITION_KEYS, entries.lookup key = none := by
    intro key hKey
    have hHas := hFlat key hKey
    rw [Value.has, Option.isSome_eq_false_iff, Option.isNone_iff_eq_none] at hHas
    exact hHas
  have hGet : ∀ key ∈ CONDITION_KEYS, (conditionEntries entries all any noneOf).lookup key =
      [("all", Value.list all), ("any", Value.list any), ("none", Value.list noneOf)].lookup key := by
    intro key hKey
    rw [conditionEntries, List.lookup_append, hLookup key hKey, Option.none_or]
  simp only [Value.get, hGet _ (by decide : "all" ∈ CONDITION_KEYS),
    hGet _ (by decide : "any" ∈ CONDITION_KEYS), hGet _ (by decide : "none" ∈ CONDITION_KEYS)]
  exact ⟨rfl, rfl, rfl⟩

end Entries

structure SameFields (data data' : List (String × Value)) : Prop where
  lists : ∀ key ∈ LIST_KEYS, Value.get data' key = Value.get data key
  integers : ∀ key ∈ INTEGER_KEYS, Value.get data' key = Value.get data key
  request_only : data'.lookup "request_only" = data.lookup "request_only"
  group_by : Value.get data' "group_by" = Value.get data "group_by"

theorem sameFields_conditions (entries : List (String × Value)) (all any noneOf : List Value) :
    SameFields entries (conditionEntries entries all any noneOf) where
  lists key hKey := get_conditionEntries all any noneOf
    ((by decide : ∀ key ∈ LIST_KEYS, key ∉ CONDITION_KEYS) key hKey)
  integers key hKey := get_conditionEntries all any noneOf
    ((by decide : ∀ key ∈ INTEGER_KEYS, key ∉ CONDITION_KEYS) key hKey)
  request_only := lookup_conditionEntries all any noneOf (by decide)
  group_by := get_conditionEntries all any noneOf (by decide)

section Fields

variable {data data' : List (String × Value)}

theorem SameFields.listItems (h : SameFields data data') {key : String} (hKey : key ∈ LIST_KEYS) :
    Sniff4Hound.listItems data' key = Sniff4Hound.listItems data key := by
  rw [Sniff4Hound.listItems, Sniff4Hound.listItems, h.lists key hKey]

theorem SameFields.plainData (h : SameFields data data') (hPlain : PlainData data) :
    PlainData data' := by
  intro key hKey
  rw [h.listItems hKey, h.lists key hKey]
  exact hPlain key hKey

theorem SameFields.readCriteria (h : SameFields data data') (rt : Runtime) :
    Sniff4Hound.readCriteria rt data' = Sniff4Hound.readCriteria rt data := by
  have hItems : ∀ key ∈ LIST_KEYS, Sniff4Hound.listItems data' key = Sniff4Hound.listItems data key :=
    fun key hKey => h.listItems hKey
  have hIntegers := h.integers
  have hSwitch : Value.get data' "request_only" = Value.get data "request_only" := by
    rw [Value.get, Value.get, h.request_only]
  simp only [LIST_KEYS, NAME_KEYS, NUMBER_LIST_KEYS, TEXT_KEYS, FLAG_KEYS, List.map_cons,
    List.map_nil, List.cons_append, List.nil_append, List.forall_mem_cons, List.not_mem_nil,
    false_imp_iff, implies_true, and_true] at hItems
  simp only [INTEGER_KEYS, List.forall_mem_cons, List.not_mem_nil, false_imp_iff, implies_true,
    and_true] at hIntegers
  simp only [Sniff4Hound.readCriteria, readNames, readNumbers, readTexts, hItems, hIntegers,
    hSwitch]

end Fields

namespace MatchFields

variable (fields : MatchFields)

theorem plainData : PlainData fields.entries := by
  intro key hKey
  have hGiven := fields.lists key hKey
  rw [listItems]
  cases hHas : Value.has fields.entries key with
  | false =>
    rw [Value.has, Option.isSome_eq_false_iff, Option.isNone_iff_eq_none] at hHas
    have hNull : Value.get fields.entries key = .null := by
      rw [Value.get, hHas]
      rfl
    rw [hNull]
    exact ⟨Or.inr rfl, fun _ hItem => absurd hItem List.not_mem_nil⟩
  | true =>
    have hListing := hGiven hHas
    cases hGet : Value.get fields.entries key with
    | list items =>
      rw [hGet] at hListing
      exact ⟨Or.inl rfl, List.all_eq_true.mp hListing⟩
    | _ =>
      rw [hGet] at hListing
      cases hListing

theorem boolField_truthy {rt : Runtime} {data : List (String × Value)} {b : Bool}
    (hSame : data.lookup "request_only" = fields.entries.lookup "request_only")
    (h : boolField rt data "request_only" false = .ok b) :
    (Value.get data "request_only").truthy = b := by
  have hGiven := fields.request_only
  rw [Value.has, Value.get, ← hSame] at hGiven
  rw [boolField, Value.has] at h
  rw [Value.get] at h ⊢
  cases hLookup : data.lookup "request_only" with
  | none =>
    rw [hLookup] at h
    injection h with h
  | some v =>
    rw [hLookup] at h hGiven
    have hSwitch : v.isSwitch = true := hGiven rfl
    have hCoerce : coerce_bool rt v "request_only" = .ok b := h
    show v.truthy = b
    cases v with
    | bool b' =>
      injection hCoerce with hCoerce
    | int i =>
      by_cases hZero : i = 0
      · subst hZero
        injection hCoerce with hCoerce
      by_cases hOne : i = 1
      · subst hOne
        injection hCoerce with hCoerce
      · have hError : coerce_bool rt (.int i) "request_only" =
            .error ("request_only" ++ " must be a boolean") := by
          unfold coerce_bool
          split <;> simp_all
        rw [hError] at hCoerce
        cases hCoerce
    | _ => cases hSwitch

end MatchFields

/-! ## The conditions of a tree -/

namespace MatchTree

theorem dataList_eq (trees : List MatchTree) :
    dataList trees = trees.map fun t => .dict t.data := by
  induction trees with
  | nil => rfl
  | cons t rest ih => rw [dataList, ih, List.map_cons]

theorem readList_eq (rt : Runtime) (trees : List MatchTree) :
    readList rt trees = trees.map (read rt) := by
  induction trees with
  | nil => rfl
  | cons t rest ih => rw [readList, ih, List.map_cons]

end MatchTree

theorem conditionItems_list {data : List (String × Value)} {key : String}
    {dictionaries : List (List (String × Value))}
    (hGet : Value.get data key = .list (dictionaries.map .dict))
    (hNone : Value.get data "conditions" = .null) : conditionItems data key = dictionaries := by
  unfold conditionItems
  rw [hNone]
  dsimp only
  rw [ite_self, hGet]
  dsimp only
  rw [List.filterMap_map]
  exact List.filterMap_some

theorem conditionItems_entries {entries : List (String × Value)}
    (hFlat : ∀ key ∈ "conditions" :: CONDITION_KEYS, Value.has entries key = false)
    (all any noneOf : List (List (String × Value))) :
    let data := conditionEntries entries (all.map .dict) (any.map .dict) (noneOf.map .dict)
    conditionItems data "all" = all ∧ conditionItems data "any" = any ∧
      conditionItems data "none" = noneOf := by
  obtain ⟨hAll, hAny, hNoneOf⟩ := get_conditions (all.map .dict) (any.map .dict) (noneOf.map .dict)
    fun key hKey => hFlat key (List.mem_cons_of_mem _ hKey)
  have hNone : Value.get (conditionEntries entries (all.map .dict) (any.map .dict)
      (noneOf.map .dict)) "conditions" = .null := by
    have hHas := hFlat "conditions" List.mem_cons_self
    rw [Value.has, Option.isSome_eq_false_iff, Option.isNone_iff_eq_none] at hHas
    rw [get_conditionEntries _ _ _ (by decide), Value.get, hHas]
    rfl
  exact ⟨conditionItems_list hAll hNone, conditionItems_list hAny hNone,
    conditionItems_list hNoneOf hNone⟩

theorem node_items (fields : MatchFields) (all any noneOf : List MatchTree) :
    let data := conditionEntries fields.entries (all.map (Value.dict ∘ MatchTree.data))
      (any.map (Value.dict ∘ MatchTree.data)) (noneOf.map (Value.dict ∘ MatchTree.data))
    (MatchTree.node fields all any noneOf).data = data ∧
      conditionItems data "all" = all.map MatchTree.data ∧
        conditionItems data "any" = any.map MatchTree.data ∧
          conditionItems data "none" = noneOf.map MatchTree.data := by
  have hItems := conditionItems_entries fields.flat (all.map MatchTree.data)
    (any.map MatchTree.data) (noneOf.map MatchTree.data)
  simp only [List.map_map] at hItems
  refine ⟨?_, hItems⟩
  rw [MatchTree.data, MatchTree.dataList_eq, MatchTree.dataList_eq, MatchTree.dataList_eq]
  rfl

/-! ## The same answers -/

section Reads

variable {env : Env} (hLower : env.LowersText) (hUpper : env.UppersAscii) (packet : Packet)
  (packet_text : String)

theorem all_accept_eq (ms : List Match) :
    all_accept env packet packet_text ms = ms.all (match_accepts env packet packet_text) := by
  induction ms with
  | nil => rfl
  | cons m rest ih => rw [all_accept, ih, List.all_cons]

theorem any_accepts_eq (ms : List Match) :
    any_accepts env packet packet_text ms = ms.any (match_accepts env packet packet_text) := by
  induction ms with
  | nil => rfl
  | cons m rest ih => rw [any_accepts, ih, List.any_cons]

def ReadsAs (env : Env) (packet : Packet) (packet_text : String) (m m' : Match) : Prop :=
  match_accepts env packet packet_text m = match_accepts env packet packet_text m'

theorem lists_read {ms ms' : List Match}
    (h : List.Forall₂ (ReadsAs env packet packet_text) ms ms') :
    all_accept env packet packet_text ms = all_accept env packet packet_text ms' ∧
      any_accepts env packet packet_text ms = any_accepts env packet packet_text ms' ∧
      ms.isEmpty = ms'.isEmpty := by
  rw [all_accept_eq, all_accept_eq, any_accepts_eq, any_accepts_eq]
  induction h with
  | nil => exact ⟨rfl, rfl, rfl⟩
  | cons hHead hTail ih =>
    obtain ⟨hAll, hAny, -⟩ := ih
    rw [ReadsAs] at hHead
    exact ⟨by rw [List.all_cons, List.all_cons, hHead, hAll],
      by rw [List.any_cons, List.any_cons, hHead, hAny], rfl⟩

theorem node_reads {c c' : Criteria} {all all' any any' noneOf noneOf' : List Match}
    (hCriteria : ∀ {all all' any any' : List Match}, all.isEmpty = all'.isEmpty →
      any.isEmpty = any'.isEmpty → criteriaOk env c all any packet packet_text =
        criteriaOk env c' all' any' packet packet_text)
    (hAll : List.Forall₂ (ReadsAs env packet packet_text) all all')
    (hAny : List.Forall₂ (ReadsAs env packet packet_text) any any')
    (hNone : List.Forall₂ (ReadsAs env packet packet_text) noneOf noneOf') :
    ReadsAs env packet packet_text (.node c all any noneOf) (.node c' all' any' noneOf') := by
  obtain ⟨hAllOk, -, hAllEmpty⟩ := lists_read packet packet_text hAll
  obtain ⟨-, hAnyOk, hAnyEmpty⟩ := lists_read packet packet_text hAny
  obtain ⟨-, hNoneOk, -⟩ := lists_read packet packet_text hNone
  rw [ReadsAs, match_accepts, match_accepts, hCriteria hAllEmpty hAnyEmpty, hAllOk, hAnyOk,
    hAnyEmpty, hNoneOk]

include hLower hUpper

theorem fields_read (fields : MatchFields) (hHex : fields.CleanHex env.toRuntime)
    {data : List (String × Value)} (hSame : SameFields fields.entries data) {c : Criteria}
    (hStored : normalizeCriteria env.toRuntime data = .ok c) {all all' any any' : List Match}
    (hAll : all.isEmpty = all'.isEmpty) (hAny : any.isEmpty = any'.isEmpty) :
    criteriaOk env c all any packet packet_text =
      criteriaOk env (readCriteria env.toRuntime fields.entries).counted all' any' packet
        packet_text := by
  have hPlain := hSame.plainData fields.plainData
  have hClean : ∀ key ∈ HEX_KEYS, ∀ item ∈ listItems data key, isBlank item = false →
      HexEntry env.toRuntime item := by
    intro key hKey
    have hText : (TextKind.hex, key) ∈ TEXT_KEYS := by
      rcases List.mem_pair.mp hKey with rfl | rfl
      · decide
      · decide
    rw [hSame.listItems (text_mem hText)]
    exact hHex key hKey
  rw [normalizeCriteria_plain hPlain] at hStored
  cases hSwitch : boolField env.toRuntime data "request_only" false with
  | error e =>
    rw [hSwitch] at hStored
    cases hStored
  | ok b =>
    rw [hSwitch] at hStored
    injection hStored with hStored
    rw [← hStored, ← hSame.readCriteria]
    exact criteriaOk_stored hPlain b hLower hClean hUpper hAll hAny
      (fields.boolField_truthy hSame.request_only hSwitch) packet packet_text

theorem normalize_reads (levels : Nat) : ∀ {t : MatchTree} {m : Match},
    t.AtLevels (MatchFields.CleanHex env.toRuntime) levels →
      normalize_match env.toRuntime levels t.data = .ok m →
        ReadsAs env packet packet_text m ((t.read env.toRuntime).bounded levels) := by
  induction levels with
  | zero =>
    rintro ⟨fields, all, any, noneOf⟩ m hHex hStored
    rw [normalize_match, bind_eq_ok] at hStored
    obtain ⟨c, hCriteria, hNode⟩ := hStored
    cases pure_eq_ok.mp hNode
    exact node_reads packet packet_text
      (fields_read hLower hUpper packet packet_text fields hHex
        (sameFields_conditions _ _ _ _) hCriteria)
      List.Forall₂.nil List.Forall₂.nil List.Forall₂.nil
  | succ levels ih =>
    rintro ⟨fields, all, any, noneOf⟩ m ⟨hHex, hHexAll, hHexAny, hHexNone⟩ hStored
    obtain ⟨hData, hItemsAll, hItemsAny, hItemsNone⟩ := node_items fields all any noneOf
    have hList : ∀ {trees : List MatchTree} {ms : List Match},
        (∀ t ∈ trees, t.AtLevels (MatchFields.CleanHex env.toRuntime) levels) →
          (trees.map MatchTree.data).mapM (normalize_match env.toRuntime levels) = .ok ms →
            List.Forall₂ (ReadsAs env packet packet_text) ms
              ((MatchTree.readList env.toRuntime trees).map (Match.bounded levels)) := by
      intro trees ms hTrees hMs
      have hPairs := Store.mapM_ok.mp hMs
      rw [List.forall₂_map_left_iff] at hPairs
      rw [MatchTree.readList_eq, List.forall₂_map_right_iff, List.forall₂_map_right_iff]
      clear hMs
      induction hPairs with
      | nil => exact List.Forall₂.nil
      | cons hHead _ ihTail =>
        exact List.Forall₂.cons (ih (hTrees _ List.mem_cons_self) hHead)
          (ihTail fun t ht => hTrees t (List.mem_cons_of_mem _ ht))
    rw [hData, normalize_match] at hStored
    simp only [hItemsAll, hItemsAny, hItemsNone, bind_eq_ok] at hStored
    obtain ⟨c, hCriteria, allOut, hAllOut, anyOut, hAnyOut, noneOut, hNoneOut, hNode⟩ := hStored
    cases pure_eq_ok.mp hNode
    exact node_reads packet packet_text
      (fields_read hLower hUpper packet packet_text fields hHex
        (sameFields_conditions _ _ _ _) hCriteria)
      (hList hHexAll hAllOut) (hList hHexAny hAnyOut) (hList hHexNone hNoneOut)

end Reads

end Sniff4Hound
