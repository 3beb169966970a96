import Sniff4Hound.Detection.AnomalyRuns
import Sniff4Hound.Detection.MatchTree

/-!
# The form that matches are stored in

`normalize_match` cleans the lists of a match, drops repeated entries and bounds the nesting. On a
tree of strings and integers it fails for a switch that is no truth value only
(`normalizeCriteria_plain`), and what it stores at one level is read by the matcher as the
level itself is: `hasCriteria_stored` and `criteriaOk_stored`, put together from one lemma for each
kind of list (`stored_addresses`, `stored_numbers`, `stored_names`, `stored_flags`,
`stored_hexes`). The levels below are in `Detection.NormalMatch`.
-/

namespace Sniff4Hound

/-! ## Lists without repetitions -/

section Unique

variable {α : Type*} {eq : α → α → Bool} {values : List α}

theorem unique_ordered_snoc (eq : α → α → Bool) (values : List α) (value : α) :
    unique_ordered eq (values ++ [value]) =
      if (unique_ordered eq values).any (eq value) then unique_ordered eq values
      else unique_ordered eq values ++ [value] := by
  rw [unique_ordered, List.foldl_append]
  rfl

theorem mem_unique_ordered (hEq : ∀ x ∈ values, ∀ y ∈ values, eq x y = true → x = y) {x : α} :
    x ∈ unique_ordered eq values ↔ x ∈ values := by
  refine ⟨mem_of_mem_unique_ordered, ?_⟩
  induction values using List.reverseRecOn with
  | nil => exact fun h => h
  | append_singleton values value ih =>
    intro hx
    have hOld := ih fun x hx y hy => hEq x (List.mem_append_left _ hx) y
      (List.mem_append_left _ hy)
    rw [unique_ordered_snoc]
    rcases List.mem_append.mp hx with hOldMem | hNew
    · split
      · exact hOld hOldMem
      · exact List.mem_append_left _ (hOld hOldMem)
    · cases List.mem_singleton.mp hNew
      split
      · rename_i hAny
        obtain ⟨y, hy, hSame⟩ := List.any_eq_true.mp hAny
        have hMem := mem_of_mem_unique_ordered hy
        rw [hEq x (List.mem_append_right _ List.mem_cons_self) y (List.mem_append_left _ hMem)
          hSame]
        exact hy
      · exact List.mem_append_right _ List.mem_cons_self

theorem nodup_unique_ordered (hRefl : ∀ x ∈ values, eq x x = true) :
    (unique_ordered eq values).Nodup := by
  induction values using List.reverseRecOn with
  | nil => exact List.nodup_nil
  | append_singleton values value ih =>
    have hOld := ih fun x hx => hRefl x (List.mem_append_left _ hx)
    rw [unique_ordered_snoc]
    split
    · exact hOld
    · rename_i hNew
      refine List.nodup_append.mpr ⟨hOld, List.nodup_singleton _, ?_⟩
      intro x hx y hy hSame
      cases List.mem_singleton.mp hy
      subst hSame
      exact hNew (List.any_eq_true.mpr
        ⟨x, hx, hRefl x (List.mem_append_right _ List.mem_cons_self)⟩)

theorem unique_ordered_eq_self (hNodup : values.Nodup)
    (hEq : ∀ x ∈ values, ∀ y ∈ values, eq x y = true → x = y) :
    unique_ordered eq values = values := by
  induction values using List.reverseRecOn with
  | nil => rfl
  | append_singleton values value ih =>
    obtain ⟨hOld, -, hApart⟩ := List.nodup_append.mp hNodup
    rw [unique_ordered_snoc, ih hOld fun x hx y hy => hEq x (List.mem_append_left _ hx) y
      (List.mem_append_left _ hy)]
    refine if_neg ?_
    intro hAny
    obtain ⟨y, hy, hSame⟩ := List.any_eq_true.mp hAny
    have hValue := hEq value (List.mem_append_right _ List.mem_cons_self) y
      (List.mem_append_left _ hy) hSame
    exact hApart y hy value List.mem_cons_self hValue.symm
end Unique

/-! ## Entries -/

theorem isEntry_cases {v : Value} (h : v.isEntry = true) : (∃ s, v = .str s) ∨ ∃ i, v = .int i := by
  cases v with
  | str s => exact Or.inl ⟨s, rfl⟩
  | int i => exact Or.inr ⟨i, rfl⟩
  | _ => cases h

theorem eqv_entry {v w : Value} (hv : v.isEntry = true) (hw : w.isEntry = true) :
    Value.eqv v w = true ↔ v = w := by
  rcases isEntry_cases hv with ⟨s, rfl⟩ | ⟨i, rfl⟩
  · rcases isEntry_cases hw with ⟨t, rfl⟩ | ⟨j, rfl⟩
    · simp [Value.eqv, Value.number?]
    · simp [Value.eqv, Value.number?]
  · rcases isEntry_cases hw with ⟨t, rfl⟩ | ⟨j, rfl⟩
    · simp [Value.eqv, Value.number?]
    · simp [Value.eqv, Value.number?]

theorem strip_toString (i : Int) : strip (toString i) ≠ "" := by
  have hNat : ∀ n : Nat, ∃ c ∈ (toString n).toList, isSpace c = false := by
    intro n
    rw [toList_toString]
    obtain ⟨c, hc⟩ := List.exists_mem_of_ne_nil _ (Nat.toDigits_ne_nil (n := n) (b := 10))
    refine ⟨c, hc, ?_⟩
    have hDigit := Nat.isDigit_of_mem_toDigits (by decide) (by decide) hc
    rw [Char.isDigit, Bool.and_eq_true, decide_eq_true_iff, decide_eq_true_iff, ge_iff_le,
      UInt32.le_iff_toNat_le, UInt32.le_iff_toNat_le] at hDigit
    have hLow : 48 ≤ c.toNat := hDigit.1
    have hHigh : c.toNat ≤ 57 := hDigit.2
    rw [isSpace, Bool.eq_false_iff]
    simp only [ne_eq, Bool.or_eq_true, Bool.and_eq_true, decide_eq_true_iff, beq_iff_eq]
    omega
  cases i with
  | ofNat n =>
    obtain ⟨c, hc, hSpace⟩ := hNat n
    exact strip_ne_empty hc hSpace
  | negSucc n =>
    have hSign : '-' ∈ (toString (Int.negSucc n)).toList := by
      show '-' ∈ ("-" ++ toString (n + 1)).toList
      rw [String.toList_append]
      exact List.mem_append_left _ List.mem_cons_self
    exact strip_ne_empty hSign (by decide)

/-- What a dictionary of a tree has in common with that of a stored match: its lists hold strings
and integers. -/
def PlainData (data : List (String × Value)) : Prop :=
  ∀ key ∈ LIST_KEYS, (Value.get data key = .list (listItems data key) ∨
      Value.get data key = .null) ∧ ∀ item ∈ listItems data key, item.isEntry = true

def keptItems (data : List (String × Value)) (key : String) : List Value :=
  unique_ordered Value.eqv ((listItems data key).filter fun item => !isBlank item)

def keptNames (rt : Runtime) (data : List (String × Value)) (key : String) : List Value :=
  unique_ordered Value.eqv (((listItems data key).filter fun item => !isBlank item).map fun item =>
    .str (normalize_protocol_name rt item))

section Plain

variable {rt : Runtime} {data : List (String × Value)} {key : String}

theorem listItems_null (h : Value.get data key = .null) : listItems data key = [] := by
  rw [listItems, h]

theorem entry_hashable {items : List Value} (h : ∀ item ∈ items, item.isEntry = true) :
    items.filterMap Value.unhashable? = [] := by
  rw [List.filterMap_eq_nil_iff]
  intro item hItem
  rcases isEntry_cases (h item hItem) with ⟨s, rfl⟩ | ⟨i, rfl⟩
  · rfl
  · rfl

theorem listField_items (h : PlainData data) (hKey : key ∈ LIST_KEYS) :
    listField rt data key =
      let kept := (listItems data key).filter fun item => !isBlank item
      let cleaned := if key = "protocols" ∨ key = "exclude_protocols" then
          kept.map fun item => Value.str (normalize_protocol_name rt item)
        else kept
      match cleaned.filterMap Value.unhashable? with
      | name :: _ => .error ("unhashable type: '" ++ name ++ "'")
      | [] => .ok (unique_ordered Value.eqv cleaned) := by
  rw [listField]
  rcases (h key hKey).1 with hList | hNone
  · rewrite [hList]
    rfl
  · rewrite [listItems_null hNone, hNone]
    rfl

theorem listField_plain (h : PlainData data) (hKey : key ∈ LIST_KEYS) (hOther : key ∉ NAME_KEYS) :
    listField rt data key = .ok (keptItems data key) := by
  have hKept : ∀ item ∈ (listItems data key).filter fun item => !isBlank item,
      item.isEntry = true := fun item hItem => (h key hKey).2 item (List.mem_of_mem_filter hItem)
  have hName : ¬(key = "protocols" ∨ key = "exclude_protocols") := by
    intro hEq
    exact hOther (by simpa [NAME_KEYS] using hEq)
  rw [listField_items h hKey]
  dsimp only
  rw [if_neg hName, entry_hashable hKept]
  rfl

theorem listField_names (h : PlainData data) (hKey : key ∈ NAME_KEYS) :
    listField rt data key = .ok (keptNames rt data key) := by
  have hName : key = "protocols" ∨ key = "exclude_protocols" := by
    simpa [NAME_KEYS] using hKey
  have hHashed : (((listItems data key).filter fun item => !isBlank item).map fun item =>
      Value.str (normalize_protocol_name rt item)).filterMap Value.unhashable? = [] := by
    refine entry_hashable fun item hItem => ?_
    obtain ⟨_, -, rfl⟩ := List.mem_map.mp hItem
    rfl
  rw [listField_items h (List.mem_append_left _ (List.mem_append_left _
    (List.mem_append_left _ hKey)))]
  dsimp only
  rw [if_pos hName, hHashed]
  rfl

theorem textField_plain (h : PlainData data) (hKey : key ∈ LIST_KEYS) (hOther : key ∉ NAME_KEYS) :
    textField rt data key = .ok ((keptItems data key).map (Value.toText rt)) := by
  have hText : ∀ item ∈ keptItems data key, strip (item.toText rt) ≠ "" := by
    intro item hItem
    obtain ⟨hMem, hSome⟩ := List.mem_filter.mp (mem_of_mem_unique_ordered hItem)
    rcases isEntry_cases ((h key hKey).2 item hMem) with ⟨s, rfl⟩ | ⟨i, rfl⟩
    · rw [isBlank, Bool.not_eq_true', decide_eq_false_iff_not] at hSome
      exact hSome
    · exact strip_toString i
  have hAll : ((keptItems data key).map (Value.toText rt)).filter (fun s => strip s ≠ "") =
      (keptItems data key).map (Value.toText rt) := by
    rw [List.filter_eq_self]
    intro s hs
    obtain ⟨item, hItem, rfl⟩ := List.mem_map.mp hs
    exact decide_eq_true (hText item hItem)
  rw [textField, listField_plain h hKey hOther]
  exact congrArg Except.ok hAll

end Plain

/-! ## The criteria that are stored -/

def storedTexts (rt : Runtime) (data : List (String × Value)) (kind : TextKind) (key : String) :
    List String :=
  (keptItems data key).map (storedText rt kind)

def normalCriteria (rt : Runtime) (data : List (String × Value)) (request_only : Bool) :
    Criteria where
  protocols := (keptNames rt data "protocols").map (Value.toText rt)
  exclude_protocols := (keptNames rt data "exclude_protocols").map (Value.toText rt)
  ip_versions := intField rt data "ip_versions"
  exclude_ip_versions := intField rt data "exclude_ip_versions"
  eth_types := intField rt data "eth_types"
  exclude_eth_types := intField rt data "exclude_eth_types"
  ports := intField rt data "ports"
  exclude_ports := intField rt data "exclude_ports"
  src_ports := intField rt data "src_ports"
  exclude_src_ports := intField rt data "exclude_src_ports"
  dst_ports := intField rt data "dst_ports"
  exclude_dst_ports := intField rt data "exclude_dst_ports"
  port_regex := storedTexts rt data .pattern "port_regex"
  exclude_port_regex := storedTexts rt data .pattern "exclude_port_regex"
  ips := storedTexts rt data .address "ips"
  exclude_ips := storedTexts rt data .address "exclude_ips"
  ip_regex := storedTexts rt data .pattern "ip_regex"
  exclude_ip_regex := storedTexts rt data .pattern "exclude_ip_regex"
  protocol_regex := storedTexts rt data .pattern "protocol_regex"
  exclude_protocol_regex := storedTexts rt data .pattern "exclude_protocol_regex"
  payload_contains := storedTexts rt data .literal "payload_contains"
  exclude_payload_contains := storedTexts rt data .literal "exclude_payload_contains"
  payload_prefix_hex := storedTexts rt data .hex "payload_prefix_hex"
  exclude_payload_prefix_hex := storedTexts rt data .hex "exclude_payload_prefix_hex"
  payload_regex := storedTexts rt data .pattern "payload_regex"
  payload_regex_exclude := storedTexts rt data .pattern "payload_regex_exclude"
  request_only := request_only
  tcp_flags := storedTexts rt data .flags "tcp_flags"
  tcp_flags_any := flagSet ((keptItems data "tcp_flags_any").flatMap (parse_tcp_flags_value rt))
  tcp_flags_all := flagSet ((keptItems data "tcp_flags_all").flatMap (parse_tcp_flags_value rt))
  icmp_types := intField rt data "icmp_types"
  icmp_codes := intField rt data "icmp_codes"
  arp_opcodes := intField rt data "arp_opcodes"
  min_length := (Value.get data "min_length").safe_int rt 0
  max_length := (Value.get data "max_length").safe_int rt 0
  min_payload_text_length := (Value.get data "min_payload_text_length").safe_int rt 0
  count_threshold := max 0 ((Value.get data "count_threshold").safe_int rt 0)
  window_seconds := max 0 ((Value.get data "window_seconds").safe_int rt 0)
  group_by := group_by_spec rt (Value.get data "group_by")

theorem textFields_plain (rt : Runtime) {data : List (String × Value)} (h : PlainData data) :
    ∀ key ∈ TEXT_KEYS.map Prod.snd ++ FLAG_KEYS,
      textField rt data key = .ok ((keptItems data key).map (Value.toText rt)) ∧
        listField rt data key = .ok (keptItems data key) := by
  intro key hKey
  have hList : key ∈ LIST_KEYS := by
    rw [LIST_KEYS, List.append_assoc]
    exact List.mem_append_right _ hKey
  have hOther : key ∉ NAME_KEYS := by
    revert hKey
    revert key
    decide
  exact ⟨textField_plain h hList hOther, listField_plain h hList hOther⟩

theorem normalizeCriteria_plain {rt : Runtime} {data : List (String × Value)} (h : PlainData data) :
    normalizeCriteria rt data =
      (boolField rt data "request_only" false).map (normalCriteria rt data) := by
  have hTexts := textFields_plain rt h
  simp only [TEXT_KEYS, FLAG_KEYS, List.map_cons, List.map_nil, List.cons_append, List.nil_append,
    List.forall_mem_cons, List.not_mem_nil, false_imp_iff, implies_true, and_true] at hTexts
  rw [normalizeCriteria, listField_names h List.mem_cons_self,
    listField_names h (List.mem_cons_of_mem _ List.mem_cons_self)]
  have hPure {α : Type} (a : α) : (Except.ok a : Except String α) = pure a := rfl
  simp only [hTexts, hPure, pure_bind, List.map_map]
  cases boolField rt data "request_only" false with
  | error e => rfl
  | ok b => rfl

/-! ## What is read of it -/

/-- `str.lower`: what it does to ASCII letters and to blanks, and that it leaves its own characters
alone. -/
structure Runtime.LowersText (rt : Runtime) : Prop where
  ascii : rt.LowersAscii
  trimmed : ∀ s, strip (rt.lower s) = rt.lower (strip s)
  settled : ∀ s t : String, (∀ c ∈ t.toList, c ∈ (rt.lower s).toList) → rt.lower t = t

section Names

variable {rt : Runtime} (hLower : rt.LowersText)

include hLower

theorem lower_stored (s : String) : rt.lower (strip (rt.lower (strip s))) = rt.lower (strip s) := by
  rw [hLower.trimmed, strip_strip]
  exact hLower.settled (strip s) _ fun c hc => hc

theorem strip_stored (s : String) : strip (rt.lower (strip s)) = rt.lower (strip s) := by
  rw [hLower.trimmed, strip_strip]

theorem normalize_stored (v : Value) :
    normalize_protocol_name rt (.str (normalize_protocol_name rt v)) =
      normalize_protocol_name rt v := by
  have hUnknown : rt.lower (strip "unknown") = "unknown" := by
    have hStrip : strip "unknown" = "unknown" := by decide
    have hLetters : ("unknown".toList.all fun c => decide (c.toNat < 128)) = true := by decide
    rw [hStrip, hLower.ascii "unknown" fun c hc =>
      of_decide_eq_true (List.all_eq_true.mp hLetters c hc)]
    decide
  have hText : ∀ name : String, normalize_protocol_name rt (.str name) =
      if rt.lower (strip name) = "" then "unknown" else rt.lower (strip name) := by
    intro name
    rw [normalize_protocol_name, text_str]
  rw [hText, normalize_protocol_name]
  by_cases hNone : rt.lower (strip (v.text rt)) = ""
  · rw [if_pos hNone, hUnknown]
    rfl
  · rw [if_neg hNone, lower_stored hLower, if_neg hNone]

theorem strip_normalize (v : Value) : strip (normalize_protocol_name rt v) ≠ "" := by
  rw [normalize_protocol_name]
  by_cases hNone : rt.lower (strip (v.text rt)) = ""
  · rw [if_pos hNone]
    decide
  · rw [if_neg hNone, strip_stored hLower]
    exact hNone

end Names

section Same

variable {rt : Runtime} {data : List (String × Value)} {key : String} {item : Value}

theorem isBlank_entry (rt : Runtime) (h : item.isEntry = true) :
    isBlank item = decide (strip (item.toText rt) = "") := by
  rcases isEntry_cases h with ⟨s, rfl⟩ | ⟨i, rfl⟩
  · rfl
  · exact (decide_eq_false (strip_toString i)).symm

theorem mem_keptItems (h : PlainData data) (hKey : key ∈ LIST_KEYS) :
    item ∈ keptItems data key ↔ item ∈ listItems data key ∧ isBlank item = false := by
  have hEntry : ∀ item ∈ (listItems data key).filter fun item => !isBlank item,
      item.isEntry = true := fun item hItem => (h key hKey).2 item (List.mem_of_mem_filter hItem)
  rw [keptItems, mem_unique_ordered fun x hx y hy hSame =>
    (eqv_entry (hEntry x hx) (hEntry y hy)).mp hSame, List.mem_filter, Bool.not_eq_true']

theorem kept_texts (h : PlainData data) (hKey : key ∈ LIST_KEYS) :
    SameMembers ((keptItems data key).map (Value.toText rt))
      (nonblank (readTexts rt data key)) := by
  intro s
  rw [nonblank, List.mem_filter, readTexts, List.mem_map, List.mem_map, decide_eq_true_iff]
  constructor
  · rintro ⟨item, hItem, rfl⟩
    obtain ⟨hMem, hSome⟩ := (mem_keptItems h hKey).mp hItem
    rw [isBlank_entry rt ((h key hKey).2 item hMem), decide_eq_false_iff_not] at hSome
    exact ⟨⟨item, hMem, rfl⟩, hSome⟩
  · rintro ⟨⟨item, hMem, rfl⟩, hSome⟩
    refine ⟨item, (mem_keptItems h hKey).mpr ⟨hMem, ?_⟩, rfl⟩
    rw [isBlank_entry rt ((h key hKey).2 item hMem)]
    exact decide_eq_false hSome

def trimmed (patterns : List String) : List String := (patterns.map strip).filter (· ≠ "")

theorem trimmed_nonblank (items : List String) : trimmed items = (nonblank items).map strip := by
  rw [trimmed, nonblank, List.filter_map]
  simp only [Function.comp_def]

theorem trimmed_strip (items : List String) : trimmed (items.map strip) = trimmed items := by
  have hTwice : strip ∘ strip = strip := funext strip_strip
  rw [trimmed, List.map_map, hTwice]
  rfl

theorem nonblank_nonblank (items : List String) : nonblank (nonblank items) = nonblank items :=
  List.filter_eq_self.mpr fun _ hs => (List.mem_filter.mp hs).2

theorem kept_nonblank (h : PlainData data) (hKey : key ∈ LIST_KEYS) :
    SameMembers (nonblank ((keptItems data key).map (Value.toText rt)))
      (nonblank (readTexts rt data key)) := by
  rw [← nonblank_nonblank (readTexts rt data key)]
  exact (kept_texts h hKey).filter _

theorem stored_patterns (h : PlainData data) (hKey : key ∈ LIST_KEYS) :
    SameMembers (trimmed (storedTexts rt data .pattern key)) (trimmed (readTexts rt data key)) := by
  have hStored : storedTexts rt data .pattern key =
      ((keptItems data key).map (Value.toText rt)).map strip := by
    rw [storedTexts, List.map_map]
    rfl
  rw [hStored, trimmed_strip, trimmed_nonblank, trimmed_nonblank]
  exact (kept_nonblank h hKey).map strip

theorem mem_nonblank_kept (h : PlainData data) (hKey : key ∈ LIST_KEYS)
    (hItem : item ∈ keptItems data key) : strip (item.toText rt) ≠ "" := by
  obtain ⟨hMem, hSome⟩ := (mem_keptItems h hKey).mp hItem
  rw [isBlank_entry rt ((h key hKey).2 item hMem), decide_eq_false_iff_not] at hSome
  exact hSome

theorem stored_addresses (hLower : rt.LowersText) (h : PlainData data) (hKey : key ∈ LIST_KEYS) :
    SameMembers
      ((nonblank (storedTexts rt data .address key)).map fun item => rt.lower (strip item))
      ((nonblank (readTexts rt data key)).map fun item => rt.lower (strip item)) := by
  have hAll : nonblank (storedTexts rt data .address key) = storedTexts rt data .address key := by
    refine List.filter_eq_self.mpr fun s hs => decide_eq_true ?_
    obtain ⟨item, hItem, rfl⟩ := List.mem_map.mp hs
    rw [storedText, strip_stored hLower, Ne, rt.lower_eq_empty]
    exact mem_nonblank_kept h hKey hItem
  have hStored : (storedTexts rt data .address key).map (fun item => rt.lower (strip item)) =
      ((keptItems data key).map (Value.toText rt)).map fun item => rt.lower (strip item) := by
    rw [storedTexts, List.map_map, List.map_map]
    exact List.map_congr_left fun item _ => lower_stored hLower (item.toText rt)
  rw [hAll, hStored]
  exact (kept_texts h hKey).map _

theorem stored_literals (rt : Runtime) (h : PlainData data) (hKey : key ∈ LIST_KEYS) :
    SameMembers (nonblank (storedTexts rt data .literal key))
      (nonblank (readTexts rt data key)) :=
  kept_nonblank h hKey

theorem mem_removeHexMarks {c : Char} : ∀ {letters : List Char},
    c ∈ removeHexMarks letters → c ∈ letters := by
  intro letters
  induction letters using removeHexMarks.induct with
  | case1 rest ih =>
    rw [removeHexMarks]
    exact fun h => List.mem_cons_of_mem _ (List.mem_cons_of_mem _ (ih h))
  | case2 c rest hOther ih =>
    rw [removeHexMarks]
    · intro h
      rcases List.mem_cons.mp h with rfl | hRest
      · exact List.mem_cons_self
      · exact List.mem_cons_of_mem _ (ih hRest)
    · exact hOther
  | case3 => exact fun h => h

theorem removeHexMarks_unmarked : ∀ {letters : List Char},
    ¬['0', 'x'] <:+: letters → removeHexMarks letters = letters := by
  intro letters
  induction letters using removeHexMarks.induct with
  | case1 rest ih => exact fun h => absurd ⟨[], rest, rfl⟩ h
  | case2 c rest hOther ih =>
    intro h
    rw [removeHexMarks, ih fun hRest => h (hRest.trans (List.suffix_cons c rest).isInfix)]
    exact hOther
  | case3 => exact fun _ => rfl

theorem HexEntry.read (hLower : rt.LowersText) (h : HexEntry rt item) :
    String.ofList (removeHexMarks (rt.lower (storedText rt .hex item)).toList) =
        storedText rt .hex item ∧
      String.ofList (removeHexMarks (rt.lower (item.toText rt)).toList) =
        storedText rt .hex item := by
  have hUnmarked := h.unmarked
  rw [contains, decide_eq_false_iff_not] at hUnmarked
  have hSettled : rt.lower (storedText rt .hex item) = storedText rt .hex item := by
    refine hLower.settled (strip (item.toText rt)) _ fun c hc => ?_
    rw [storedText, String.toList_ofList] at hc
    exact mem_removeHexMarks hc
  constructor
  · rw [hSettled, removeHexMarks_unmarked hUnmarked, String.ofList_toList]
  · rw [storedText, h.trimmed]

theorem stored_hexes (hLower : rt.LowersText) (h : PlainData data) (hKey : key ∈ LIST_KEYS)
    (hClean : ∀ item ∈ listItems data key, isBlank item = false → HexEntry rt item) :
    SameMembers (hexPrefixes rt (storedTexts rt data .hex key))
      (hexPrefixes rt (readTexts rt data key)) := by
  have hEntry : ∀ item ∈ keptItems data key, HexEntry rt item := by
    intro item hItem
    obtain ⟨hMem, hSome⟩ := (mem_keptItems h hKey).mp hItem
    exact hClean item hMem hSome
  have hAll : nonblank (storedTexts rt data .hex key) = storedTexts rt data .hex key := by
    refine List.filter_eq_self.mpr fun s hs => decide_eq_true ?_
    obtain ⟨item, hItem, rfl⟩ := List.mem_map.mp hs
    exact (hEntry item hItem).some
  have hStored : (storedTexts rt data .hex key).map
      (fun item => String.ofList (removeHexMarks (rt.lower item).toList)) =
        ((keptItems data key).map (Value.toText rt)).map
          fun item => String.ofList (removeHexMarks (rt.lower item).toList) := by
    rw [storedTexts, List.map_map, List.map_map]
    refine List.map_congr_left fun item hItem => ?_
    obtain ⟨hOnce, hRead⟩ := (hEntry item hItem).read hLower
    exact hOnce.trans hRead.symm
  rw [hexPrefixes, hexPrefixes, hAll, hStored]
  exact (kept_texts h hKey).map _

theorem mem_intField (h : PlainData data) (hKey : key ∈ LIST_KEYS) {i : Int} :
    i ∈ intField rt data key ↔ ∃ item ∈ listItems data key, item.toInt? rt = some i := by
  have hEq : ∀ (numbers : List Int), ∀ x ∈ numbers, ∀ y ∈ numbers, (x == y) = true → x = y :=
    fun _ x _ y _ hSame => beq_iff_eq.mp hSame
  rw [intField, mem_unique_ordered (hEq _), List.mem_filterMap]
  rcases (h key hKey).1 with hList | hNone
  · rw [hList]
  · rw [listItems_null hNone, hNone]
    constructor
    · rintro ⟨item, hItem, hInt⟩
      cases List.mem_singleton.mp hItem
      cases hInt
    · rintro ⟨item, hItem, -⟩
      cases hItem

theorem stored_numbers (rt : Runtime) (h : PlainData data) (hKey : key ∈ LIST_KEYS)
    (counts : Int → Bool) (default : Int) (hDefault : counts default = false) :
    SameMembers ((intField rt data key).filter counts)
      ((readNumbers rt data key default).filter counts) := by
  intro i
  rw [List.mem_filter, List.mem_filter, mem_intField h hKey, readNumbers, List.mem_map]
  refine and_congr_left fun hCounts => ?_
  refine exists_congr fun item => and_congr_right fun _ => ?_
  rw [Value.safe_int]
  cases hInt : item.toInt? rt with
  | none =>
    refine ⟨nofun, fun hSame => ?_⟩
    rw [← hSame, Option.getD_none, hDefault] at hCounts
    cases hCounts
  | some j => exact Option.some_inj

theorem stored_names (h : PlainData data) (hKey : key ∈ NAME_KEYS) :
    SameMembers ((keptNames rt data key).map (Value.toText rt)) (readNames rt data key) := by
  have hList : key ∈ LIST_KEYS := List.mem_append_left _ (List.mem_append_left _
    (List.mem_append_left _ hKey))
  have hEq : ∀ x ∈ ((listItems data key).filter fun item => !isBlank item).map fun item =>
      Value.str (normalize_protocol_name rt item), x.isEntry = true := by
    intro x hx
    obtain ⟨_, -, rfl⟩ := List.mem_map.mp hx
    rfl
  have hBlank : ∀ item ∈ listItems data key,
      (!isBlank item) = decide (strip (item.toText rt) ≠ "") := by
    intro item hItem
    rw [isBlank_entry rt ((h key hList).2 item hItem), decide_not]
  have hKept : SameMembers (keptNames rt data key) _ := fun x =>
    mem_unique_ordered fun x hx y hy hSame => (eqv_entry (hEq x hx) (hEq y hy)).mp hSame
  refine (hKept.map (Value.toText rt)).trans ?_
  rw [readNames, List.map_map, List.filter_congr hBlank]
  exact SameMembers.refl _

/-! ### Flags -/

theorem parse_flag (hUpper : rt.UppersAscii) {flag : String} (h : flag ∈ TCP_FLAGS) :
    parse_tcp_flags rt flag = [flag] := by
  have hNames : ∀ name ∈ [flag], FlagName name := by
    intro name hName
    cases List.mem_singleton.mp hName
    exact flagName_of_flag h
  have hSingle : ∀ flag ∈ TCP_FLAGS, flagSet [flag] = [flag] := by decide
  rw [← hSingle flag h]
  exact parse_joined_names hNames (List.cons_ne_nil _ _) hUpper

theorem flagSet_flagSet (names : List String) : flagSet (flagSet names) = flagSet names := by
  rw [flagSet_eq_iff]
  intro flag
  rw [mem_flagSet, mem_flagSet]
  exact ⟨fun h => h.2, fun h => ⟨h.1, h⟩⟩

theorem parse_none (hUpper : rt.UppersAscii) : parse_tcp_flags rt "NONE" = [] := by
  have hCapital : CapitalText "NONE" := by
    have hLetters : ("NONE".toList.all fun c =>
        decide (c.toNat < 128 ∧ isSpace c = false ∧ c.toUpper = c)) = true := by decide
    exact fun c hc => of_decide_eq_true (List.all_eq_true.mp hLetters c hc)
  rw [parse_tcp_flags, (hCapital.upper_strip hUpper).1]
  exact if_pos (Or.inr rfl)

theorem parse_tcp_flag_spec (hUpper : rt.UppersAscii) (item : Value) :
    parse_tcp_flags rt (tcp_flag_spec rt item) = parse_tcp_flags_value rt item ∧
      strip (tcp_flag_spec rt item) = tcp_flag_spec rt item ∧ tcp_flag_spec rt item ≠ "" := by
  have hSet : ∃ names, parse_tcp_flags_value rt item = flagSet names := by
    cases item with
    | null => exact ⟨[], rfl⟩
    | _ => exact parse_tcp_flags_set rt _
  obtain ⟨names, hNames⟩ := hSet
  rw [tcp_flag_spec, hNames]
  by_cases hNone : flagSet names = []
  · rw [if_pos hNone, hNone]
    exact ⟨parse_none hUpper, by decide, by decide⟩
  · have hFlags : ∀ name ∈ flagSet names, FlagName name :=
      fun name hName => flagName_of_flag (mem_flagSet.mp hName).1
    rw [if_neg hNone]
    exact ⟨(parse_joined_names hFlags hNone hUpper).trans (flagSet_flagSet names),
      ((capital_joined_names hFlags).upper_strip hUpper).2, joined_names_ne_empty hFlags hNone⟩

theorem parse_entry (h : item.isEntry = true) :
    parse_tcp_flags_value rt item = parse_tcp_flags rt (item.toText rt) := by
  rcases isEntry_cases h with ⟨s, rfl⟩ | ⟨i, rfl⟩
  · rfl
  · rfl

theorem parse_blank {s : String} (h : strip s = "") (hUpper : rt.UppersAscii) :
    parse_tcp_flags rt s = [] := by
  have hEmpty : rt.upper "" = "" := hUpper "" fun c hc => by cases hc
  rw [parse_tcp_flags, h, hEmpty]
  exact if_pos (Or.inl rfl)

theorem kept_entry (h : PlainData data) (hKey : key ∈ LIST_KEYS)
    (hItem : item ∈ keptItems data key) : item.isEntry = true :=
  (h key hKey).2 item ((mem_keptItems h hKey).mp hItem).1

theorem nonblank_specs (hUpper : rt.UppersAscii) :
    nonblank (storedTexts rt data .flags key) = storedTexts rt data .flags key := by
  refine List.filter_eq_self.mpr fun s hs => decide_eq_true ?_
  obtain ⟨item, -, rfl⟩ := List.mem_map.mp hs
  obtain ⟨-, hStrip, hSome⟩ := parse_tcp_flag_spec hUpper item
  exact fun hEmpty => hSome (hStrip.symm.trans hEmpty)

theorem stored_specs (hUpper : rt.UppersAscii) (h : PlainData data) (hKey : key ∈ LIST_KEYS) :
    SameMembers ((nonblank (storedTexts rt data .flags key)).map (parse_tcp_flags rt))
      ((nonblank (readTexts rt data key)).map (parse_tcp_flags rt)) := by
  have hStored : (storedTexts rt data .flags key).map (parse_tcp_flags rt) =
      ((keptItems data key).map (Value.toText rt)).map (parse_tcp_flags rt) := by
    rw [storedTexts, List.map_map, List.map_map]
    refine List.map_congr_left fun item hItem => ?_
    exact (parse_tcp_flag_spec hUpper item).1.trans (parse_entry (kept_entry h hKey hItem))
  rw [nonblank_specs hUpper, hStored]
  exact (kept_texts h hKey).map _

theorem stored_flags (hUpper : rt.UppersAscii) (h : PlainData data) (hKey : key ∈ LIST_KEYS) :
    parse_tcp_flags_list rt (flagSet ((keptItems data key).flatMap (parse_tcp_flags_value rt))) =
      parse_tcp_flags_list rt (readTexts rt data key) := by
  have hSame : ∀ flag, flag ∈ parse_tcp_flags_list rt
      (flagSet ((keptItems data key).flatMap (parse_tcp_flags_value rt))) ↔
        flag ∈ parse_tcp_flags_list rt (readTexts rt data key) := by
    intro flag
    rw [mem_parse_tcp_flags_list, mem_parse_tcp_flags_list]
    constructor
    · rintro ⟨name, hName, hFlag⟩
      obtain ⟨hKnown, hMem⟩ := mem_flagSet.mp hName
      rw [parse_flag hUpper hKnown, List.mem_singleton] at hFlag
      obtain ⟨item, hItem, hIn⟩ := List.mem_flatMap.mp hMem
      rw [parse_entry (kept_entry h hKey hItem)] at hIn
      rw [hFlag]
      exact ⟨_, List.mem_map_of_mem ((mem_keptItems h hKey).mp hItem).1, hIn⟩
    · rintro ⟨text, hText, hFlag⟩
      obtain ⟨item, hItem, rfl⟩ := List.mem_map.mp hText
      have hEntry := (h key hKey).2 item hItem
      have hSome : isBlank item = false := by
        rw [isBlank_entry rt hEntry, decide_eq_false_iff_not]
        intro hBlank
        rw [parse_blank hBlank hUpper] at hFlag
        cases hFlag
      have hKnown := mem_TCP_FLAGS hFlag
      rw [← parse_entry hEntry] at hFlag
      refine ⟨flag, mem_flagSet.mpr ⟨hKnown, List.mem_flatMap.mpr
        ⟨item, (mem_keptItems h hKey).mpr ⟨hItem, hSome⟩, hFlag⟩⟩, ?_⟩
      rw [parse_flag hUpper hKnown]
      exact List.mem_singleton_self flag
  exact flagSet_eq_iff.mpr hSame

end Same

/-! ## The checks of the matcher -/

variable {key : String}

theorem number_mem (h : key ∈ NUMBER_LIST_KEYS) : key ∈ LIST_KEYS :=
  List.mem_append_left _ (List.mem_append_left _ (List.mem_append_right _ h))

theorem text_mem {kind : TextKind} (h : (kind, key) ∈ TEXT_KEYS) : key ∈ LIST_KEYS :=
  List.mem_append_left _ (List.mem_append_right _ (List.mem_map_of_mem h))

theorem flag_mem (h : key ∈ FLAG_KEYS) : key ∈ LIST_KEYS :=
  List.mem_append_right _ h

theorem wants_same {β : Type} [DecidableEq β] {l l' : List β} (h : SameMembers l l') (value : β) :
    wants l value = wants l' value := by
  rw [wants, wants, h.isEmpty, h.mem]

section Patterns

variable {env : Env} {patterns patterns' : List String}

variable (h : SameMembers (trimmed patterns) (trimmed patterns'))

include h

theorem anyFound_same (values : List String) :
    anyFound env patterns values = anyFound env patterns' values :=
  h.any _

theorem wantsFound_same (values : List String) :
    wantsFound env patterns values = wantsFound env patterns' values := by
  rw [wantsFound, wantsFound, anyFound_same h]
  exact congrArg (· || _) h.isEmpty

theorem regex_matches_any_same (values : List String) :
    regex_matches_any env patterns values = regex_matches_any env patterns' values :=
  anyFound_same h _

theorem nonblank_isEmpty : (nonblank patterns).isEmpty = (nonblank patterns').isEmpty := by
  have hEmpty := h.isEmpty
  rw [trimmed_nonblank, trimmed_nonblank, List.isEmpty_map, List.isEmpty_map] at hEmpty
  exact hEmpty

end Patterns

section Checks

variable {env : Env} {data : List (String × Value)} (hPlain : PlainData data) (b : Bool)
  (hd : Header)

include hPlain

theorem protocolNames_stored (env : Env) (key : String) (hKey : key ∈ NAME_KEYS) :
    SameMembers (protocolNames env.toRuntime
        ((keptNames env.toRuntime data key).map (Value.toText env.toRuntime)))
      (protocolNames env.toRuntime (readNames env.toRuntime data key)) :=
  ((stored_names hPlain hKey).filter _).map _

theorem protocolsOk_stored :
    protocolsOk env.toRuntime (normalCriteria env.toRuntime data b) hd =
      protocolsOk env.toRuntime (readCriteria env.toRuntime data) hd := by
  have hWanted := protocolNames_stored hPlain env "protocols" (by decide)
  have hExcluded := protocolNames_stored hPlain env "exclude_protocols" (by decide)
  rw [protocolsOk, protocolsOk, normalCriteria, readCriteria]
  simp only [hWanted.isEmpty, hWanted.mem, hExcluded.mem]

theorem nonzero_stored (env : Env) (key : String) (hKey : key ∈ NUMBER_LIST_KEYS) :
    SameMembers (nonzero (intField env.toRuntime data key))
      (nonzero (readNumbers env.toRuntime data key 0)) :=
  stored_numbers env.toRuntime hPlain (number_mem hKey) (· ≠ 0) 0 (by decide)

theorem versionsOk_stored : versionsOk (normalCriteria env.toRuntime data b) hd =
    versionsOk (readCriteria env.toRuntime data) hd := by
  have hVersions := nonzero_stored hPlain env "ip_versions" (by decide)
  have hNoVersions := nonzero_stored hPlain env "exclude_ip_versions" (by decide)
  have hTypes := nonzero_stored hPlain env "eth_types" (by decide)
  have hNoTypes := nonzero_stored hPlain env "exclude_eth_types" (by decide)
  rw [versionsOk, versionsOk, normalCriteria, readCriteria]
  simp only [wants_same hVersions, hNoVersions.mem, wants_same hTypes, hNoTypes.mem]

theorem portListsOk_stored : portListsOk (normalCriteria env.toRuntime data b) hd =
    portListsOk (readCriteria env.toRuntime data) hd := by
  have hPorts := nonzero_stored hPlain env "ports" (by decide)
  have hSrc := nonzero_stored hPlain env "src_ports" (by decide)
  have hDst := nonzero_stored hPlain env "dst_ports" (by decide)
  rw [portListsOk, portListsOk, normalCriteria, readCriteria]
  simp only [hPorts.isEmpty, hPorts.mem, wants_same hSrc, wants_same hDst]

theorem portExclusionsOk_stored : portExclusionsOk (normalCriteria env.toRuntime data b) hd =
    portExclusionsOk (readCriteria env.toRuntime data) hd := by
  have hPorts := nonzero_stored hPlain env "exclude_ports" (by decide)
  have hSrc := nonzero_stored hPlain env "exclude_src_ports" (by decide)
  have hDst := nonzero_stored hPlain env "exclude_dst_ports" (by decide)
  rw [portExclusionsOk, portExclusionsOk, normalCriteria, readCriteria]
  simp only [hPorts.mem, hSrc.mem, hDst.mem]

theorem patterns_stored (env : Env) (key : String) (hKey : (.pattern, key) ∈ TEXT_KEYS) :
    SameMembers (trimmed (storedTexts env.toRuntime data .pattern key))
      (trimmed (readTexts env.toRuntime data key)) :=
  stored_patterns hPlain (text_mem hKey)

theorem portPatternsOk_stored : portPatternsOk env (normalCriteria env.toRuntime data b) hd =
    portPatternsOk env (readCriteria env.toRuntime data) hd := by
  have hWanted := patterns_stored hPlain env "port_regex" (by decide)
  have hExcluded := patterns_stored hPlain env "exclude_port_regex" (by decide)
  rw [portPatternsOk, portPatternsOk, normalCriteria, readCriteria]
  simp only [wantsFound_same hWanted, regex_matches_any_same hExcluded]

theorem protocolPatternsOk_stored :
    protocolPatternsOk env (normalCriteria env.toRuntime data b) hd =
      protocolPatternsOk env (readCriteria env.toRuntime data) hd := by
  have hWanted := patterns_stored hPlain env "protocol_regex" (by decide)
  have hExcluded := patterns_stored hPlain env "exclude_protocol_regex" (by decide)
  rw [protocolPatternsOk, protocolPatternsOk, normalCriteria, readCriteria]
  simp only [wantsFound_same hWanted, regex_matches_any_same hExcluded]

theorem addressesOk_stored (hLower : env.LowersText) :
    addressesOk env (normalCriteria env.toRuntime data b) hd =
      addressesOk env (readCriteria env.toRuntime data) hd := by
  have hWanted := stored_addresses hLower hPlain (by decide : "ips" ∈ LIST_KEYS)
  have hExcluded := stored_addresses hLower hPlain (by decide : "exclude_ips" ∈ LIST_KEYS)
  have hPatterns := patterns_stored hPlain env "ip_regex" (by decide)
  have hNoPatterns := patterns_stored hPlain env "exclude_ip_regex" (by decide)
  rw [addressesOk, addressesOk, normalCriteria, readCriteria]
  simp only [hWanted.isEmpty, hWanted.mem, hExcluded.mem, wantsFound_same hPatterns,
    regex_matches_any_same hNoPatterns]

theorem flagsOk_stored (hUpper : env.UppersAscii) :
    flagsOk env.toRuntime (normalCriteria env.toRuntime data b) hd =
      flagsOk env.toRuntime (readCriteria env.toRuntime data) hd := by
  have hSpecs := stored_specs hUpper hPlain (by decide : "tcp_flags" ∈ LIST_KEYS)
  have hEmpty := hSpecs.isEmpty
  rw [List.isEmpty_map, List.isEmpty_map] at hEmpty
  have hAsked := hSpecs.any fun flags => decide (parse_tcp_flags env.toRuntime hd.tcp_flags = flags)
  rw [List.any_map, List.any_map] at hAsked
  have hAny := stored_flags hUpper hPlain (by decide : "tcp_flags_any" ∈ LIST_KEYS)
  have hAll := stored_flags hUpper hPlain (by decide : "tcp_flags_all" ∈ LIST_KEYS)
  rw [flagsOk, flagsOk, normalCriteria, readCriteria]
  dsimp only
  rw [hEmpty, hAny, hAll]
  dsimp only [Function.comp_def] at hAsked
  rw [hAsked]

theorem controlOk_stored : controlOk (normalCriteria env.toRuntime data b) hd =
    controlOk (readCriteria env.toRuntime data) hd := by
  have hTypes := stored_numbers env.toRuntime hPlain
    (by decide : "icmp_types" ∈ LIST_KEYS) (0 ≤ ·) (-1) (by decide)
  have hCodes := stored_numbers env.toRuntime hPlain
    (by decide : "icmp_codes" ∈ LIST_KEYS) (0 ≤ ·) (-1) (by decide)
  have hOpcodes := nonzero_stored hPlain env "arp_opcodes" (by decide)
  rw [controlOk, controlOk, normalCriteria, readCriteria]
  simp only [hTypes.isEmpty, hTypes.mem, hCodes.isEmpty, hCodes.mem, wants_same hOpcodes]

theorem literals_stored (env : Env) (key : String) (hKey : (.literal, key) ∈ TEXT_KEYS) :
    SameMembers (needles env.toRuntime (storedTexts env.toRuntime data .literal key))
      (needles env.toRuntime (readTexts env.toRuntime data key)) :=
  (stored_literals env.toRuntime hPlain (text_mem hKey)).map _

theorem literalsOk_stored (packet_text : String) :
    literalsOk env (normalCriteria env.toRuntime data b) packet_text =
      literalsOk env (readCriteria env.toRuntime data) packet_text := by
  have hWanted := literals_stored hPlain env "payload_contains" (by decide)
  have hExcluded := literals_stored hPlain env "exclude_payload_contains" (by decide)
  rw [literalsOk, literalsOk, normalCriteria, readCriteria]
  simp only [hWanted.isEmpty, hWanted.any, hExcluded.any]

variable (hLower : env.LowersText)
  (hClean : ∀ key ∈ HEX_KEYS, ∀ item ∈ listItems data key, isBlank item = false →
    HexEntry env.toRuntime item)

include hLower hClean

theorem hexes_stored (key : String) (hKey : key ∈ LIST_KEYS) (hHex : key ∈ HEX_KEYS) :
    SameMembers (hexPrefixes env.toRuntime (storedTexts env.toRuntime data .hex key))
      (hexPrefixes env.toRuntime (readTexts env.toRuntime data key)) :=
  stored_hexes hLower hPlain hKey (hClean key hHex)

theorem payloadOk_stored (packet_text : String) :
    payloadOk env (normalCriteria env.toRuntime data b) hd packet_text =
      payloadOk env (readCriteria env.toRuntime data) hd packet_text := by
  have hWanted := hexes_stored hPlain hLower hClean "payload_prefix_hex" (by decide)
    List.mem_cons_self
  have hExcluded := hexes_stored hPlain hLower hClean "exclude_payload_prefix_hex" (by decide)
    (List.mem_cons_of_mem _ List.mem_cons_self)
  have hPatterns := patterns_stored hPlain env "payload_regex" (by decide)
  have hNoPatterns := patterns_stored hPlain env "payload_regex_exclude" (by decide)
  rw [payloadOk, payloadOk, normalCriteria, readCriteria]
  simp only [hWanted.isEmpty, hWanted.any, hExcluded.any, wantsFound_same hPatterns,
    anyFound_same hNoPatterns]

variable (hUpper : env.UppersAscii) {all any all' any' : List Match}
  (hAll : all.isEmpty = all'.isEmpty) (hAny : any.isEmpty = any'.isEmpty)

include hUpper hAll hAny

theorem hasCriteria_stored :
    hasCriteria env.toRuntime (normalCriteria env.toRuntime data b) all any =
      hasCriteria env.toRuntime (readCriteria env.toRuntime data).counted all' any' := by
  have hNames := (protocolNames_stored hPlain env "protocols" (by decide)).isEmpty
  have hNumbers : ∀ key ∈ NUMBER_LIST_KEYS, (nonzero (intField env.toRuntime data key)).isEmpty =
      (nonzero (readNumbers env.toRuntime data key 0)).isEmpty :=
    fun key hKey => (nonzero_stored hPlain env key hKey).isEmpty
  have hPatterns : ∀ key, (.pattern, key) ∈ TEXT_KEYS →
      (nonblank (storedTexts env.toRuntime data .pattern key)).isEmpty =
        (nonblank (readTexts env.toRuntime data key)).isEmpty :=
    fun key hKey => nonblank_isEmpty (patterns_stored hPlain env key hKey)
  have hIps := (stored_addresses hLower hPlain
    (by decide : "ips" ∈ LIST_KEYS)).isEmpty
  have hLiterals := (stored_literals env.toRuntime hPlain
    (by decide : "payload_contains" ∈ LIST_KEYS)).isEmpty
  have hHexes := (hexes_stored hPlain hLower hClean "payload_prefix_hex" (by decide)
    List.mem_cons_self).isEmpty
  have hSpecs := (stored_specs hUpper hPlain
    (by decide : "tcp_flags" ∈ LIST_KEYS)).isEmpty
  have hFlagsAny := stored_flags hUpper hPlain (by decide : "tcp_flags_any" ∈ LIST_KEYS)
  have hFlagsAll := stored_flags hUpper hPlain (by decide : "tcp_flags_all" ∈ LIST_KEYS)
  have hTypes := (stored_numbers env.toRuntime hPlain
    (by decide : "icmp_types" ∈ LIST_KEYS) (0 ≤ ·) (-1) (by decide)).isEmpty
  have hCodes := (stored_numbers env.toRuntime hPlain
    (by decide : "icmp_codes" ∈ LIST_KEYS) (0 ≤ ·) (-1) (by decide)).isEmpty
  simp only [List.isEmpty_map, hexPrefixes] at hIps hHexes hSpecs
  rw [hasCriteria, hasCriteria, Criteria.counted, normalCriteria, readCriteria]
  simp only [hNames, hNumbers "ip_versions" (by decide), hNumbers "eth_types" (by decide),
    hNumbers "ports" (by decide), hNumbers "src_ports" (by decide),
    hNumbers "dst_ports" (by decide), hPatterns "port_regex" (by decide), hIps,
    hPatterns "ip_regex" (by decide), hPatterns "protocol_regex" (by decide), hLiterals, hHexes,
    hPatterns "payload_regex" (by decide), hSpecs, hFlagsAny, hFlagsAll, hTypes, hCodes,
    hNumbers "arp_opcodes" (by decide), hAll, hAny]

theorem criteriaOk_stored (hSwitch : (Value.get data "request_only").truthy = b) (packet : Packet)
    (packet_text : String) :
    criteriaOk env (normalCriteria env.toRuntime data b) all any packet packet_text =
      criteriaOk env (readCriteria env.toRuntime data).counted all' any' packet packet_text := by
  have hRequest : (normalCriteria env.toRuntime data b).request_only =
      (readCriteria env.toRuntime data).counted.request_only := hSwitch.symm
  rw [criteriaOk, criteriaOk, hRequest, protocolsOk_stored hPlain, versionsOk_stored hPlain,
    portListsOk_stored hPlain, portExclusionsOk_stored hPlain, portPatternsOk_stored hPlain,
    addressesOk_stored hPlain _ _ hLower, protocolPatternsOk_stored hPlain,
    flagsOk_stored hPlain _ _ hUpper, controlOk_stored hPlain,
    hasCriteria_stored hPlain b hLower hClean hUpper hAll hAny, literalsOk_stored hPlain,
    payloadOk_stored hPlain _ _ hLower hClean]
  rfl

end Checks

end Sniff4Hound
