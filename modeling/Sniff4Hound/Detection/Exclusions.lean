import Sniff4Hound.Detection.NormalMatch
import Sniff4Hound.Library.ConditionTree

/-!
# Exclusions under `none` lists

A match tree as `rule_matches_packet` reads it, with lists that hold entries of any kind. The
exclusions of a condition are the thirteen lists of `EXCLUSION_KEYS` and its `none` list. None of
them counts in the early rejection of a match without criteria, so that one more exclusion can only
make the condition fail, and the tree fails with it or holds for it, by the number of `none` lists
that the condition stands under (`exclusions_polar`).
-/

namespace Sniff4Hound

open ConditionTree

/-! ## Trees with entries of any kind -/

def EXCLUSION_KEYS : List String :=
  ["exclude_protocols", "exclude_ip_versions", "exclude_eth_types", "exclude_ports",
    "exclude_src_ports", "exclude_dst_ports", "exclude_port_regex", "exclude_ips",
    "exclude_ip_regex", "exclude_protocol_regex", "exclude_payload_contains",
    "exclude_payload_prefix_hex", "payload_regex_exclude"]

def CRITERION_KEYS : List String :=
  ["protocols", "ip_versions", "eth_types", "ports", "src_ports", "dst_ports", "port_regex", "ips",
    "ip_regex", "protocol_regex", "payload_contains", "payload_prefix_hex", "payload_regex",
    "tcp_flags", "tcp_flags_any", "tcp_flags_all", "icmp_types", "icmp_codes", "arp_opcodes"]

def Value.isList : Value → Bool
  | .list _ => true
  | _ => false

def Value.isScalar : Value → Bool
  | .list _ => false
  | .dict _ => false
  | _ => true

/-- The fields of a match: the lists are lists, of entries of any kind but for the flag sets, and
the numbers are integers. -/
structure RuleFields where
  entries : List (String × Value)
  lists : ∀ key ∈ LIST_KEYS, Value.has entries key = true → (Value.get entries key).isList = true
  flags : ∀ key ∈ FLAG_KEYS, (listItems entries key).all Value.isScalar = true
  integers : ∀ key ∈ INTEGER_KEYS, Value.has entries key = true →
    (Value.get entries key).isInteger = true
  flat : ∀ key ∈ CONDITION_KEYS, Value.has entries key = false

abbrev RuleTree := ConditionTree RuleFields

namespace RuleTree

mutual

/-- The match that `rule_matches_packet` goes by. -/
def read (rt : Runtime) : RuleTree → Match
  | .node fields all any noneOf =>
    .node (readCriteria rt fields.entries) (readList rt all) (readList rt any)
      (readList rt noneOf)

def readList (rt : Runtime) : List RuleTree → List Match
  | [] => []
  | t :: ts => read rt t :: readList rt ts

end

end RuleTree

/-- The packets that a rule with this match accepts; `text` gives the text of a packet. -/
def acceptedPackets (env : Env) (enabled : Bool) (text : Packet → String) (t : RuleTree) :
    Set Packet :=
  {packet | rule_matches_packet env enabled (t.read env.toRuntime) packet (text packet) = true}

/-! ## One more exclusion -/

section Entries

variable {entries : List (String × Value)} {key key' : String}

/-- `entries[key] = [*entries.get(key, []), item]`. -/
def appendEntry (entries : List (String × Value)) (key : String) (item : Value) :
    List (String × Value) :=
  Dict.set entries key (.list (listItems entries key ++ [item]))

theorem lookup_appendEntry (item : Value) :
    (appendEntry entries key item).lookup key' =
      if key' = key then some (.list (listItems entries key ++ [item])) else entries.lookup key' :=
  Dict.lookup_set entries key key' _

theorem get_appendEntry (item : Value) :
    Value.get (appendEntry entries key item) key' =
      if key' = key then .list (listItems entries key ++ [item]) else Value.get entries key' := by
  rw [Value.get, lookup_appendEntry]
  split
  · rfl
  · rfl

theorem has_appendEntry (h : key' ≠ key) (item : Value) :
    Value.has (appendEntry entries key item) key' = Value.has entries key' := by
  rw [Value.has, lookup_appendEntry, if_neg h, Value.has]

theorem get_appendEntry_ne (h : key' ≠ key) (item : Value) :
    Value.get (appendEntry entries key item) key' = Value.get entries key' := by
  rw [get_appendEntry, if_neg h]

theorem listItems_appendEntry (item : Value) :
    listItems (appendEntry entries key item) key' =
      if key' = key then listItems entries key' ++ [item] else listItems entries key' := by
  rw [listItems, get_appendEntry]
  by_cases hKey : key' = key
  · rw [if_pos hKey, if_pos hKey, hKey]
  · rw [if_neg hKey, if_neg hKey, listItems]

theorem listItems_subset (item : Value) (key' : String) :
    listItems entries key' ⊆ listItems (appendEntry entries key item) key' := by
  rw [listItems_appendEntry]
  split
  · exact List.subset_append_left _ _
  · exact List.Subset.refl _

end Entries

theorem exclusion_ne : ∀ key ∈ EXCLUSION_KEYS,
    (∀ key' ∈ CRITERION_KEYS, key' ≠ key) ∧ (∀ key' ∈ INTEGER_KEYS, key' ≠ key) ∧
      (∀ key' ∈ FLAG_KEYS, key' ≠ key) ∧ (∀ key' ∈ CONDITION_KEYS, key' ≠ key) ∧
      "request_only" ≠ key := by
  decide

def RuleFields.exclude (fields : RuleFields) (key : String) (hKey : key ∈ EXCLUSION_KEYS)
    (item : Value) : RuleFields where
  entries := appendEntry fields.entries key item
  lists key' hList hHas := by
    rw [get_appendEntry]
    split
    · rfl
    · rename_i hOther
      exact fields.lists key' hList (has_appendEntry hOther item ▸ hHas)
  flags key' hFlags := by
    rw [listItems_appendEntry, if_neg ((exclusion_ne key hKey).2.2.1 key' hFlags)]
    exact fields.flags key' hFlags
  integers key' hInteger hHas := by
    have hOther := (exclusion_ne key hKey).2.1 key' hInteger
    rw [has_appendEntry hOther] at hHas
    rw [get_appendEntry_ne hOther]
    exact fields.integers key' hInteger hHas
  flat key' hCondition := by
    rw [has_appendEntry ((exclusion_ne key hKey).2.2.2.1 key' hCondition)]
    exact fields.flat key' hCondition

/-- One more entry in an exclusion list, or one more condition in the `none` list. -/
inductive Exclusion where
  | entry (key : String) (hKey : key ∈ EXCLUSION_KEYS) (item : Value)
  | condition (t : RuleTree)

def RuleTree.exclude (added : Exclusion) : RuleTree → RuleTree
  | .node fields all any noneOf =>
    match added with
    | .entry key hKey item => .node (fields.exclude key hKey item) all any noneOf
    | .condition t => .node fields all any (noneOf ++ [t])

/-! ## What more exclusions do to the criteria -/

def Criteria.excluding (c x : Criteria) : Criteria :=
  { c with
    exclude_protocols := x.exclude_protocols
    exclude_ip_versions := x.exclude_ip_versions
    exclude_eth_types := x.exclude_eth_types
    exclude_ports := x.exclude_ports
    exclude_src_ports := x.exclude_src_ports
    exclude_dst_ports := x.exclude_dst_ports
    exclude_port_regex := x.exclude_port_regex
    exclude_ips := x.exclude_ips
    exclude_ip_regex := x.exclude_ip_regex
    exclude_protocol_regex := x.exclude_protocol_regex
    exclude_payload_contains := x.exclude_payload_contains
    exclude_payload_prefix_hex := x.exclude_payload_prefix_hex
    payload_regex_exclude := x.payload_regex_exclude }

structure Criteria.Excludes (c x : Criteria) : Prop where
  protocols : c.exclude_protocols ⊆ x.exclude_protocols
  ip_versions : c.exclude_ip_versions ⊆ x.exclude_ip_versions
  eth_types : c.exclude_eth_types ⊆ x.exclude_eth_types
  ports : c.exclude_ports ⊆ x.exclude_ports
  src_ports : c.exclude_src_ports ⊆ x.exclude_src_ports
  dst_ports : c.exclude_dst_ports ⊆ x.exclude_dst_ports
  port_regex : c.exclude_port_regex ⊆ x.exclude_port_regex
  ips : c.exclude_ips ⊆ x.exclude_ips
  ip_regex : c.exclude_ip_regex ⊆ x.exclude_ip_regex
  protocol_regex : c.exclude_protocol_regex ⊆ x.exclude_protocol_regex
  payload_contains : c.exclude_payload_contains ⊆ x.exclude_payload_contains
  payload_prefix_hex : c.exclude_payload_prefix_hex ⊆ x.exclude_payload_prefix_hex
  payload_regex : c.payload_regex_exclude ⊆ x.payload_regex_exclude

section Cleaning

variable {rt : Runtime} {env : Env} {items items' : List String}

theorem nonzero_subset {numbers numbers' : List Int} (h : numbers ⊆ numbers') :
    nonzero numbers ⊆ nonzero numbers' := List.filter_subset _ h

theorem nonblank_subset (h : items ⊆ items') : nonblank items ⊆ nonblank items' :=
  List.filter_subset _ h

theorem protocolNames_subset (h : items ⊆ items') :
    protocolNames rt items ⊆ protocolNames rt items' := List.map_subset _ (nonblank_subset h)

theorem any_subset {α : Type*} {p : α → Bool} {l l' : List α} (h : l ⊆ l')
    (hAny : l.any p = true) : l'.any p = true := by
  obtain ⟨x, hx, hp⟩ := List.any_eq_true.mp hAny
  exact List.any_eq_true.mpr ⟨x, h hx, hp⟩

theorem anyFound_subset (h : items ⊆ items') {values : List String}
    (hFound : anyFound env items values = true) : anyFound env items' values = true :=
  any_subset (List.filter_subset _ (List.map_subset _ h)) hFound

theorem not_of_subset {p p' : Bool} (h : p = true → p' = true) (hNot : p' = false) : p = false := by
  rw [Bool.eq_false_iff]
  intro hp
  rw [h hp] at hNot
  cases hNot

end Cleaning

section Checks

variable {env : Env} {rt : Runtime} {c x : Criteria} {hd : Header} {packet_text : String}

variable (h : c.Excludes x)

include h

theorem protocolsOk_excluding (hOk : protocolsOk rt (c.excluding x) hd = true) :
    protocolsOk rt c hd = true := by
  have hNames : protocolNames rt c.exclude_protocols ⊆ protocolNames rt x.exclude_protocols :=
    protocolNames_subset h.protocols
  simp only [protocolsOk, Bool.and_eq_true, Bool.not_eq_true'] at hOk ⊢
  refine ⟨not_of_subset ?_ hOk.1, hOk.2⟩
  simp only [Bool.or_eq_true, Bool.and_eq_true, decide_eq_true_eq]
  exact Or.imp (fun hIn => hNames hIn) (And.imp_right fun hIn => hNames hIn)

theorem versionsOk_excluding (hOk : versionsOk (c.excluding x) hd = true) :
    versionsOk c hd = true := by
  simp only [versionsOk, Bool.and_eq_true, Bool.not_eq_true', decide_eq_false_iff_not] at hOk ⊢
  obtain ⟨⟨⟨hWanted, hVersion⟩, hTypes⟩, hType⟩ := hOk
  exact ⟨⟨⟨hWanted, fun hIn => hVersion (nonzero_subset h.ip_versions hIn)⟩, hTypes⟩,
    fun hIn => hType (nonzero_subset h.eth_types hIn)⟩

theorem portExclusionsOk_excluding (hOk : portExclusionsOk (c.excluding x) hd = true) :
    portExclusionsOk c hd = true := by
  simp only [portExclusionsOk, Bool.and_eq_true, Bool.not_eq_true', Bool.or_eq_false_iff,
    decide_eq_false_iff_not] at hOk ⊢
  obtain ⟨⟨⟨hSrc, hDst⟩, hSrcOnly⟩, hDstOnly⟩ := hOk
  exact ⟨⟨⟨fun hIn => hSrc (nonzero_subset h.ports hIn),
    fun hIn => hDst (nonzero_subset h.ports hIn)⟩,
    fun hIn => hSrcOnly (nonzero_subset h.src_ports hIn)⟩,
    fun hIn => hDstOnly (nonzero_subset h.dst_ports hIn)⟩

theorem portPatternsOk_excluding (hOk : portPatternsOk env (c.excluding x) hd = true) :
    portPatternsOk env c hd = true := by
  simp only [portPatternsOk, Bool.and_eq_true, Bool.not_eq_true'] at hOk ⊢
  exact ⟨hOk.1, not_of_subset (anyFound_subset h.port_regex) hOk.2⟩

theorem addressesOk_excluding (hOk : addressesOk env (c.excluding x) hd = true) :
    addressesOk env c hd = true := by
  simp only [addressesOk, Bool.and_eq_true, Bool.not_eq_true', Bool.or_eq_false_iff,
    decide_eq_false_iff_not] at hOk ⊢
  obtain ⟨⟨⟨hWanted, hSrc, hDst⟩, hPattern⟩, hFound⟩ := hOk
  have hCleaned {address : String} (hIn : address ∈ (nonblank c.exclude_ips).map fun item =>
      env.lower (strip item)) : address ∈ (nonblank x.exclude_ips).map fun item =>
      env.lower (strip item) := List.map_subset _ (nonblank_subset h.ips) hIn
  exact ⟨⟨⟨hWanted, fun hIn => hSrc (hCleaned hIn), fun hIn => hDst (hCleaned hIn)⟩, hPattern⟩,
    not_of_subset (anyFound_subset h.ip_regex) hFound⟩

theorem protocolPatternsOk_excluding (hOk : protocolPatternsOk env (c.excluding x) hd = true) :
    protocolPatternsOk env c hd = true := by
  simp only [protocolPatternsOk, Bool.and_eq_true, Bool.not_eq_true'] at hOk ⊢
  exact ⟨hOk.1, not_of_subset (anyFound_subset h.protocol_regex) hOk.2⟩

theorem literalsOk_excluding (hOk : literalsOk env (c.excluding x) packet_text = true) :
    literalsOk env c packet_text = true := by
  simp only [literalsOk, Bool.and_eq_true, Bool.not_eq_true'] at hOk ⊢
  exact ⟨hOk.1, not_of_subset
    (any_subset (List.map_subset _ (nonblank_subset h.payload_contains))) hOk.2⟩

theorem payloadOk_excluding (hOk : payloadOk env (c.excluding x) hd packet_text = true) :
    payloadOk env c hd packet_text = true := by
  simp only [payloadOk, Bool.and_eq_true, Bool.not_eq_true'] at hOk ⊢
  obtain ⟨⟨⟨hWanted, hHex⟩, hPattern⟩, hFound⟩ := hOk
  exact ⟨⟨⟨hWanted, not_of_subset
    (any_subset (List.map_subset _ (nonblank_subset h.payload_prefix_hex))) hHex⟩, hPattern⟩,
    not_of_subset (anyFound_subset h.payload_regex) hFound⟩

/-- More exclusions, and nothing else changed: fewer packets meet the criteria. The rejection of a
match without criteria does not see exclusions. -/
theorem criteriaOk_excluding {all any : List Match} {packet : Packet}
    (hOk : criteriaOk env (c.excluding x) all any packet packet_text = true) :
    criteriaOk env c all any packet packet_text = true := by
  rw [criteriaOk] at hOk ⊢
  simp only [Bool.and_eq_true] at hOk ⊢
  obtain ⟨⟨⟨⟨⟨⟨⟨⟨⟨⟨⟨⟨⟨hRequest, hProtocols⟩, hVersions⟩, hPorts⟩, hPortExclusions⟩,
    hPortPatterns⟩, hAddresses⟩, hProtocolPatterns⟩, hFlags⟩, hControl⟩, hSome⟩, hLiterals⟩,
    hPayload⟩, hLengths⟩ := hOk
  exact ⟨⟨⟨⟨⟨⟨⟨⟨⟨⟨⟨⟨⟨hRequest, protocolsOk_excluding h hProtocols⟩,
    versionsOk_excluding h hVersions⟩, hPorts⟩, portExclusionsOk_excluding h hPortExclusions⟩,
    portPatternsOk_excluding h hPortPatterns⟩, addressesOk_excluding h hAddresses⟩,
    protocolPatternsOk_excluding h hProtocolPatterns⟩, hFlags⟩, hControl⟩, hSome⟩,
    literalsOk_excluding h hLiterals⟩, payloadOk_excluding h hPayload⟩, hLengths⟩

end Checks

/-! ## What is read with one more entry -/

section Reading

variable {rt : Runtime} {entries entries' : List (String × Value)}

theorem readNames_subset {key : String} (h : listItems entries key ⊆ listItems entries' key) :
    readNames rt entries key ⊆ readNames rt entries' key :=
  List.map_subset _ (List.filter_subset _ h)

theorem readNumbers_subset {key : String} (h : listItems entries key ⊆ listItems entries' key)
    (default : Int) : readNumbers rt entries key default ⊆ readNumbers rt entries' key default :=
  List.map_subset _ h

theorem readTexts_subset {key : String} (h : listItems entries key ⊆ listItems entries' key) :
    readTexts rt entries key ⊆ readTexts rt entries' key :=
  List.map_subset _ h

theorem readCriteria_excluding
    (hLists : ∀ key ∈ CRITERION_KEYS, Value.get entries' key = Value.get entries key)
    (hIntegers : ∀ key ∈ INTEGER_KEYS, Value.get entries' key = Value.get entries key)
    (hSwitch : Value.get entries' "request_only" = Value.get entries "request_only") :
    readCriteria rt entries' = (readCriteria rt entries).excluding (readCriteria rt entries') := by
  simp only [CRITERION_KEYS, List.forall_mem_cons, List.not_mem_nil, false_imp_iff, implies_true,
    and_true] at hLists
  simp only [INTEGER_KEYS, List.forall_mem_cons, List.not_mem_nil, false_imp_iff, implies_true,
    and_true] at hIntegers
  simp only [readCriteria, Criteria.excluding, readNames, readNumbers, readTexts, listItems, hLists,
    hIntegers, hSwitch]

theorem readCriteria_excludes (h : ∀ key, listItems entries key ⊆ listItems entries' key) :
    (readCriteria rt entries).Excludes (readCriteria rt entries') where
  protocols := readNames_subset (h _)
  ip_versions := readNumbers_subset (h _) 0
  eth_types := readNumbers_subset (h _) 0
  ports := readNumbers_subset (h _) 0
  src_ports := readNumbers_subset (h _) 0
  dst_ports := readNumbers_subset (h _) 0
  port_regex := readTexts_subset (h _)
  ips := readTexts_subset (h _)
  ip_regex := readTexts_subset (h _)
  protocol_regex := readTexts_subset (h _)
  payload_contains := readTexts_subset (h _)
  payload_prefix_hex := readTexts_subset (h _)
  payload_regex := readTexts_subset (h _)

end Reading

/-! ## The tree as conditions -/

def someList (empty : Bool) : List Match := if empty then [] else [.node {} [] [] []]

/-- The part of `rule_matches_packet` before the nested conditions, as the test of a condition. -/
def fieldsTest (env : Env) (packet : Packet) (packet_text : String) (fields : RuleFields)
    (noAll noAny : Bool) : Bool :=
  criteriaOk env (readCriteria env.toRuntime fields.entries) (someList noAll) (someList noAny)
    packet packet_text

section Trees

variable {env : Env} {packet : Packet} {packet_text : String}

theorem isEmpty_someList (empty : Bool) : (someList empty).isEmpty = empty := by
  cases empty with
  | false => rfl
  | true => rfl

theorem criteriaOk_isEmpty (c : Criteria) {all all' any any' : List Match}
    (hAll : all.isEmpty = all'.isEmpty) (hAny : any.isEmpty = any'.isEmpty) :
    criteriaOk env c all any packet packet_text = criteriaOk env c all' any' packet packet_text := by
  rw [criteriaOk, criteriaOk, hasCriteria, hasCriteria, hAll, hAny]

theorem RuleTree.readList_eq (rt : Runtime) (ts : List RuleTree) :
    readList rt ts = ts.map (read rt) := by
  induction ts with
  | nil => rfl
  | cons t rest ih => rw [readList, ih, List.map_cons]

theorem RuleTree.isEmpty_readList (rt : Runtime) (ts : List RuleTree) :
    (readList rt ts).isEmpty = ts.isEmpty := by
  rw [readList_eq, List.isEmpty_map]

mutual

theorem match_accepts_holds : ∀ t : RuleTree,
    match_accepts env packet packet_text (t.read env.toRuntime) =
      holds (fieldsTest env packet packet_text) t
  | .node fields all any noneOf => by
    have hTest : criteriaOk env (readCriteria env.toRuntime fields.entries)
        (RuleTree.readList env.toRuntime all) (RuleTree.readList env.toRuntime any) packet
          packet_text = fieldsTest env packet packet_text fields all.isEmpty any.isEmpty := by
      apply criteriaOk_isEmpty
      · rw [RuleTree.isEmpty_readList, isEmpty_someList]
      · rw [RuleTree.isEmpty_readList, isEmpty_someList]
    rw [RuleTree.read, match_accepts, holds, hTest, all_accept_holds all, any_accepts_holds any,
      any_accepts_holds noneOf, RuleTree.isEmpty_readList]

theorem all_accept_holds : ∀ ts : List RuleTree,
    all_accept env packet packet_text (RuleTree.readList env.toRuntime ts) =
      allHold (fieldsTest env packet packet_text) ts
  | [] => rfl
  | t :: ts => by
    rw [RuleTree.readList, all_accept, allHold, match_accepts_holds t, all_accept_holds ts]

theorem any_accepts_holds : ∀ ts : List RuleTree,
    any_accepts env packet packet_text (RuleTree.readList env.toRuntime ts) =
      anyHolds (fieldsTest env packet packet_text) ts
  | [] => rfl
  | t :: ts => by
    rw [RuleTree.readList, any_accepts, anyHolds, match_accepts_holds t, any_accepts_holds ts]

end

theorem fieldsTest_exclude (fields : RuleFields) {key : String} (hKey : key ∈ EXCLUSION_KEYS)
    (item : Value) {noAll noAny : Bool}
    (h : fieldsTest env packet packet_text (fields.exclude key hKey item) noAll noAny = true) :
    fieldsTest env packet packet_text fields noAll noAny = true := by
  obtain ⟨hLists, hIntegers, -, -, hSwitch⟩ := exclusion_ne key hKey
  have hSame : readCriteria env.toRuntime (fields.exclude key hKey item).entries =
      (readCriteria env.toRuntime fields.entries).excluding
        (readCriteria env.toRuntime (fields.exclude key hKey item).entries) :=
    readCriteria_excluding (fun key' h' => get_appendEntry_ne (hLists key' h') item)
      (fun key' h' => get_appendEntry_ne (hIntegers key' h') item)
      (get_appendEntry_ne hSwitch item)
  rw [fieldsTest, hSame] at h
  exact criteriaOk_excluding (readCriteria_excludes (listItems_subset item)) h

theorem below_exclude (added : Exclusion) (t : RuleTree) :
    Below (fieldsTest env packet packet_text) (t.exclude added) t := by
  obtain ⟨fields, all, any, noneOf⟩ := t
  intro h
  cases added with
  | entry key hKey item =>
    rw [RuleTree.exclude] at h
    simp only [holds, Bool.and_eq_true] at h ⊢
    obtain ⟨⟨⟨hOwn, hAll⟩, hAny⟩, hNone⟩ := h
    exact ⟨⟨⟨fieldsTest_exclude fields hKey item hOwn, hAll⟩, hAny⟩, hNone⟩
  | condition t =>
    rw [RuleTree.exclude] at h
    simp only [holds, anyHolds_eq, Bool.and_eq_true, Bool.not_eq_true'] at h ⊢
    obtain ⟨hRest, hNone⟩ := h
    exact ⟨hRest, not_of_subset (any_subset (List.subset_append_left _ _)) hNone⟩

end Trees

/-- One more exclusion anywhere in a match tree: under an even number of `none` lists no packet more
is accepted by the rule, and under an odd number no packet less. -/
theorem exclusions_polar (env : Env) (enabled : Bool) (text : Packet → String) (t : RuleTree)
    (path : List (Branch × Nat)) (added : Exclusion) :
    (Even (noneLists path) → acceptedPackets env enabled text
        (editAt (RuleTree.exclude added) path t) ⊆ acceptedPackets env enabled text t) ∧
      (Odd (noneLists path) → acceptedPackets env enabled text t ⊆
        acceptedPackets env enabled text (editAt (RuleTree.exclude added) path t)) := by
  have hBelow (packet : Packet) : ∀ node : RuleTree,
      Below (fieldsTest env packet (text packet)) (node.exclude added) node := below_exclude added
  have hPolar (packet : Packet) := holds_editAt (hBelow packet) path
  simp only [acceptedPackets, rule_matches_packet, Bool.and_eq_true, match_accepts_holds]
  constructor
  · intro hEven packet hAccepted
    exact ⟨hAccepted.1, (hPolar packet).1 hEven t hAccepted.2⟩
  · intro hOdd packet hAccepted
    exact ⟨hAccepted.1, (hPolar packet).2 hOdd t hAccepted.2⟩

def webFields : RuleFields where
  entries := [("protocols", .list [.str "tcp"]), ("ports", .list [.int 80, .int 443])]
  lists := by decide
  flags := by decide
  integers := by decide
  flat := by decide

/-- Within a `none` list an excluded port lets more through. -/
theorem exclusions_polar_web :
    acceptedPackets Env.ascii true (build_packet_text Env.ascii)
        (.node webFields [] [] [.node webFields [] [] []]) ⊆
      acceptedPackets Env.ascii true (build_packet_text Env.ascii)
        (editAt (RuleTree.exclude (.entry "exclude_ports" (by decide) (.int 8080))) [(.none, 0)]
          (.node webFields [] [] [.node webFields [] [] []])) :=
  (exclusions_polar Env.ascii true _ _ [(.none, 0)] _).2 (by decide)

end Sniff4Hound
