import Sniff4Hound.Library.GroupedFold
import Sniff4Hound.Library.StableOrder
import Sniff4Hound.Text.Value
import Mathlib.Data.Prod.Lex
import Mathlib.Data.String.Basic

/-!
# The export of alerts

`_alert_rows` of `export.py` groups all events that a filter selects before a page is cut. Whatever
the order of the events, a group counts the events of its indicator and has the worst severity, the
earliest and the latest time of them; and the pages, one behind the other, have every group once
(`alert_export`).
-/

namespace Sniff4Hound.Store

structure AlertScope where
  since : String
  severity : String
  search : String

structure AlertSource where
  count_recent_alerts : AlertScope → Nat
  list_recent_alerts : Nat → Nat → AlertScope → List Packet

def SEVERITY_ORDER : List String := ["info", "low", "medium", "high", "critical"]

variable (rt : Runtime)

def severity_rank (value : Value) : Int :=
  let name := rt.lower (strip (value.text rt))
  if name ∈ SEVERITY_ORDER then SEVERITY_ORDER.idxOf name else -1

/-- `_text`. -/
def exportText : Value → String
  | .null => ""
  | value => strip (value.toText rt)

/-- `_int`; the store has no number in a port's column that `int` does not take. -/
def exportInt (value : Value) : Int := (value.toInt? rt).getD 0

/-- What makes an indicator: rule id, rule, source, destination, destination port and protocol. -/
structure AlertKey where
  rule_id : String
  rule : String
  src_ip : String
  dst_ip : String
  dst_port : Int
  proto : String
deriving DecidableEq

structure AlertGroup where
  rule_id : String
  rule : String
  severity : String
  src_ip : String
  src_port : Int
  dst_ip : String
  dst_port : Int
  proto : String
  domain : String
  interface : String
  direction : String
  detail : String
  hit_count : Nat
  first_seen : String
  last_seen : String

def AlertGroup.key (g : AlertGroup) : AlertKey :=
  ⟨g.rule_id, g.rule, g.src_ip, g.dst_ip, g.dst_port, g.proto⟩

def alertKey (row : Packet) : AlertKey where
  rule_id := exportText rt (row "monitor_id")
  rule := exportText rt (row "monitor")
  src_ip := exportText rt (row "src_ip")
  dst_ip := exportText rt (row "dst_ip")
  dst_port := exportInt rt (row "dst_port")
  proto := exportText rt (row "proto")

/-- `_text(row.get("domain")) or _text(row.get("http_host"))`. -/
def alertDomain (row : Packet) : String :=
  if exportText rt (row "domain") = "" then exportText rt (row "http_host")
  else exportText rt (row "domain")

def newEntry (row : Packet) : AlertGroup where
  rule_id := (alertKey rt row).rule_id
  rule := (alertKey rt row).rule
  severity := exportText rt (row "severity")
  src_ip := (alertKey rt row).src_ip
  src_port := exportInt rt (row "src_port")
  dst_ip := (alertKey rt row).dst_ip
  dst_port := (alertKey rt row).dst_port
  proto := (alertKey rt row).proto
  domain := alertDomain rt row
  interface := exportText rt (row "interface")
  direction := exportText rt (row "direction")
  detail := exportText rt (row "detail")
  hit_count := 0
  first_seen := exportText rt (row "created_at")
  last_seen := exportText rt (row "created_at")

def AlertGroup.add (entry : AlertGroup) (row : Packet) : AlertGroup :=
  let created_at := exportText rt (row "created_at")
  { entry with
    hit_count := entry.hit_count + 1
    severity :=
      if severity_rank rt (row "severity") > severity_rank rt (.str entry.severity) then
        exportText rt (row "severity")
      else entry.severity
    detail := if entry.detail = "" then exportText rt (row "detail") else entry.detail
    domain := if entry.domain = "" then alertDomain rt row else entry.domain
    first_seen :=
      if created_at ≠ "" ∧ (entry.first_seen = "" ∨ created_at < entry.first_seen) then created_at
      else entry.first_seen
    last_seen :=
      if created_at ≠ "" ∧ created_at > entry.last_seen then created_at else entry.last_seen }

abbrev SortKey := Int ×ₗ String ×ₗ String ×ₗ String ×ₗ String ×ₗ Int ×ₗ String

def AlertGroup.sortKey (item : AlertGroup) : SortKey :=
  toLex (severity_rank rt (.str item.severity), toLex (item.last_seen, toLex (item.rule_id,
    toLex (item.src_ip, toLex (item.dst_ip, toLex (item.dst_port, item.proto))))))

/-- `_alert_rows`. Sorting with `reverse=True` is stable as well. -/
def alert_rows (source : AlertSource) (scope : AlertScope) : List AlertGroup :=
  let raw_count := source.count_recent_alerts scope
  let raw := if raw_count = 0 then [] else source.list_recent_alerts raw_count 0 scope
  let grouped := Dict.groupInto (alertKey rt) (newEntry rt) (AlertGroup.add rt) raw
  StableOrder.orderBy (fun item => OrderDual.toDual (item.sortKey rt)) (grouped.map Prod.snd)

/-- What `build_export` answers for the alerts, without the time it is made at. -/
structure AlertExport where
  since : String
  limit : Nat
  offset : Nat
  count : Nat
  total_available : Nat
  truncated : Bool
  rows : List AlertGroup

/-- The alerts of `build_export`. -/
def build_export (source : AlertSource) (limit offset : Nat) (scope : AlertScope) : AlertExport :=
  let grouped := alert_rows rt source scope
  let rows := (grouped.drop offset).take limit
  { since := scope.since
    limit
    offset
    count := rows.length
    total_available := grouped.length
    truncated := grouped.length > offset + rows.length
    rows }

def AlertSource.Reads (source : AlertSource) (scope : AlertScope) (events : List Packet) : Prop :=
  source.count_recent_alerts scope = events.length ∧
    (source.list_recent_alerts events.length 0 scope).Perm events

structure Summarizes (g : AlertGroup) (events : List Packet) : Prop where
  hits : g.hit_count = events.length
  severity : ∃ row ∈ events, g.severity = exportText rt (row "severity")
  worst : ∀ row ∈ events, severity_rank rt (row "severity") ≤ severity_rank rt (.str g.severity)
  first_seen : ∃ row ∈ events, g.first_seen = exportText rt (row "created_at")
  earliest : ∀ row ∈ events, exportText rt (row "created_at") ≠ "" →
    g.first_seen ≠ "" ∧ g.first_seen ≤ exportText rt (row "created_at")
  last_seen : ∃ row ∈ events, g.last_seen = exportText rt (row "created_at")
  latest : ∀ row ∈ events, exportText rt (row "created_at") ≤ g.last_seen

/-- The groups are the alerts, each counted once under its key. -/
structure Partitions (groups : List AlertGroup) (events : List Packet) : Prop where
  distinct : (groups.map AlertGroup.key).Nodup
  complete : ∀ key, key ∈ groups.map AlertGroup.key ↔ ∃ row ∈ events, alertKey rt row = key
  summaries : ∀ g ∈ groups, Summarizes rt g (events.filter fun row => alertKey rt row = g.key)
  total : (groups.map AlertGroup.hit_count).sum = events.length

section Groups

variable {rt} {g : AlertGroup} {events : List Packet}

theorem severity_rank_ge (value : Value) : -1 ≤ severity_rank rt value := by
  rw [severity_rank]
  split
  · omega
  · exact le_rfl

theorem severity_rank_text (value : Value) :
    severity_rank rt value ≤ severity_rank rt (.str (exportText rt value)) := by
  by_cases hTrue : value.truthy = true
  · have hText : value.text rt = value.toText rt := by
      rw [Value.text, Value.orElse, if_pos hTrue]
    have hExport : exportText rt value = strip (value.toText rt) := by
      cases value with
      | null => cases hTrue
      | bool | int | float | str | list | dict => rfl
    rw [severity_rank, severity_rank, hText, hExport, text_str, strip_strip]
  · have hText : value.text rt = "" := by
      rw [Value.text, Value.orElse, if_neg hTrue]
      rfl
    have hBlank : strip "" = "" := by decide
    have hNone : rt.lower (strip (value.text rt)) = "" := by
      rw [hText, hBlank]
      exact (rt.lower_eq_empty "").mpr rfl
    have hLast : severity_rank rt value = -1 := by
      rw [severity_rank, hNone, if_neg (by decide)]
    rw [hLast]
    exact severity_rank_ge _

theorem summarizes_first (row : Packet) :
    Summarizes rt ((newEntry rt row).add rt row) [row] := by
  have hSeverity : ((newEntry rt row).add rt row).severity = exportText rt (row "severity") := by
    rw [AlertGroup.add]
    exact ite_self _
  have hFirst : ((newEntry rt row).add rt row).first_seen = exportText rt (row "created_at") := by
    rw [AlertGroup.add]
    exact ite_self _
  have hLast : ((newEntry rt row).add rt row).last_seen = exportText rt (row "created_at") := by
    rw [AlertGroup.add]
    exact ite_self _
  refine ⟨rfl, ⟨row, List.mem_singleton.mpr rfl, hSeverity⟩, ?_,
    ⟨row, List.mem_singleton.mpr rfl, hFirst⟩, ?_, ⟨row, List.mem_singleton.mpr rfl, hLast⟩, ?_⟩
  · intro other hOther
    rw [List.mem_singleton.mp hOther, hSeverity]
    exact severity_rank_text _
  · intro other hOther hTime
    rw [List.mem_singleton.mp hOther] at hTime ⊢
    rw [hFirst]
    exact ⟨hTime, le_rfl⟩
  · intro other hOther
    rw [List.mem_singleton.mp hOther, hLast]

theorem Summarizes.add (h : Summarizes rt g events) (row : Packet) :
    Summarizes rt (g.add rt row) (events ++ [row]) := by
  have hNew : row ∈ events ++ [row] := List.mem_append_right _ (List.mem_singleton.mpr rfl)
  have hOld : ∀ {other}, other ∈ events → other ∈ events ++ [row] := fun hOther =>
    List.mem_append_left _ hOther
  have hEach : ∀ {P : Packet → Prop}, (∀ other ∈ events, P other) → P row →
      ∀ other ∈ events ++ [row], P other := by
    intro P hEvents hRow other hOther
    rcases List.mem_append.mp hOther with hOther | hOther
    · exact hEvents other hOther
    · exact List.mem_singleton.mp hOther ▸ hRow
  have hSeverity : (∃ other ∈ events ++ [row],
        (g.add rt row).severity = exportText rt (other "severity")) ∧
      severity_rank rt (.str g.severity) ≤ severity_rank rt (.str (g.add rt row).severity) ∧
      severity_rank rt (row "severity") ≤ severity_rank rt (.str (g.add rt row).severity) := by
    rw [AlertGroup.add]
    dsimp only
    split
    · next hWorse =>
      have hText := @severity_rank_text rt (row "severity")
      exact ⟨⟨row, hNew, rfl⟩, hWorse.le.trans hText, hText⟩
    · next hMilder =>
      obtain ⟨other, hOther, hSame⟩ := h.severity
      exact ⟨⟨other, hOld hOther, hSame⟩, le_rfl, not_lt.mp hMilder⟩
  have hFirst : (∃ other ∈ events ++ [row],
        (g.add rt row).first_seen = exportText rt (other "created_at")) ∧
      (g.first_seen ≠ "" →
        (g.add rt row).first_seen ≠ "" ∧ (g.add rt row).first_seen ≤ g.first_seen) ∧
      (exportText rt (row "created_at") ≠ "" → (g.add rt row).first_seen ≠ "" ∧
        (g.add rt row).first_seen ≤ exportText rt (row "created_at")) := by
    rw [AlertGroup.add]
    dsimp only
    split
    · next hEarlier =>
      obtain ⟨hTime, hBefore⟩ := hEarlier
      refine ⟨⟨row, hNew, rfl⟩, fun hSome => ⟨hTime, ?_⟩, fun _ => ⟨hTime, le_rfl⟩⟩
      exact (hBefore.resolve_left hSome).le
    · next hLater =>
      obtain ⟨other, hOther, hSame⟩ := h.first_seen
      refine ⟨⟨other, hOld hOther, hSame⟩, fun hSome => ⟨hSome, le_rfl⟩, fun hTime => ?_⟩
      have hBoth := not_or.mp fun hEarly => hLater ⟨hTime, hEarly⟩
      exact ⟨hBoth.1, not_lt.mp hBoth.2⟩
  have hLast : (∃ other ∈ events ++ [row],
        (g.add rt row).last_seen = exportText rt (other "created_at")) ∧
      g.last_seen ≤ (g.add rt row).last_seen ∧
      exportText rt (row "created_at") ≤ (g.add rt row).last_seen := by
    rw [AlertGroup.add]
    dsimp only
    split
    · next hLater => exact ⟨⟨row, hNew, rfl⟩, hLater.2.le, le_rfl⟩
    · next hEarlier =>
      obtain ⟨other, hOther, hSame⟩ := h.last_seen
      refine ⟨⟨other, hOld hOther, hSame⟩, le_rfl, ?_⟩
      by_cases hNone : exportText rt (row "created_at") = ""
      · rw [hNone]
        exact not_lt.mp fun hLess => List.not_lt_nil _ (String.lt_iff_toList_lt.mp hLess)
      · exact not_lt.mp fun hLess => hEarlier ⟨hNone, hLess⟩
  refine ⟨?_, hSeverity.1, hEach (fun other hOther => (h.worst other hOther).trans hSeverity.2.1)
    hSeverity.2.2, hFirst.1, hEach (fun other hOther hTime => ?_) hFirst.2.2, hLast.1,
    hEach (fun other hOther => (h.latest other hOther).trans hLast.2.1) hLast.2.2⟩
  · rw [List.length_append, List.length_singleton, ← h.hits]
    rfl
  · obtain ⟨hSome, hEarly⟩ := h.earliest other hOther hTime
    obtain ⟨hStill, hBefore⟩ := hFirst.2.1 hSome
    exact ⟨hStill, hBefore.trans hEarly⟩

theorem Summarizes.perm {events' : List Packet} (h : Summarizes rt g events)
    (hPerm : events.Perm events') : Summarizes rt g events' := by
  have hMem : ∀ {row}, row ∈ events' → row ∈ events := fun hRow => hPerm.mem_iff.mpr hRow
  obtain ⟨severe, hSevere, hSeverity⟩ := h.severity
  obtain ⟨first, hFirst, hEarly⟩ := h.first_seen
  obtain ⟨last, hLast, hLate⟩ := h.last_seen
  exact ⟨h.hits.trans hPerm.length_eq, ⟨severe, hPerm.mem_iff.mp hSevere, hSeverity⟩,
    fun row hRow => h.worst row (hMem hRow), ⟨first, hPerm.mem_iff.mp hFirst, hEarly⟩,
    fun row hRow => h.earliest row (hMem hRow), ⟨last, hPerm.mem_iff.mp hLast, hLate⟩,
    fun row hRow => h.latest row (hMem hRow)⟩

theorem summarizes_fold {key : AlertKey} (hKey : ∀ row ∈ events, alertKey rt row = key)
    (h : Dict.foldGroup (newEntry rt) (AlertGroup.add rt) events = some g) :
    Summarizes rt g events ∧ g.key = key := by
  induction events using List.reverseRecOn generalizing g with
  | nil => cases h
  | append_singleton events row ih =>
    rw [Dict.foldGroup_snoc] at h
    cases h
    have hRow := hKey row (List.mem_append_right _ (List.mem_singleton.mpr rfl))
    cases hBefore : Dict.foldGroup (newEntry rt) (AlertGroup.add rt) events with
    | none =>
      cases events with
      | nil => exact ⟨summarizes_first row, hRow⟩
      | cons first rest => cases hBefore
    | some before =>
      obtain ⟨hSummary, hSame⟩ := ih
        (fun other hOther => hKey other (List.mem_append_left _ hOther)) hBefore
      exact ⟨hSummary.add row, hSame⟩

theorem partitions_groupInto (events : List Packet) : Partitions rt
    ((Dict.groupInto (alertKey rt) (newEntry rt) (AlertGroup.add rt) events).map Prod.snd)
      events := by
  have hNodup := Dict.nodup_keys_groupInto (alertKey rt) (newEntry rt) (AlertGroup.add rt) events
  have hKeys := Dict.mem_keys_groupInto (alertKey rt) (newEntry rt) (AlertGroup.add rt) events
  have hEntry : ∀ entry ∈ Dict.groupInto (alertKey rt) (newEntry rt) (AlertGroup.add rt) events,
      Summarizes rt entry.2 (events.filter fun row => alertKey rt row = entry.1) ∧
        entry.2.key = entry.1 := by
    rintro ⟨key, g⟩ hMem
    have hFound := Dict.lookup_of_mem hNodup hMem
    rw [Dict.lookup_groupInto] at hFound
    exact summarizes_fold (fun row hRow => of_decide_eq_true (List.mem_filter.mp hRow).2) hFound
  have hMap : ((Dict.groupInto (alertKey rt) (newEntry rt) (AlertGroup.add rt) events).map
      Prod.snd).map AlertGroup.key =
        (Dict.groupInto (alertKey rt) (newEntry rt) (AlertGroup.add rt) events).keys := by
    rw [Dict.keys, List.map_map]
    exact List.map_congr_left fun entry hMem => (hEntry entry hMem).2
  refine ⟨hMap ▸ hNodup, fun key => hMap ▸ hKeys key, ?_, ?_⟩
  · intro g hMem
    obtain ⟨entry, hAt, rfl⟩ := List.mem_map.mp hMem
    obtain ⟨hSummary, hKey⟩ := hEntry entry hAt
    rw [hKey]
    exact hSummary
  · rw [← Dict.sum_filter_length (alertKey rt) hNodup hKeys, Dict.keys, List.map_map, List.map_map]
    exact congrArg List.sum (List.map_congr_left fun entry hMem => (hEntry entry hMem).1.hits)

theorem Partitions.perm {groups groups' : List AlertGroup} {events' : List Packet}
    (h : Partitions rt groups events) (hGroups : groups'.Perm groups)
    (hEvents : events.Perm events') :
    Partitions rt groups' events' := by
  refine ⟨((hGroups.map _).nodup_iff).mpr h.distinct, fun key => ?_, fun g hMem => ?_, ?_⟩
  · rw [(hGroups.map _).mem_iff, h.complete]
    simp only [hEvents.mem_iff]
  · exact (h.summaries g (hGroups.mem_iff.mp hMem)).perm (hEvents.filter _)
  · rw [(hGroups.map _).sum_eq, h.total, hEvents.length_eq]

end Groups

theorem pages_eq {α : Type*} (rows : List α) (offset limit pages : Nat) :
    ((List.range pages).flatMap fun k => (rows.drop (offset + k * limit)).take limit) =
      (rows.drop offset).take (pages * limit) := by
  induction pages with
  | zero => rw [Nat.zero_mul, List.take_zero, List.range_zero, List.flatMap_nil]
  | succ pages ih =>
    rw [List.range_succ, List.flatMap_append, ih, List.flatMap_singleton, ← List.drop_drop,
      Nat.succ_mul, List.take_add]

/-- The groups partition the events in whatever order these are read, and the pages give every group
once. -/
theorem alert_export {source : AlertSource} {scope : AlertScope} {events : List Packet}
    (h : source.Reads scope events) :
    Partitions rt (alert_rows rt source scope) events ∧
      (∀ limit offset pages, ((List.range pages).flatMap fun k =>
        (build_export rt source limit (offset + k * limit) scope).rows) =
          ((alert_rows rt source scope).drop offset).take (pages * limit)) ∧
      ∀ limit pages, (alert_rows rt source scope).length ≤ pages * limit →
        ((List.range pages).flatMap fun k =>
          (build_export rt source limit (k * limit) scope).rows) = alert_rows rt source scope := by
  obtain ⟨hCount, hRead⟩ := h
  have hPages : ∀ limit offset pages, ((List.range pages).flatMap fun k =>
      (build_export rt source limit (offset + k * limit) scope).rows) =
        ((alert_rows rt source scope).drop offset).take (pages * limit) :=
    fun limit offset pages => pages_eq (alert_rows rt source scope) offset limit pages
  refine ⟨?_, hPages, fun limit pages hEnough => ?_⟩
  · have hRaw : (if source.count_recent_alerts scope = 0 then []
        else source.list_recent_alerts (source.count_recent_alerts scope) 0 scope).Perm events := by
      split
      · next hNone =>
        rw [hCount] at hNone
        rw [List.eq_nil_of_length_eq_zero hNone]
      · rwa [hCount]
    exact (partitions_groupInto _).perm (StableOrder.perm_orderBy _ _) hRaw
  · have hAll := hPages limit 0 pages
    simp only [Nat.zero_add] at hAll
    rw [hAll, List.drop_zero, List.take_of_length_le hEnough]

def scanAlert (severity created_at : String) : Packet := fun name =>
  if name = "monitor" then .str "scan" else if name = "severity" then .str severity
  else if name = "created_at" then .str created_at else .null

/-- Two alerts of one indicator, which the store gives in their reverse order. -/
theorem alert_export_two : Partitions .ascii
    (alert_rows .ascii ⟨fun _ => 2, fun _ _ _ =>
      [scanAlert "high" "2024-01-02", scanAlert "low" "2024-01-01"]⟩ ⟨"", "", ""⟩)
    [scanAlert "low" "2024-01-01", scanAlert "high" "2024-01-02"] :=
  (@alert_export .ascii ⟨fun _ => 2, fun _ _ _ =>
    [scanAlert "high" "2024-01-02", scanAlert "low" "2024-01-01"]⟩ ⟨"", "", ""⟩ _
      ⟨rfl, List.Perm.swap _ _ _⟩).1

end Sniff4Hound.Store
