import Sniff4Hound.Store.Retention

/-!
# The row cap of a sweep

The rows that hang off packets are deleted with them when packets go by age, before the tables are
cut down to their newest rows. The cut of the packets table is by id alone: it takes packets whose
tags and payloads stay behind, and alert packets while newer packets without a tag are left. One
sweep keeps the tables in order exactly when the cap takes no such packet (`sweep_keeps_iff`).
-/

namespace Sniff4Hound.Store

/-! ## What a sweep should leave -/

/-- After the sweep every tag and payload has its packet, and when the cap took an alert packet
inside its window no packet without a high or critical tag is left. -/
structure SweepKeeps (policy : RetentionPolicy) (now now' : Nat) (s : Retained) : Prop where
  tags : ∀ tag ∈ (policy.enforce_retention now now' s).db.tags.rows,
    (policy.enforce_retention now now' s).db.packets.has tag.2.packet_id = true
  payloads : ∀ payload ∈ (policy.enforce_retention now now' s).db.payloads.rows,
    (policy.enforce_retention now now' s).db.packets.has payload.2.packet_id = true
  preference : ∀ taken ∈ (policy.delete_expired now now' s.db).packets.rows,
    taken ∉ (policy.enforce_retention now now' s).db.packets.rows →
    flagged s.db taken.1 = true →
    olderThan taken.2.packet.created_at policy.alertDays now' = false →
      ∀ left ∈ (policy.enforce_retention now now' s).db.packets.rows,
        flagged (policy.enforce_retention now now' s).db left.1 = true

/-! ## What the cap takes -/

namespace RetentionPolicy

variable (policy : RetentionPolicy) (now now' : Nat) (db : Db Stamp)

def stays (row : Nat × PacketRow Stamp) : Bool :=
  !(decide (0 < policy.retention_days) &&
    (olderThan row.2.packet.created_at policy.retention_days now &&
      (olderThan row.2.packet.created_at policy.alertDays now' || !flagged db row.1)))

def staysId (id : Nat) : Bool :=
  db.packets.rows.any fun row => row.1 = id && policy.stays now now' db row

def newerPackets (id : Nat) : Nat :=
  db.packets.rows.countP fun row => id < row.1 && policy.stays now now' db row

def newerRows {ρ : Type} (owner : ρ → Nat) (rows : List (Nat × ρ)) (id : Nat) : Nat :=
  rows.countP fun row => id < row.1 && policy.staysId now now' db (owner row.2)

def newerTags (id : Nat) : Nat :=
  policy.newerRows now now' db TagRow.packet_id db.tags.rows id

def newerPayloads (id : Nat) : Nat :=
  policy.newerRows now now' db PayloadRow.packet_id db.payloads.rows id

def overCap (row : Nat × PacketRow Stamp) : Prop :=
  policy.stays now now' db row = true ∧
    policy.table_limits .packets ≤ policy.newerPackets now now' db row.1

def underCap (row : Nat × PacketRow Stamp) : Prop :=
  policy.stays now now' db row = true ∧
    policy.newerPackets now now' db row.1 < policy.table_limits .packets

end RetentionPolicy

/-- The cap takes no packet with a tag or payload that its own table keeps, and if it takes an alert
packet inside its window, every packet it leaves has a high or critical tag that is kept. -/
structure CapSpares (policy : RetentionPolicy) (now now' : Nat) (db : Db Stamp) : Prop where
  tags : ∀ row ∈ db.packets.rows, policy.overCap now now' db row → ∀ tag ∈ db.tags.rows,
    tag.2.packet_id = row.1 → policy.table_limits .tags ≤ policy.newerTags now now' db tag.1
  payloads : ∀ row ∈ db.packets.rows, policy.overCap now now' db row →
    ∀ payload ∈ db.payloads.rows, payload.2.packet_id = row.1 →
      policy.table_limits .payloads ≤ policy.newerPayloads now now' db payload.1
  alerts : ∀ taken ∈ db.packets.rows, policy.overCap now now' db taken →
    flagged db taken.1 = true →
    olderThan taken.2.packet.created_at policy.alertDays now' = false →
      ∀ row ∈ db.packets.rows, policy.underCap now now' db row →
        ∃ tag ∈ db.tags.rows, tag.2.packet_id = row.1 ∧ highTag tag.2 = true ∧
          policy.newerTags now now' db tag.1 < policy.table_limits .tags

/-! ## The tables after the sweep -/

section Tables

variable {policy : RetentionPolicy} {now now' id : Nat} {db : Db Stamp} {s : Retained}
  {row : Nat × PacketRow Stamp}

theorem rows_delete_expired : (policy.delete_expired now now' db).packets.rows =
    db.packets.rows.filter (policy.stays now now' db) := by
  by_cases hDays : 0 < policy.retention_days
  · rw [RetentionPolicy.delete_expired, if_pos hDays]
    change db.packets.rows.filter _ = db.packets.rows.filter _
    apply List.filter_congr
    intro row _
    rw [RetentionPolicy.stays, decide_eq_true hDays, Bool.true_and]
  · rw [RetentionPolicy.delete_expired, if_neg hDays]
    symm
    apply List.filter_eq_self.mpr
    intro row _
    rw [RetentionPolicy.stays, decide_eq_false hDays, Bool.false_and, Bool.not_false]

theorem payloads_delete_expired (policy : RetentionPolicy) (now now' : Nat) (db : Db Stamp) :
    (policy.delete_expired now now' db).payloads = db.payloads := by
  unfold RetentionPolicy.delete_expired
  split
  · rfl
  · rfl

theorem mem_delete_expired : row ∈ (policy.delete_expired now now' db).packets.rows ↔
    row ∈ db.packets.rows ∧ policy.stays now now' db row = true := by
  rw [rows_delete_expired, List.mem_filter]

theorem has_delete_expired : (policy.delete_expired now now' db).packets.has id =
    policy.staysId now now' db id := by
  rw [AutoTable.has, rows_delete_expired, List.any_filter, RetentionPolicy.staysId]
  congr 1
  funext row
  exact Bool.and_comm _ _

theorem mem_packets_swept :
    row ∈ (policy.enforce_retention now now' s).db.packets.rows ↔
      row ∈ s.db.packets.rows ∧ policy.underCap now now' s.db row := by
  have hTrim : row ∈ (policy.enforce_retention now now' s).db.packets.rows ↔ _ :=
    AutoTable.mem_trim
  rw [hTrim]
  change row ∈ (policy.delete_expired now now' s.db).packets.rows ∧
    (policy.delete_expired now now' s.db).packets.rows.countP _ < _ ↔ _
  rw [mem_delete_expired, rows_delete_expired, List.countP_filter, and_assoc]
  exact Iff.rfl

theorem mem_hanging {ρ : Type} {owner : ρ → Nat} {t : AutoTable ρ} {limit : Nat} {row : Nat × ρ} :
    row ∈ ((t.filter fun row =>
        (policy.delete_expired now now' db).packets.has (owner row.2)).trim limit).rows ↔
      row ∈ t.rows ∧ policy.staysId now now' db (owner row.2) = true ∧
        policy.newerRows now now' db owner t.rows row.1 < limit := by
  rw [AutoTable.mem_trim, AutoTable.rows_filter, List.mem_filter, List.countP_filter, and_assoc]
  simp only [has_delete_expired]
  exact Iff.rfl

theorem tags_swept : (policy.enforce_retention now now' s).db.tags =
    (s.db.tags.filter fun row =>
      (policy.delete_expired now now' s.db).packets.has row.2.packet_id).trim
        (policy.table_limits .tags) := by
  rewrite [← tags_delete_expired policy now now' s.db]
  rfl

theorem payloads_swept : (policy.enforce_retention now now' s).db.payloads =
    (s.db.payloads.filter fun row =>
      (policy.delete_expired now now' s.db).packets.has row.2.packet_id).trim
        (policy.table_limits .payloads) := by
  rewrite [← payloads_delete_expired policy now now' s.db]
  rfl

theorem mem_tags_swept {tag : Nat × TagRow Stamp} :
    tag ∈ (policy.enforce_retention now now' s).db.tags.rows ↔
      tag ∈ s.db.tags.rows ∧ policy.staysId now now' s.db tag.2.packet_id = true ∧
        policy.newerTags now now' s.db tag.1 < policy.table_limits .tags := by
  rw [tags_swept]
  exact mem_hanging

theorem mem_payloads_swept {payload : Nat × PayloadRow Stamp} :
    payload ∈ (policy.enforce_retention now now' s).db.payloads.rows ↔
      payload ∈ s.db.payloads.rows ∧ policy.staysId now now' s.db payload.2.packet_id = true ∧
        policy.newerPayloads now now' s.db payload.1 < policy.table_limits .payloads := by
  rw [payloads_swept]
  exact mem_hanging

theorem staysId_iff : policy.staysId now now' db id = true ↔
    ∃ row ∈ db.packets.rows, row.1 = id ∧ policy.stays now now' db row = true := by
  rw [RetentionPolicy.staysId, List.any_eq_true]
  simp only [Bool.and_eq_true, decide_eq_true_eq]

theorem overCap_or_underCap (h : policy.stays now now' db row = true) :
    policy.overCap now now' db row ∨ policy.underCap now now' db row := by
  rcases Nat.lt_or_ge (policy.newerPackets now now' db row.1) (policy.table_limits .packets)
    with hUnder | hOver
  · exact .inr ⟨h, hUnder⟩
  · exact .inl ⟨h, hOver⟩

theorem has_swept_iff (h : policy.staysId now now' s.db id = true) :
    (policy.enforce_retention now now' s).db.packets.has id = true ↔
      ∀ row ∈ s.db.packets.rows, row.1 = id → ¬policy.overCap now now' s.db row := by
  rw [AutoTable.has_iff]
  simp only [mem_packets_swept]
  constructor
  · rintro ⟨left, -, hUnder⟩ row - hId hOver
    have hMany := hOver.2
    rw [hId] at hMany
    exact Nat.lt_irrefl _ (hUnder.2.trans_le hMany)
  · intro hNone
    obtain ⟨row, hRow, rfl, hStays⟩ := staysId_iff.mp h
    exact ⟨row.2, hRow, (overCap_or_underCap hStays).resolve_left (hNone row hRow rfl)⟩

theorem flagged_iff : flagged db id = true ↔
    ∃ tag ∈ db.tags.rows, tag.2.packet_id = id ∧ highTag tag.2 = true := by
  rw [flagged, List.any_eq_true]
  simp only [Bool.and_eq_true, decide_eq_true_eq]

theorem flagged_swept_iff (h : policy.staysId now now' s.db id = true) :
    flagged (policy.enforce_retention now now' s).db id = true ↔
      ∃ tag ∈ s.db.tags.rows, tag.2.packet_id = id ∧ highTag tag.2 = true ∧
        policy.newerTags now now' s.db tag.1 < policy.table_limits .tags := by
  rw [flagged_iff]
  simp only [mem_tags_swept]
  constructor
  · rintro ⟨tag, ⟨hTag, -, hKept⟩, hId, hHigh⟩
    exact ⟨tag, hTag, hId, hHigh, hKept⟩
  · rintro ⟨tag, hTag, hId, hHigh, hKept⟩
    exact ⟨tag, ⟨hTag, hId ▸ h, hKept⟩, hId, hHigh⟩

/-- The rows of a hanging table all have their packet exactly when its cut takes those whose packet
the cap takes. -/
theorem hanging_iff {ρ : Type} {owner : ρ → Nat} {rows after : List (Nat × ρ)} {limit : Nat}
    (hAfter : ∀ row, row ∈ after ↔ row ∈ rows ∧
      policy.staysId now now' s.db (owner row.2) = true ∧
        policy.newerRows now now' s.db owner rows row.1 < limit) :
    (∀ row ∈ after, (policy.enforce_retention now now' s).db.packets.has (owner row.2) = true) ↔
      ∀ packet ∈ s.db.packets.rows, policy.overCap now now' s.db packet → ∀ row ∈ rows,
        owner row.2 = packet.1 → limit ≤ policy.newerRows now now' s.db owner rows row.1 := by
  constructor
  · intro hAll packet hPacket hOver row hRow hOwner
    by_contra hKept
    have hStays : policy.staysId now now' s.db (owner row.2) = true :=
      staysId_iff.mpr ⟨packet, hPacket, hOwner.symm, hOver.1⟩
    have hHas := hAll row ((hAfter row).mpr ⟨hRow, hStays, Nat.lt_of_not_le hKept⟩)
    exact (has_swept_iff hStays).mp hHas packet hPacket hOwner.symm hOver
  · intro hCut row hRow
    obtain ⟨hOld, hStays, hKept⟩ := (hAfter row).mp hRow
    rw [has_swept_iff hStays]
    intro packet hPacket hId hOver
    exact Nat.lt_irrefl _ (hKept.trans_le (hCut packet hPacket hOver row hOld hId.symm))

end Tables

/-- One sweep leaves no row without its packet, and no packet without a high tag where it took an
alert packet inside its window, exactly when the cap spares them. -/
theorem sweep_keeps_iff (policy : RetentionPolicy) (now now' : Nat) (s : Retained) :
    SweepKeeps policy now now' s ↔ CapSpares policy now now' s.db := by
  have hTags := hanging_iff fun tag => @mem_tags_swept policy now now' s tag
  have hPayloads := hanging_iff fun payload => @mem_payloads_swept policy now now' s payload
  constructor
  · intro h
    refine ⟨hTags.mp h.tags, hPayloads.mp h.payloads, ?_⟩
    intro taken hTaken hOver hFlagged hFresh row hRow hUnder
    have hGone : taken ∉ (policy.enforce_retention now now' s).db.packets.rows := by
      rw [mem_packets_swept]
      exact fun hLeft => Nat.lt_irrefl _ (hLeft.2.2.trans_le hOver.2)
    have hStays : policy.staysId now now' s.db row.1 = true :=
      staysId_iff.mpr ⟨row, hRow, rfl, hUnder.1⟩
    exact (flagged_swept_iff hStays).mp (h.preference taken
      (mem_delete_expired.mpr ⟨hTaken, hOver.1⟩) hGone hFlagged hFresh row
        (mem_packets_swept.mpr ⟨hRow, hUnder⟩))
  · intro h
    refine ⟨hTags.mpr h.tags, hPayloads.mpr h.payloads, ?_⟩
    intro taken hTaken hGone hFlagged hFresh left hLeft
    obtain ⟨hRow, hUnder⟩ := mem_packets_swept.mp hLeft
    obtain ⟨hOld, hStaysTaken⟩ := mem_delete_expired.mp hTaken
    have hOver : policy.overCap now now' s.db taken := by
      refine (overCap_or_underCap hStaysTaken).resolve_right fun hKept => hGone ?_
      exact mem_packets_swept.mpr ⟨hOld, hKept⟩
    have hStays : policy.staysId now now' s.db left.1 = true :=
      staysId_iff.mpr ⟨left, hRow, rfl, hUnder.1⟩
    exact (flagged_swept_iff hStays).mpr
      (h.alerts taken hOld hOver hFlagged hFresh left hRow hUnder)

/-! ## An alert packet over the cap -/

def hundredPolicy : RetentionPolicy where
  retention_days := 7
  retention_alert_days := 30
  table_limits
    | .packets => 100
    | _ => 1000

def numberedPackets (count : Nat) (row : PacketRow Stamp) : AutoTable (PacketRow Stamp) where
  rows := (List.range' 1 count).map fun id => (id, row)
  seq := count
  ordered := List.pairwise_map.mpr List.pairwise_lt_range'
  le_seq := by
    intro entry hEntry
    obtain ⟨id, hId, rfl⟩ := List.mem_map.mp hEntry
    have hBound := (List.mem_range'_1.mp hId).2
    dsimp only
    omega

def alertBehindHundred : Db Stamp :=
  { Db.empty with
    packets := numberedPackets 101 (Db.landedRow (stampedWrite []) .empty)
    tags := (AutoTable.empty.insert
      ((stampedWrite []).tagRow 1 ⟨"monitor", "port scan", "high"⟩)).2 }

/-- The cap takes the alert packet, the untagged ones stay, and so do its tags. -/
theorem alert_capped : ¬∀ (policy : RetentionPolicy) (now now' : Nat) (s : Retained),
    SweepKeeps policy now now' s := by
  intro h
  have hTags := (h hundredPolicy 0 0 ⟨alertBehindHundred, .empty, .empty, 0⟩).tags
  have hOrphan : ((hundredPolicy.enforce_retention 0 0
      ⟨alertBehindHundred, .empty, .empty, 0⟩).db.tags.rows.all fun tag =>
        (hundredPolicy.enforce_retention 0 0
          ⟨alertBehindHundred, .empty, .empty, 0⟩).db.packets.has tag.2.packet_id) = false := by
    decide +kernel
  rw [List.all_eq_true.mpr hTags] at hOrphan
  cases hOrphan

end Sniff4Hound.Store
