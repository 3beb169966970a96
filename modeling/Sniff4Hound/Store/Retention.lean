import Sniff4Hound.Pipeline.StorePacket
import Sniff4Hound.Store.BatchWrite

/-!
# The retention of alert packets

`enforce_retention` deletes packets older than `retention_days`, but those with a high or
critical tag only when they are older than `retention_alert_days` too, and then cuts every
table down to its newest rows. What protects an alert packet are rows of the tags table,
which has a limit of its own: a sweep that cuts them off makes a later one take the packet
for an ordinary one. An alert packet lives its time out in every run whose sweeps leave each
such packet a tag (`alert_outlives`).
-/

namespace Sniff4Hound.Store

/-! ## The sweep -/

structure Stamp where
  created_at : Nat
deriving DecidableEq

inductive CaptureTable
  | packets
  | payloads
  | flows
  | tags
  | sessions
  | domains
  | paths
deriving DecidableEq

structure RetentionPolicy where
  retention_days : Nat
  retention_alert_days : Nat
  table_limits : CaptureTable → Nat

/-- The swept tables and the clock. -/
structure Retained where
  db : Db Stamp
  domains : AutoTable String
  paths : AutoTable String
  now : Nat

def Retained.empty : Retained := ⟨.empty, .empty, .empty, 0⟩

/-- `severity IN ('high', 'critical')` -/
def highTag {κ : Type} (row : TagRow κ) : Bool := row.severity = "high" || row.severity = "critical"

def flagged (db : Db Stamp) (packet_id : Nat) : Bool :=
  db.tags.rows.any fun row => row.2.packet_id = packet_id && highTag row.2

/-- `created_at < utc_since(days * 86400)` -/
def olderThan (time days now : Nat) : Bool := time + days * 86400 < now

namespace RetentionPolicy

def alertDays (policy : RetentionPolicy) : Nat :=
  max policy.retention_days policy.retention_alert_days

def delete_expired (policy : RetentionPolicy) (now now' : Nat) (db : Db Stamp) : Db Stamp :=
  if 0 < policy.retention_days then
    { db with
      packets := db.packets.filter fun row =>
        !(olderThan row.2.packet.created_at policy.retention_days now &&
          (olderThan row.2.packet.created_at policy.alertDays now' || !flagged db row.1))
      flows := db.flows.filter fun entry =>
        !olderThan entry.2.packet.created_at policy.retention_days now }
  else db

def cascade (db : Db Stamp) : Db Stamp :=
  { db with
    tags := db.tags.filter fun row => db.packets.has row.2.packet_id
    payloads := db.payloads.filter fun row => db.packets.has row.2.packet_id }

def trim_tables (policy : RetentionPolicy) (s : Retained) : Retained :=
  { s with
    db := { s.db with
      packets := s.db.packets.trim (policy.table_limits .packets)
      payloads := s.db.payloads.trim (policy.table_limits .payloads)
      flows := s.db.flows.drop (s.db.flows.length - policy.table_limits .flows)
      tags := s.db.tags.trim (policy.table_limits .tags)
      sessions := s.db.sessions.trim (policy.table_limits .sessions) }
    domains := s.domains.trim (policy.table_limits .domains)
    paths := s.paths.trim (policy.table_limits .paths) }

def enforce_retention (policy : RetentionPolicy) (now now' : Nat) (s : Retained) : Retained :=
  policy.trim_tables { s with db := cascade (policy.delete_expired now now' s.db), now := now' }

end RetentionPolicy

/-! ## Runs -/

/-- A packet is stored, or the sweep is run. -/
inductive RetentionCall
  | register (w : PacketWrite Stamp)
  | enforce (now now' : Nat)

def Retained.step (policy : RetentionPolicy) (s : Retained) : RetentionCall → Option Retained
  | .register w =>
    if s.now ≤ w.packet.created_at ∧
        s.db.packets.rows.length < policy.table_limits .packets then
      some { s with db := s.db.land w, now := w.packet.created_at }
    else none
  | .enforce now now' =>
    if s.now ≤ now ∧ now ≤ now' ∧
        s.db.packets.rows.length ≤ policy.table_limits .packets then
      some (policy.enforce_retention now now' s)
    else none

def PacketWrite.Alert {κ : Type} (w : PacketWrite κ) : Prop :=
  ∃ tag ∈ w.tags, tag.key ≠ "" ∧ (tag.severity = "high" ∨ tag.severity = "critical")

def RetentionPolicy.alertSeconds (policy : RetentionPolicy) : Nat := policy.alertDays * 86400

/-- A sweep leaves every alert packet that has time left one of its high tags: fewer tags than
the limit are newer, of those whose packets stay. -/
def Spares (policy : RetentionPolicy) (s : Retained) : RetentionCall → Prop
  | .register _ => True
  | .enforce now now' =>
    let tags := (RetentionPolicy.cascade (policy.delete_expired now now' s.db)).tags.rows
    ∀ row ∈ s.db.packets.rows, now' < row.2.packet.created_at + policy.alertSeconds →
      flagged s.db row.1 = true → ∃ tag ∈ s.db.tags.rows, tag.2.packet_id = row.1 ∧
        highTag tag.2 = true ∧
          tags.countP (fun tag' => tag.1 < tag'.1) < policy.table_limits .tags

instance (policy : RetentionPolicy) (s : Retained) (call : RetentionCall) :
    Decidable (Spares policy s call) :=
  match call with
  | .register _ => isTrue trivial
  | .enforce now now' => inferInstanceAs (Decidable (∀ row ∈ s.db.packets.rows,
      now' < row.2.packet.created_at + policy.alertSeconds → flagged s.db row.1 = true →
        ∃ tag ∈ s.db.tags.rows, tag.2.packet_id = row.1 ∧ highTag tag.2 = true ∧
          (RetentionPolicy.cascade (policy.delete_expired now now' s.db)).tags.rows.countP
            (fun tag' => tag.1 < tag'.1) < policy.table_limits .tags))

/-! ## What a registration adds -/

section Land

variable {κ : Type} {w : PacketWrite κ} {db : Db κ}

theorem tags_ensureSession (session_id : Nat) : (db.ensureSession session_id).2.tags = db.tags := by
  unfold Db.ensureSession
  split <;> rfl

theorem tags_land :
    let ensured := db.ensureSession w.session_id
    (db.land w).tags = (((ensured.2.insertPacket w ensured.1).2.upsertFlow w).insertTags w
      (db.packets.seq + 1) w.tags).tags := by
  intro ensured
  have hId : (ensured.2.insertPacket w ensured.1).1 = db.packets.seq + 1 := by
    show (db.ensureSession w.session_id).2.packets.seq + 1 = _
    rw [Db.packets_ensureSession]
  show (Db.insertPayloads w _ _).tags = _
  rw [(Db.insertPayloads_frame w _ _).2.2.2, hId]

theorem tags_subset_land : db.tags.rows ⊆ (db.land w).tags.rows := by
  rw [tags_land]
  refine List.Subset.trans ?_ (Db.insertTags_frame w _ _ _).2.2.2.2
  rw [Db.tags_upsertFlow]
  show db.tags.rows ⊆ (db.ensureSession w.session_id).2.tags.rows
  rw [tags_ensureSession]
  exact List.Subset.refl _

theorem packets_subset_land : db.packets.rows ⊆ (db.land w).packets.rows := by
  rw [Db.packets_land]
  exact List.subset_append_left _ _

theorem mem_packets_land : (db.packets.seq + 1, db.landedRow w) ∈ (db.land w).packets.rows := by
  rw [Db.packets_land]
  exact List.mem_append_right _ (List.mem_singleton.mpr rfl)

theorem mem_tags_land (db : Db κ) {tag : PacketTag} (hTag : tag ∈ w.tags)
    (hKey : tag.key ≠ "") :
    ∃ i, (i, w.tagRow (db.packets.seq + 1) tag) ∈ (db.land w).tags.rows := by
  rw [tags_land]
  exact Db.mem_insertTags w _ _ hTag hKey

end Land

/-! ## An alert packet -/

structure Guarded (id : Nat) (row : PacketRow Stamp) (db : Db Stamp) : Prop where
  packet : (id, row) ∈ db.packets.rows
  tag : ∃ tag ∈ db.tags.rows, tag.2.packet_id = id ∧ highTag tag.2 = true

section Sweep

variable {policy : RetentionPolicy} {id : Nat} {row : PacketRow Stamp} {db : Db Stamp}
  {s t : Retained} {now now' : Nat}

theorem Guarded.flagged (h : Guarded id row db) : flagged db id = true := by
  obtain ⟨tag, hTag, hId, hHigh⟩ := h.tag
  refine List.any_eq_true.mpr ⟨tag, hTag, ?_⟩
  rw [Bool.and_eq_true]
  exact ⟨decide_eq_true hId, hHigh⟩

theorem Guarded.land (h : Guarded id row db) (w : PacketWrite Stamp) :
    Guarded id row (db.land w) := by
  obtain ⟨tag, hTag, hId, hHigh⟩ := h.tag
  exact ⟨packets_subset_land h.packet, tag, tags_subset_land hTag, hId, hHigh⟩

theorem guarded_land {w : PacketWrite Stamp} (h : w.Alert) (db : Db Stamp) :
    Guarded (db.packets.seq + 1) (db.landedRow w) (db.land w) := by
  obtain ⟨tag, hTag, hKey, hSeverity⟩ := h
  obtain ⟨i, hRow⟩ := mem_tags_land db hTag hKey
  refine ⟨mem_packets_land, _, hRow, rfl, ?_⟩
  show (decide (tag.severity = "high") || decide (tag.severity = "critical")) = true
  simpa using hSeverity

theorem tags_delete_expired (policy : RetentionPolicy) (now now' : Nat) (db : Db Stamp) :
    (policy.delete_expired now now' db).tags = db.tags := by
  unfold RetentionPolicy.delete_expired
  split <;> rfl

theorem length_delete_expired :
    (policy.delete_expired now now' db).packets.rows.length ≤ db.packets.rows.length := by
  unfold RetentionPolicy.delete_expired
  split
  · exact List.length_filter_le _ _
  · exact Nat.le_refl _

theorem Guarded.mem_delete_expired (h : Guarded id row db)
    (hTime : now' < row.packet.created_at + policy.alertSeconds) :
    (id, row) ∈ (policy.delete_expired now now' db).packets.rows := by
  unfold RetentionPolicy.delete_expired
  split
  · refine List.mem_filter.mpr ⟨h.packet, ?_⟩
    have hYoung : olderThan row.packet.created_at policy.alertDays now' = false := by
      unfold RetentionPolicy.alertSeconds at hTime
      unfold olderThan
      simp only [decide_eq_false_iff_not]
      omega
    dsimp only
    rw [hYoung, h.flagged]
    simp
  · exact h.packet

theorem packets_enforce_retention
    (hFits : s.db.packets.rows.length ≤ policy.table_limits .packets) :
    (policy.enforce_retention now now' s).db.packets.rows =
      (policy.delete_expired now now' s.db).packets.rows :=
  AutoTable.rows_trim_of_le (Nat.le_trans length_delete_expired hFits)

theorem Guarded.enforce_retention (h : Guarded id row s.db)
    (hTime : now' < row.packet.created_at + policy.alertSeconds)
    (hFits : s.db.packets.rows.length ≤ policy.table_limits .packets)
    (hSpares : Spares policy s (.enforce now now')) :
    Guarded id row (policy.enforce_retention now now' s).db := by
  have hStays : (id, row) ∈ (policy.delete_expired now now' s.db).packets.rows :=
    h.mem_delete_expired hTime
  refine ⟨?_, ?_⟩
  · rwa [packets_enforce_retention hFits]
  · obtain ⟨tag, hTag, hId, hHigh, hNewer⟩ := hSpares _ h.packet hTime h.flagged
    refine ⟨tag, AutoTable.mem_trim.mpr ⟨?_, hNewer⟩, hId, hHigh⟩
    refine List.mem_filter.mpr ⟨?_, ?_⟩
    · rwa [tags_delete_expired]
    · rw [hId]
      exact AutoTable.has_iff.mpr ⟨row, hStays⟩

theorem guarded_step {call : RetentionCall}
    (h : s.now < row.packet.created_at + policy.alertSeconds → Guarded id row s.db)
    (hSpares : Spares policy s call) (hStep : s.step policy call = some t)
    (hTime : t.now < row.packet.created_at + policy.alertSeconds) : Guarded id row t.db := by
  cases call with
  | register w =>
    obtain ⟨hEnabled, hNext⟩ := Option.ite_none_right_eq_some.mp hStep
    cases hNext
    exact (h (Nat.lt_of_le_of_lt hEnabled.1 hTime)).land w
  | enforce now now' =>
    obtain ⟨⟨hClock, hLater, hFits⟩, hNext⟩ := Option.ite_none_right_eq_some.mp hStep
    cases hNext
    have hNow : now' < row.packet.created_at + policy.alertSeconds := hTime
    exact (h (by omega)).enforce_retention hNow hFits hSpares

end Sweep

/-- In every run whose sweeps leave each alert packet one of its high tags among the newest
tags, a packet registered with a high or critical tag is stored as long as it has time left. -/
theorem alert_outlives (policy : RetentionPolicy) {s s₁ t : Retained} {w : PacketWrite Stamp}
    {calls : List RetentionCall} (hAlert : w.Alert)
    (hRegister : s.step policy (.register w) = some s₁)
    (hRun : StepRun.run (StepRun.guarded (Spares policy) (Retained.step policy)) s₁ calls = some t)
    (hTime : t.now < w.packet.created_at + policy.alertSeconds) :
    (s.db.packets.seq + 1, s.db.landedRow w) ∈ t.db.packets.rows := by
  obtain ⟨-, hNext⟩ := Option.ite_none_right_eq_some.mp hRegister
  cases hNext
  have hInvariant := StepRun.run_induction (P := fun _ t =>
    t.now < w.packet.created_at + policy.alertSeconds →
      Guarded (s.db.packets.seq + 1) (s.db.landedRow w) t.db)
    (fun _ => guarded_land hAlert s.db) ?_ hRun
  · exact (hInvariant hTime).packet
  · intro _ u call v _ h hStep hLater
    obtain ⟨hSpares, hTaken⟩ := StepRun.guarded_eq_some.mp hStep
    have hNext : Guarded (s.db.packets.seq + 1) (s.db.landedRow w) v.db :=
      guarded_step h hSpares hTaken hLater
    exact hNext

/-! ## Where the tags come from -/

/-- What `_insert_tag_rows` makes of a tag. -/
def storedTag (rt : Runtime) (tag : Sniff4Hound.PacketTag) : PacketTag :=
  ⟨strip tag.key, strip tag.value, rt.lower (strip (tag.severity.getD ""))⟩

/-! ## Tags cut off before their packet -/

def weekPolicy : RetentionPolicy where
  retention_days := 7
  retention_alert_days := 30
  table_limits
    | .packets => 1000
    | .tags => 100
    | _ => 1000

def plainTags : List PacketTag :=
  [⟨"proto", "tcp", ""⟩, ⟨"state", "open", ""⟩, ⟨"direction", "in", ""⟩]

def stampedWrite (tags : List PacketTag) : PacketWrite Stamp :=
  ⟨0, "tcp:10.0.0.5:443", 60, 0, "", none, "open", "active", "[]", tags, "", "", 0, ⟨0⟩⟩

def alertWrite : PacketWrite Stamp := stampedWrite (plainTags ++ [⟨"monitor", "port scan", "high"⟩])

def busyWeek : List RetentionCall :=
  List.replicate 34 (.register (stampedWrite plainTags)) ++
    [.enforce 0 0, .enforce (8 * 86400) (8 * 86400)]

/-- The alert packet is deleted with those of its day although it has three weeks left. -/
theorem alert_expires_early : ¬ ∀ (policy : RetentionPolicy) (s s₁ t : Retained)
    (w : PacketWrite Stamp) (calls : List RetentionCall), 0 < policy.retention_days → w.Alert →
      s.step policy (.register w) = some s₁ →
      StepRun.run (Retained.step policy) s₁ calls = some t →
      t.now < w.packet.created_at + policy.alertSeconds →
      (s.db.packets.seq + 1, s.db.landedRow w) ∈ t.db.packets.rows := by
  intro hAll
  have hAlert : alertWrite.Alert :=
    ⟨⟨"monitor", "port scan", "high"⟩, by decide, by decide, Or.inl rfl⟩
  obtain ⟨s₁, hRegister⟩ : ∃ s₁, Retained.empty.step weekPolicy (.register alertWrite) = some s₁ :=
    ⟨_, rfl⟩
  have hEnds : ((Retained.empty.step weekPolicy (.register alertWrite)).bind fun s =>
      StepRun.run (Retained.step weekPolicy) s busyWeek).map
        (fun t => (t.db.packets.rows.length, t.now)) = some (0, 8 * 86400) := by decide +kernel
  rw [hRegister, Option.bind_some, Option.map_eq_some_iff] at hEnds
  obtain ⟨t, hRun, hEnd⟩ := hEnds
  have hNow : t.now = 8 * 86400 := congrArg Prod.snd hEnd
  have hRow := hAll weekPolicy .empty s₁ t alertWrite busyWeek (by decide) hAlert hRegister hRun
    (by rw [hNow]; decide)
  rw [List.eq_nil_of_length_eq_zero (congrArg Prod.fst hEnd)] at hRow
  cases hRow

/-- With few tags beside its own the packet is there after the sweep of the eighth day. -/
theorem alert_outlives_quietWeek : ∃ t, StepRun.run (Retained.step weekPolicy) .empty
    [.register alertWrite, .register (stampedWrite plainTags), .enforce 0 0,
      .enforce (8 * 86400) (8 * 86400)] = some t ∧
        (1, Db.landedRow alertWrite .empty) ∈ t.db.packets.rows := by
  have hAlert : alertWrite.Alert :=
    ⟨⟨"monitor", "port scan", "high"⟩, by decide, by decide, Or.inl rfl⟩
  obtain ⟨s₁, hRegister⟩ : ∃ s₁, Retained.empty.step weekPolicy (.register alertWrite) = some s₁ :=
    ⟨_, rfl⟩
  have hEnds : ((Retained.empty.step weekPolicy (.register alertWrite)).bind fun s =>
      StepRun.run (StepRun.guarded (Spares weekPolicy) (Retained.step weekPolicy)) s
        [.register (stampedWrite plainTags), .enforce 0 0, .enforce (8 * 86400) (8 * 86400)]).map
          (fun t => t.now) = some (8 * 86400) := by decide +kernel
  rw [hRegister, Option.bind_some, Option.map_eq_some_iff] at hEnds
  obtain ⟨t, hRun, hNow⟩ := hEnds
  refine ⟨t, ?_, alert_outlives weekPolicy hAlert hRegister hRun (by rw [hNow]; decide)⟩
  rw [StepRun.run_cons, hRegister, Option.bind_some]
  exact StepRun.run_of_guarded hRun

end Sniff4Hound.Store
