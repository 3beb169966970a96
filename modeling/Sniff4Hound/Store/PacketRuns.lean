import Sniff4Hound.Store.RegisterPacket

/-!
# What the statements of a packet do

Each helper of `register_packet` is run once: where it stops when statements fail, what it
leaves then, and the tables it leaves otherwise (`runs_fetchone`, `runs_insert_tag_rows`,
`runs_insert_payload_row`). A database shows a packet when one of the four tables has a row
written for it (`Shows`), and has it whole when the rows of one packet id are all there
(`Complete`).
-/

namespace Sniff4Hound.Store

open SqlTransaction

variable {κ σ α : Type}

/-! ## The rows of a packet -/

/-- Something of the packet is in the tables. -/
def Shows (p : κ) (db : Db κ) : Prop :=
  (∃ row ∈ db.packets.rows, row.2.packet = p) ∨ (∃ entry ∈ db.flows, entry.2.packet = p) ∨
    (∃ row ∈ db.tags.rows, row.2.packet = p) ∨ ∃ row ∈ db.payloads.rows, row.2.packet = p

structure CompleteAs (w : PacketWrite κ) (packet_id : Nat) (db : Db κ) : Prop where
  row : ∃ row, (packet_id, row) ∈ db.packets.rows ∧ row.packet = w.packet
  flow : ∃ flow, db.flows.lookup w.flow_key = some flow ∧ flow.packet = w.packet
  tags : ∀ tag ∈ w.tags, tag.key ≠ "" → ∃ i, (i, w.tagRow packet_id tag) ∈ db.tags.rows
  payload : w.hasPayload = true → ∃ i, (i, w.payloadRow packet_id) ∈ db.payloads.rows

def Complete (w : PacketWrite κ) (db : Db κ) : Prop := ∃ packet_id, CompleteAs w packet_id db

theorem Complete.shows {w : PacketWrite κ} {db : Db κ} (h : Complete w db) : Shows w.packet db := by
  obtain ⟨packet_id, hRows⟩ := h
  obtain ⟨row, hRow, hPacket⟩ := hRows.row
  exact Or.inl ⟨_, hRow, hPacket⟩

namespace Db

variable (w : PacketWrite κ) (db : Db κ)

def insertTags (packet_id : Nat) (tags : List PacketTag) : Db κ :=
  tags.foldl (fun db tag => if tag.key = "" then db else db.insertTag w packet_id tag) db

def insertPayloads (packet_id : Nat) : Db κ :=
  if w.hasPayload then db.insertPayload w packet_id else db

def writeRows (session_id : Nat) : Db κ :=
  let packet_id := (db.insertPacket w session_id).1
  let db' := (db.insertPacket w session_id).2
  ((db'.upsertFlow w).insertTags w packet_id w.tags).insertPayloads w packet_id

theorem insertTags_cons (packet_id : Nat) (tag : PacketTag) (tags : List PacketTag) :
    db.insertTags w packet_id (tag :: tags) =
      (if tag.key = "" then db else db.insertTag w packet_id tag).insertTags w packet_id tags := rfl

theorem lookup_upsertFlow (key : String) : (db.upsertFlow w).flows.lookup key =
    if key = w.flow_key then some (match db.flows.lookup w.flow_key with
      | none => w.newFlow
      | some flow => w.onFlow flow)
    else db.flows.lookup key := by
  unfold upsertFlow
  cases db.flows.lookup w.flow_key with
  | none => exact Dict.lookup_set _ _ _ _
  | some flow => exact Dict.lookup_set _ _ _ _

theorem flow_upsertFlow :
    ∃ flow, (db.upsertFlow w).flows.lookup w.flow_key = some flow ∧ flow.packet = w.packet := by
  rw [lookup_upsertFlow, if_pos rfl]
  cases db.flows.lookup w.flow_key with
  | none => exact ⟨_, rfl, rfl⟩
  | some flow => exact ⟨_, rfl, rfl⟩

@[simp] theorem sessions_upsertFlow : (db.upsertFlow w).sessions = db.sessions := by
  unfold upsertFlow
  split <;> rfl

@[simp] theorem packets_upsertFlow : (db.upsertFlow w).packets = db.packets := by
  unfold upsertFlow
  split <;> rfl

@[simp] theorem tags_upsertFlow : (db.upsertFlow w).tags = db.tags := by
  unfold upsertFlow
  split <;> rfl

@[simp] theorem payloads_upsertFlow : (db.upsertFlow w).payloads = db.payloads := by
  unfold upsertFlow
  split <;> rfl

theorem insertTags_frame (packet_id : Nat) (tags : List PacketTag) :
    (db.insertTags w packet_id tags).sessions = db.sessions ∧
      (db.insertTags w packet_id tags).packets = db.packets ∧
      (db.insertTags w packet_id tags).flows = db.flows ∧
      (db.insertTags w packet_id tags).payloads = db.payloads ∧
      db.tags.rows ⊆ (db.insertTags w packet_id tags).tags.rows := by
  induction tags generalizing db with
  | nil => exact ⟨rfl, rfl, rfl, rfl, List.Subset.refl _⟩
  | cons tag tags ih =>
    rw [insertTags_cons]
    split
    · exact ih db
    · obtain ⟨hSessions, hPackets, hFlows, hPayloads, hTags⟩ := ih (db.insertTag w packet_id tag)
      refine ⟨hSessions, hPackets, hFlows, hPayloads, ?_⟩
      exact List.Subset.trans (List.subset_append_left _ _) hTags

theorem insertPayloads_frame (packet_id : Nat) :
    (db.insertPayloads w packet_id).sessions = db.sessions ∧
      (db.insertPayloads w packet_id).packets = db.packets ∧
      (db.insertPayloads w packet_id).flows = db.flows ∧
      (db.insertPayloads w packet_id).tags = db.tags := by
  unfold insertPayloads
  split
  · exact ⟨rfl, rfl, rfl, rfl⟩
  · exact ⟨rfl, rfl, rfl, rfl⟩

theorem sessions_writeRows (session_id : Nat) :
    (db.writeRows w session_id).sessions = db.sessions := by
  obtain ⟨hTags, -⟩ := ((db.insertPacket w session_id).2.upsertFlow w).insertTags_frame w
    (db.insertPacket w session_id).1 w.tags
  exact (insertPayloads_frame w _ _).1.trans (hTags.trans (sessions_upsertFlow w _))

theorem mem_insertTags (packet_id : Nat) {tags : List PacketTag} {tag : PacketTag}
    (hTag : tag ∈ tags) (hKey : tag.key ≠ "") :
    ∃ i, (i, w.tagRow packet_id tag) ∈ (db.insertTags w packet_id tags).tags.rows := by
  induction tags generalizing db with
  | nil => cases hTag
  | cons head tags ih =>
    rw [insertTags_cons]
    rcases List.mem_cons.mp hTag with rfl | hTag
    · rw [if_neg hKey]
      refine ⟨db.tags.seq + 1, ?_⟩
      apply (insertTags_frame w (db.insertTag w packet_id tag) packet_id tags).2.2.2.2
      exact List.mem_append_right _ (List.mem_singleton.mpr rfl)
    · exact ih _ hTag

end Db

section Rows

variable {w : PacketWrite κ} {db : Db κ}

theorem shows_insertPacket (session_id : Nat) : Shows w.packet (db.insertPacket w session_id).2 :=
  Or.inl ⟨_, List.mem_append_right _ (List.mem_singleton.mpr rfl), rfl⟩

theorem shows_insertTag (packet_id : Nat) (tag : PacketTag) :
    Shows w.packet (db.insertTag w packet_id tag) :=
  Or.inr (Or.inr (Or.inl ⟨_, List.mem_append_right _ (List.mem_singleton.mpr rfl), rfl⟩))

theorem shows_upsertFlow : Shows w.packet (db.upsertFlow w) := by
  obtain ⟨flow, hFlow, hPacket⟩ := db.flow_upsertFlow w
  exact Or.inr (Or.inl ⟨_, Dict.mem_of_lookup hFlow, hPacket⟩)

theorem shows_insertTags (h : Shows w.packet db) (packet_id : Nat) (tags : List PacketTag) :
    Shows w.packet (db.insertTags w packet_id tags) := by
  induction tags generalizing db with
  | nil => exact h
  | cons tag tags ih =>
    rw [Db.insertTags_cons]
    split
    · exact ih h
    · exact ih (shows_insertTag packet_id tag)

theorem completeAs_rows {packet_id : Nat} {row : PacketRow κ}
    (hRow : (packet_id, row) ∈ db.packets.rows) (hPacket : row.packet = w.packet) :
    CompleteAs w packet_id
      (((db.upsertFlow w).insertTags w packet_id w.tags).insertPayloads w packet_id) := by
  obtain ⟨-, hPackets, hFlows, -, -⟩ := (db.upsertFlow w).insertTags_frame w packet_id w.tags
  obtain ⟨-, hPackets', hFlows', hTags'⟩ :=
    ((db.upsertFlow w).insertTags w packet_id w.tags).insertPayloads_frame w packet_id
  refine ⟨⟨row, ?_, hPacket⟩, ?_, ?_, ?_⟩
  · rwa [hPackets', hPackets, Db.packets_upsertFlow]
  · obtain ⟨flow, hFlow, hFlowPacket⟩ := db.flow_upsertFlow w
    refine ⟨flow, ?_, hFlowPacket⟩
    rw [hFlows', hFlows, hFlow]
  · intro tag hTag hKey
    rw [hTags']
    exact (db.upsertFlow w).mem_insertTags w packet_id hTag hKey
  · intro hPayload
    rw [Db.insertPayloads, if_pos hPayload]
    exact ⟨_, List.mem_append_right _ (List.mem_singleton.mpr rfl)⟩

theorem complete_writeRows (session_id : Nat) : Complete w (db.writeRows w session_id) :=
  ⟨_, completeAs_rows (List.mem_append_right _ (List.mem_singleton.mpr rfl)) rfl⟩

variable (h : Complete w db)

include h

theorem Complete.grow {db' : Db κ} (hPackets : db.packets.rows ⊆ db'.packets.rows)
    (hFlow : ∀ flow, db.flows.lookup w.flow_key = some flow → flow.packet = w.packet →
      ∃ flow', db'.flows.lookup w.flow_key = some flow' ∧ flow'.packet = w.packet)
    (hTags : db.tags.rows ⊆ db'.tags.rows) (hPayloads : db.payloads.rows ⊆ db'.payloads.rows) :
    Complete w db' := by
  obtain ⟨packet_id, hRow, ⟨flow, hLookup, hPacket⟩, hTag, hPayload⟩ := h
  refine ⟨packet_id, ?_, hFlow flow hLookup hPacket, ?_, ?_⟩
  · obtain ⟨row, hMem, hSame⟩ := hRow
    exact ⟨row, hPackets hMem, hSame⟩
  · intro tag hMem hKey
    obtain ⟨i, hI⟩ := hTag tag hMem hKey
    exact ⟨i, hTags hI⟩
  · intro hThere
    obtain ⟨i, hI⟩ := hPayload hThere
    exact ⟨i, hPayloads hI⟩

theorem Complete.insertSession : Complete w db.insertSession.2 :=
  h.grow (List.Subset.refl _) (fun flow hFlow hPacket => ⟨flow, hFlow, hPacket⟩)
    (List.Subset.refl _) (List.Subset.refl _)

theorem Complete.bumpSession (session_id : Nat) (packet_length : Int)
    (rule_count : Nat) : Complete w (db.bumpSession session_id packet_length rule_count) :=
  h.grow (List.Subset.refl _) (fun flow hFlow hPacket => ⟨flow, hFlow, hPacket⟩)
    (List.Subset.refl _) (List.Subset.refl _)

theorem Complete.insertPacket (session_id : Nat) : Complete w (db.insertPacket w session_id).2 :=
  h.grow (List.subset_append_left _ _) (fun flow hFlow hPacket => ⟨flow, hFlow, hPacket⟩)
    (List.Subset.refl _) (List.Subset.refl _)

theorem Complete.upsertFlow : Complete w (db.upsertFlow w) := by
  refine h.grow ?_ (fun _ _ _ => db.flow_upsertFlow w) ?_ ?_
  · rw [db.packets_upsertFlow]
    exact List.Subset.refl _
  · rw [db.tags_upsertFlow]
    exact List.Subset.refl _
  · rw [db.payloads_upsertFlow]
    exact List.Subset.refl _

theorem Complete.insertTag (packet_id : Nat) (tag : PacketTag) :
    Complete w (db.insertTag w packet_id tag) :=
  h.grow (List.Subset.refl _) (fun flow hFlow hPacket => ⟨flow, hFlow, hPacket⟩)
    (List.subset_append_left _ _) (List.Subset.refl _)

theorem Complete.insertPayload (packet_id : Nat) : Complete w (db.insertPayload w packet_id) :=
  h.grow (List.Subset.refl _) (fun flow hFlow hPacket => ⟨flow, hFlow, hPacket⟩)
    (List.Subset.refl _) (List.subset_append_left _ _)

end Rows

/-! ## Where the helpers stop -/

def tagsStop (f : Plan) : Nat → List PacketTag → Option Failure
  | _, [] => none
  | i, tag :: tags =>
    (if tag.key = "" then none else f (.insertTag i) .first).or (tagsStop f (i + 1) tags)

def payloadStop (f : Plan) (w : PacketWrite κ) : Option Failure :=
  if w.hasPayload then f .insertPayload .first else none

def Torn (w : PacketWrite κ) (c : Conn (Db κ)) (e : Failure) (c' : Conn (Db κ)) : Prop :=
  ∃ work, Shows w.packet work ∧ c' = (c.withWork work).failed e

section Runs

variable {f : Plan} {w : PacketWrite κ} {c : Conn (Db κ)}

theorem Torn.behind {work : Db κ} {e : Failure} {c' : Conn (Db κ)}
    (h : Torn w (c.withWork work) e c') : Torn w c e c' := by
  obtain ⟨work', hShows, rfl⟩ := h
  exact ⟨work', hShows, by rw [Conn.withWork_withWork]⟩

theorem runs_write (fault : Option Failure) (g : Db κ → Db κ) (hShows : Shows w.packet c.view) :
    Runs id (exec fault fun db => ((), g db)) c fault (fun _ c' => c' = c.withWork (g c.view))
      (Torn w c) :=
  (Runs.exec fault _ c).mono (fun _ _ h => h.2) fun _ _ h => ⟨c.view, hShows, h⟩

theorem runs_insert_tag_rows (packet_id i : Nat) (tags : List PacketTag) (hOpen : c.isOpen = true)
    (hShows : Shows w.packet c.view) :
    Runs id (insert_tag_rows f w packet_id i tags) c (tagsStop f i tags)
      (fun _ c' => c' = c.withWork (c.view.insertTags w packet_id tags)) (Torn w c) := by
  induction tags generalizing c i with
  | nil => exact Runs.pure (Conn.withWork_view hOpen).symm
  | cons tag tags ih =>
    rw [insert_tag_rows, tagsStop, insert_tag_row, Db.insertTags_cons]
    by_cases hKey : tag.key = ""
    · rw [if_pos hKey, if_pos hKey, if_pos hKey]
      refine Runs.bind (Q := fun _ c' => c' = c) (Runs.pure rfl) ?_
      rintro _ c' rfl
      exact ih (i + 1) hOpen hShows
    · rw [if_neg hKey, if_neg hKey, if_neg hKey]
      refine (runs_write _ _ hShows).bind ?_
      rintro _ c' rfl
      refine (ih (i + 1) (c.isOpen_withWork _) ?_).mono ?_ fun e c' h => h.behind
      · rw [Conn.view_withWork]
        exact shows_insertTag packet_id tag
      · rintro _ c' rfl
        rw [Conn.withWork_withWork, Conn.view_withWork]

theorem runs_insert_payload_row (packet_id : Nat) (hOpen : c.isOpen = true)
    (hShows : Shows w.packet c.view) :
    Runs id (insert_payload_row f w packet_id) c (payloadStop f w)
      (fun _ c' => c' = c.withWork (c.view.insertPayloads w packet_id)) (Torn w c) := by
  unfold insert_payload_row payloadStop Db.insertPayloads
  split
  · exact runs_write _ _ hShows
  · exact Runs.pure (Conn.withWork_view hOpen).symm

end Runs

/-! ## A packet on an empty database -/

def probeWrite : PacketWrite String :=
  ⟨0, "tcp:10.0.0.5:443", 60, 0, "", none, "open", "active", "[]", [⟨"proto", "tcp", ""⟩], "", "",
    0, "10.0.0.5:40000 -> 10.0.0.9:443"⟩

def emptyConn : Conn (Db String) := ⟨.empty, none⟩

def diskFull : Failure := ⟨"database or disk is full", true⟩

end Sniff4Hound.Store
