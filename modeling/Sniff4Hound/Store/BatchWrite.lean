import Sniff4Hound.Store.PacketRuns

/-!
# Packets written in one batch

`register_packets` writes every packet under a savepoint of one transaction. A failure undoes
its packet alone, unless the database rolls the whole transaction back with it: then the
packets saved before are lost although they are answered as saved, and the following ones
are committed one by one. The answers and the tables agree exactly when no such failure
comes behind a saved packet of the transaction (`register_packets_whole_iff`).
-/

namespace Sniff4Hound.Store

open SqlTransaction

variable {κ σ α : Type}

/-! ## What a saved packet adds -/

namespace Db

def ensureSession (session_id : Nat) (db : Db κ) : Nat × Db κ :=
  if session_id ≠ 0 ∧ db.sessions.has session_id = true then (session_id, db) else db.insertSession

def land (w : PacketWrite κ) (db : Db κ) : Db κ :=
  let session_id := (db.ensureSession w.session_id).1
  let db' := (db.ensureSession w.session_id).2
  (db'.writeRows w session_id).bumpSession session_id w.counted w.rule_hits

def landedRow (w : PacketWrite κ) (db : Db κ) : PacketRow κ :=
  w.row (db.ensureSession w.session_id).1

theorem has_ensureSession (session_id : Nat) (db : Db κ) :
    (db.ensureSession session_id).2.sessions.has (db.ensureSession session_id).1 = true ∧
      (db.ensureSession session_id).1 ≠ 0 := by
  unfold ensureSession
  split
  · rename_i h
    exact ⟨h.2, h.1⟩
  · exact ⟨AutoTable.has_insert_self _ _, nofun⟩

theorem packets_ensureSession (session_id : Nat) (db : Db κ) :
    (db.ensureSession session_id).2.packets = db.packets := by
  unfold ensureSession
  split <;> rfl

theorem packets_writeRows (w : PacketWrite κ) (session_id : Nat) (db : Db κ) :
    (db.writeRows w session_id).packets = (db.insertPacket w session_id).2.packets := by
  obtain ⟨-, hTags, -⟩ := ((db.insertPacket w session_id).2.upsertFlow w).insertTags_frame w
    (db.insertPacket w session_id).1 w.tags
  exact (insertPayloads_frame w _ _).2.1.trans (hTags.trans (packets_upsertFlow w _))

theorem packets_land (w : PacketWrite κ) (db : Db κ) :
    (db.land w).packets = (db.packets.insert (db.landedRow w)).2 := by
  show ((db.ensureSession w.session_id).2.writeRows w _).packets = _
  rw [packets_writeRows]
  show ((db.ensureSession w.session_id).2.packets.insert _).2 = _
  rw [packets_ensureSession]
  rfl

theorem lookup_land (w : PacketWrite κ) (db : Db κ) :
    (db.land w).packets.lookup ((db.ensureSession w.session_id).2.insertPacket w
      (db.ensureSession w.session_id).1).1 = some (db.landedRow w) := by
  rw [packets_land]
  show (db.packets.insert (db.landedRow w)).2.lookup
    ((db.ensureSession w.session_id).2.packets.insert (db.landedRow w)).1 = _
  rw [packets_ensureSession]
  exact AutoTable.lookup_insert_self _ _

theorem length_land (w : PacketWrite κ) (db : Db κ) :
    (db.land w).packets.rows.length = db.packets.rows.length + 1 := by
  rw [packets_land]
  simp

end Db

namespace BatchItem

def kept (env : StoreEnv) (item : BatchItem κ) (db : Db κ) : PacketWrite κ :=
  item.write.retain (item.allow_raw && raw_retention env db)

def land (env : StoreEnv) (item : BatchItem κ) (db : Db κ) : Db κ := db.land (item.kept env db)

def saved (env : StoreEnv) (item : BatchItem κ) (db : Db κ) : PacketRow κ :=
  sanitize (raw_retention env (item.land env db)) (db.landedRow (item.kept env db))

end BatchItem

/-! ## Where a packet of a batch stops -/

def lookStop (f : Try → Option Failure) : Option Failure := (f .first).or (f .fetch)

def sessionStop (f : Plan) (session_id : Nat) (db : Db κ) : Option Failure :=
  (if session_id = 0 then none else lookStop (f (.findSession false))).or
    (if session_id ≠ 0 ∧ db.sessions.has session_id = true then none
      else f (.insertSession false) .first)

def rowsStop (f : Plan) (w : PacketWrite κ) (db : Db κ) : Option Failure :=
  (sessionStop f w.session_id db).or <|
  (f .insertPacket .first).or <|
  (f .upsertFlow .first).or <|
  (tagsStop f 0 w.tags).or <|
  (payloadStop f w).or <|
  ((lookStop (f (.findSession true))).or (f .updateSession .first)).or <|
  (lookStop (f .readPacket)).or (lookStop (f .readRetention))

def BatchItem.stop (item : BatchItem κ) (db : Db κ) : Option Failure :=
  (if item.allow_raw then lookStop (item.faults .rawRetention) else none).or <|
  (item.faults .savepoint .first).or (rowsStop item.faults item.write db)

section Statements

variable {f : Plan} {w : PacketWrite κ} {c : Conn (Db κ)}

def Undone (c : Conn σ) (e : Failure) (c' : Conn σ) : Prop :=
  ∃ work, c' = (c.withWork work).failed e

theorem Undone.behind {c : Conn σ} {work : σ} {e : Failure} {c' : Conn σ}
    (h : Undone (c.withWork work) e c') : Undone c e c' := by
  obtain ⟨work', rfl⟩ := h
  exact ⟨work', by rw [Conn.withWork_withWork]⟩

theorem Torn.undone {e : Failure} {c' : Conn (Db κ)} (h : Torn w c e c') : Undone c e c' := by
  obtain ⟨work, -, rfl⟩ := h
  exact ⟨work, rfl⟩

theorem runs_execute_batch {attempt : Try → Sql σ α} {reopen stop : Option Failure} {c : Conn σ}
    {Q : α → Conn σ → Prop} {R : Failure → Conn σ → Prop}
    (h : Runs id (attempt .first) c stop Q R) :
    Runs id (execute_timed true reopen attempt) c stop Q R := by
  cases stop with
  | none =>
    obtain ⟨a, c', hRun, hPost⟩ := h
    exact ⟨a, c', Sql.tryCatch_ok hRun, hPost⟩
  | some e =>
    obtain ⟨c', hRun, hPost⟩ := h
    refine ⟨c', ?_, hPost⟩
    unfold execute_timed
    rw [Sql.tryCatch_error hRun]
    split <;> rfl

theorem runs_look (f : Try → Option Failure) (g : σ → α) (c : Conn σ) :
    Runs id (fetchone true f g) c (lookStop f) (fun a c' => a = g c.view ∧ c' = c)
      fun e c' => c' = c.failed e := by
  refine (runs_execute_batch (Runs.query (f .first) g c)).bind ?_
  intro a c' h
  obtain ⟨ha, hc⟩ := h
  subst hc
  refine (Runs.query (f .fetch) (fun _ => a) c').mono ?_ fun _ _ h => h
  intro _ _ h
  exact ⟨h.1.trans ha, h.2⟩

theorem failed_undone (hOpen : c.isOpen = true) (e : Failure) : Undone c e (c.failed e) :=
  ⟨c.view, by rw [Conn.withWork_view hOpen]⟩

theorem runs_ensure_batch (session_id : Nat) (hOpen : c.isOpen = true) :
    Runs id (ensure_session true false f session_id) c (sessionStop f session_id c.view)
      (fun a c' => a = (c.view.ensureSession session_id).1 ∧
        c' = c.withWork (c.view.ensureSession session_id).2) (Undone c) := by
  unfold ensure_session sessionStop Db.ensureSession
  refine Runs.bind (Q := fun found c' => found = decide (session_id ≠ 0 ∧
    c.view.sessions.has session_id = true) ∧ c' = c) ?_ ?_
  · unfold find_session
    split
    · rename_i hId
      exact Runs.pure ⟨by simp [hId], rfl⟩
    · rename_i hId
      refine (runs_look _ _ c).mono ?_ ?_
      · rintro _ _ ⟨rfl, rfl⟩
        exact ⟨by simp [hId], rfl⟩
      · rintro e _ rfl
        exact failed_undone hOpen e
  · rintro _ c ⟨rfl, rfl⟩
    by_cases hThere : session_id ≠ 0 ∧ c.view.sessions.has session_id = true
    · rw [if_pos (decide_eq_true hThere), if_pos hThere, if_pos hThere]
      exact Runs.pure ⟨rfl, (Conn.withWork_view hOpen).symm⟩
    · rw [if_neg (by simpa using hThere), if_neg hThere, if_neg hThere]
      refine runs_execute_batch (((Runs.exec _ _ c).mono (fun _ _ h => h) ?_).bind_none ?_)
      · rintro e _ rfl
        exact ⟨_, rfl⟩
      · rintro _ _ ⟨rfl, rfl⟩
        exact Runs.pure ⟨rfl, rfl⟩

theorem runs_bump_batch {session_id : Nat} {packet_length : Int} {rule_count : Nat}
    (hOpen : c.isOpen = true) (hId : session_id ≠ 0)
    (hHas : c.view.sessions.has session_id = true) :
    Runs id (bump_session_counters true f session_id packet_length rule_count) c
      ((lookStop (f (.findSession true))).or (f .updateSession .first))
      (fun _ c' => c' = c.withWork (c.view.bumpSession session_id packet_length rule_count))
      (Undone c) := by
  unfold bump_session_counters
  refine Runs.bind (Q := fun a c' => a = session_id ∧ c' = c) ?_ ?_
  · unfold ensure_session find_session
    rw [if_neg hId]
    refine ((runs_look _ _ c).mono (fun _ _ h => h) ?_).bind_none ?_
    · rintro e _ rfl
      exact failed_undone hOpen e
    · rintro _ c ⟨rfl, rfl⟩
      rw [if_pos hHas]
      exact Runs.pure ⟨rfl, rfl⟩
  · rintro _ c ⟨rfl, rfl⟩
    refine ((Runs.exec _ _ c).mono (fun _ _ h => h) ?_).bind_none ?_
    · rintro e _ rfl
      exact ⟨_, rfl⟩
    · rintro _ _ ⟨-, rfl⟩
      exact Runs.pure rfl

theorem runs_get_batch (env : StoreEnv) (packet_id : Nat) (hOpen : c.isOpen = true) :
    Runs id (get_packet env true f packet_id) c
      ((lookStop (f .readPacket)).or (lookStop (f .readRetention)))
      (fun row c' => c' = c ∧
        row = (c.view.packets.lookup packet_id).map (sanitize (raw_retention env c.view))) (Undone c) := by
  refine ((runs_look _ _ c).mono (fun _ _ h => h) ?_).bind ?_
  · rintro e _ rfl
    exact failed_undone hOpen e
  rintro _ c ⟨rfl, rfl⟩
  refine ((runs_look _ _ c).mono (fun _ _ h => h) ?_).bind_none ?_
  · rintro e _ rfl
    exact failed_undone hOpen e
  rintro _ c ⟨rfl, rfl⟩
  exact Runs.pure ⟨rfl, rfl⟩

theorem runs_rows_batch (env : StoreEnv) (hOpen : c.isOpen = true) :
    Runs id (write_packet_rows env true f w) c (rowsStop f w c.view)
      (fun row c' => c' = c.withWork (c.view.land w) ∧
        row = some (sanitize (raw_retention env (c.view.land w)) (c.view.landedRow w))) (Undone c) := by
  obtain ⟨hHas, hId⟩ := c.view.has_ensureSession w.session_id
  refine (runs_ensure_batch w.session_id hOpen).bind ?_
  rintro _ _ ⟨rfl, rfl⟩
  refine ((Runs.exec _ _ _).mono (fun _ _ h => h) ?_).bind ?_
  · rintro e _ rfl
    exact ⟨_, by rw [Conn.withWork_withWork]⟩
  rintro _ _ ⟨rfl, rfl⟩
  rw [Conn.withWork_withWork, Conn.view_withWork]
  refine ((runs_write (w := w) _ _ ?_).mono (fun _ _ h => h) fun _ _ h => h.undone.behind).bind ?_
  · rw [Conn.view_withWork]
    exact shows_insertPacket _
  rintro _ _ rfl
  rw [Conn.withWork_withWork, Conn.view_withWork]
  refine ((runs_insert_tag_rows _ _ _ (Conn.isOpen_withWork _ _) ?_).mono (fun _ _ h => h)
    fun _ _ h => h.undone.behind).bind ?_
  · rw [Conn.view_withWork]
    exact shows_upsertFlow
  rintro _ _ rfl
  rw [Conn.withWork_withWork, Conn.view_withWork]
  refine ((runs_insert_payload_row _ (Conn.isOpen_withWork _ _) ?_).mono (fun _ _ h => h)
    fun _ _ h => h.undone.behind).bind ?_
  · rw [Conn.view_withWork]
    exact shows_insertTags shows_upsertFlow _ _
  rintro _ _ rfl
  rw [Conn.withWork_withWork, Conn.view_withWork]
  refine ((runs_bump_batch (Conn.isOpen_withWork _ _) hId ?_).mono (fun _ _ h => h)
    fun _ _ h => h.behind).bind ?_
  · rw [Conn.view_withWork]
    show ((c.view.ensureSession w.session_id).2.writeRows w _).sessions.has _ = true
    rwa [Db.sessions_writeRows]
  rintro _ _ rfl
  rw [Conn.withWork_withWork, Conn.view_withWork]
  refine ((runs_get_batch env _ (Conn.isOpen_withWork _ _)).mono ?_ fun _ _ h => h.behind)
  rintro _ _ ⟨rfl, rfl⟩
  refine ⟨rfl, ?_⟩
  rw [Conn.view_withWork]
  show Option.map (sanitize (raw_retention env (c.view.land w)))
    ((c.view.land w).packets.lookup _) = _
  rw [Db.lookup_land]
  rfl

end Statements

/-! ## One packet of a batch -/

def inBatch (durable work : Db κ) : Conn (Db κ) := ⟨durable, some ⟨work, [], true⟩⟩

def closed (durable : Db κ) : Conn (Db κ) := ⟨durable, none⟩

section Savepoint

variable {f : Plan} {w : PacketWrite κ} {durable work : Db κ}

def undo (f : Plan) (e : Failure) : Sql (Db κ) (Option (PacketRow κ)) := do
  rollback_to
  release (f .release .first)
  throw e

theorem undo_open (durable save work : Db κ) (e : Failure) : ∃ e',
    undo f e (Conn.failed ⟨durable, some ⟨work, [save], true⟩⟩ e) =
      (.error e', if e.rolls_back then closed durable else inBatch durable save) := by
  unfold Conn.failed
  split
  · exact ⟨noSavepoint, rfl⟩
  · exact ⟨e, rfl⟩

theorem undo_closed (durable work : Db κ) (e : Failure) : ∃ e',
    undo f e (Conn.failed ⟨durable, some ⟨work, [durable], false⟩⟩ e) =
      (.error e', closed durable) := by
  unfold Conn.failed
  split
  · exact ⟨noSavepoint, rfl⟩
  · cases hRelease : f .release .first with
    | none =>
      refine ⟨e, ?_⟩
      unfold undo
      rw [hRelease]
      rfl
    | some e' =>
      refine ⟨e', ?_⟩
      unfold undo
      rw [hRelease]
      rfl

theorem write_saved_ok (env : StoreEnv) {c c₁ c₂ : Conn (Db κ)} {row : Option (PacketRow κ)}
    (hSave : savepoint (f .savepoint .first) c = (.ok (), c₁))
    (hRows : write_packet_rows env true f w c₁ = (.ok row, c₂)) :
    write_saved env f w c = (release (f .release .first) >>= fun _ => pure row : Sql _ _) c₂ := by
  unfold write_saved
  rw [Sql.bind_ok hSave, Sql.bind_ok (Sql.tryCatch_ok hRows)]

theorem write_saved_error (env : StoreEnv) {c c₁ c₂ c₃ : Conn (Db κ)} {e e' : Failure}
    (hSave : savepoint (f .savepoint .first) c = (.ok (), c₁))
    (hRows : write_packet_rows env true f w c₁ = (.error e, c₂))
    (hUndo : undo f e c₂ = (.error e', c₃)) : write_saved env f w c = (.error e', c₃) := by
  unfold write_saved
  rw [Sql.bind_ok hSave, Sql.bind_error]
  rw [Sql.tryCatch_error hRows]
  exact hUndo

end Savepoint

section Item

variable {item : BatchItem κ} {durable work : Db κ}

theorem runs_raw_batch (env : StoreEnv) (f : Plan) (allow_raw : Bool) (c : Conn (Db κ)) :
    Runs id (raw_enabled env true f allow_raw) c
      (if allow_raw then lookStop (f .rawRetention) else none)
      (fun enabled c' => enabled = (allow_raw && raw_retention env c.view) ∧ c' = c)
      fun e c' => c' = c.failed e := by
  unfold raw_enabled
  cases allow_raw with
  | false => exact Runs.pure ⟨rfl, rfl⟩
  | true => exact runs_look _ _ c

theorem rowsStop_kept (env : StoreEnv) (db : Db κ) :
    rowsStop item.faults (item.kept env db) db = rowsStop item.faults item.write db := by
  unfold BatchItem.kept PacketWrite.retain
  split <;> rfl

section Register

variable (env : StoreEnv) (item : BatchItem κ)

theorem register_steps {c : Conn (Db κ)} {durable : Db κ} (work : Db κ) {saves : List (Db κ)} {began : Bool}
    (hView : c.view = work)
    (hSave : savepoint none c = (.ok (), ⟨durable, some ⟨work, saves, began⟩⟩)) :
    match item.stop work with
    | none => register_packet env true (fun _ => item.faults) item.write item.allow_raw c =
        (release (item.faults .release .first) >>= fun _ => pure (some (item.saved env work)) :
          Sql _ _) ⟨durable, some ⟨item.land env work, saves, began⟩⟩
    | some e =>
      register_packet env true (fun _ => item.faults) item.write item.allow_raw c =
          (.error e, c.failed e) ∨
        ∃ torn, ∀ e' c',
          undo item.faults e (Conn.failed ⟨durable, some ⟨torn, saves, began⟩⟩ e) = (.error e', c') →
            register_packet env true (fun _ => item.faults) item.write item.allow_raw c =
              (.error e', c') := by
  have hRaw := runs_raw_batch env item.faults item.allow_raw c
  unfold BatchItem.stop
  cases hStop : (if item.allow_raw then lookStop (item.faults .rawRetention) else none) with
  | some e =>
    rw [hStop] at hRaw
    obtain ⟨c', hRun, rfl⟩ := hRaw
    exact Or.inl (Sql.bind_error hRun)
  | none =>
    rw [hStop] at hRaw
    obtain ⟨enabled, c', hRun, rfl, rfl⟩ := hRaw
    rw [register_packet, Sql.bind_ok hRun, if_pos rfl, Option.none_or, ← rowsStop_kept env, hView]
    cases hFault : item.faults .savepoint .first with
    | some e =>
      refine Or.inl (Sql.bind_error ?_)
      rw [hFault]
      rfl
    | none =>
      rw [← hFault] at hSave
      have hRows := runs_rows_batch (f := item.faults) (w := item.kept env work)
        (c := ⟨durable, some ⟨work, saves, began⟩⟩) env rfl
      change Runs id _ _ (rowsStop item.faults (item.kept env work) work) _ _ at hRows
      rw [Option.none_or]
      cases hRest : rowsStop item.faults (item.kept env work) work with
      | none =>
        rw [hRest] at hRows
        obtain ⟨row, c₂, hRun, hC₂, hRow⟩ := hRows
        rw [hC₂] at hRun
        exact (write_saved_ok env hSave hRun).trans (by rw [hRow]; rfl)
      | some e =>
        rw [hRest] at hRows
        obtain ⟨c₂, hRun, torn, hC₂⟩ := hRows
        rw [hC₂] at hRun
        exact Or.inr ⟨torn, fun _ _ hUndo => write_saved_error env hSave hRun hUndo⟩

theorem register_open (durable work : Db κ) :
    match item.stop work with
    | none => register_packet env true (fun _ => item.faults) item.write item.allow_raw
        (inBatch durable work) =
          (.ok (some (item.saved env work)), inBatch durable (item.land env work))
    | some e => ∃ e', register_packet env true (fun _ => item.faults) item.write item.allow_raw
        (inBatch durable work) =
          (.error e', if e.rolls_back then closed durable else inBatch durable work) := by
  have hSteps := register_steps env item (c := inBatch durable work) work rfl rfl
  cases hStop : item.stop work with
  | none =>
    rw [hStop] at hSteps
    exact hSteps
  | some e =>
    rw [hStop] at hSteps
    obtain hRun | ⟨torn, hRun⟩ := hSteps
    · exact ⟨e, hRun⟩
    · obtain ⟨e', hUndo⟩ := undo_open durable work torn e
      exact ⟨e', hRun _ _ hUndo⟩

theorem register_closed (durable : Db κ) :
    match (item.stop durable).or (item.faults .release .first) with
    | none => register_packet env true (fun _ => item.faults) item.write item.allow_raw
        (closed durable) = (.ok (some (item.saved env durable)), closed (item.land env durable))
    | some _ => ∃ e', register_packet env true (fun _ => item.faults) item.write item.allow_raw
        (closed durable) = (.error e', closed durable) := by
  have hSteps := register_steps env item (c := closed durable) durable rfl rfl
  cases hStop : item.stop durable with
  | none =>
    rw [hStop] at hSteps
    rw [Option.none_or]
    cases hRelease : item.faults .release .first with
    | none =>
      rw [hRelease] at hSteps
      exact hSteps
    | some e =>
      rw [hRelease] at hSteps
      exact ⟨e, hSteps⟩
  | some e =>
    rw [hStop] at hSteps
    obtain hRun | ⟨torn, hRun⟩ := hSteps
    · exact ⟨e, hRun.trans (congrArg _ (Conn.failed_closed rfl e))⟩
    · obtain ⟨e', hUndo⟩ := undo_closed durable torn e
      exact ⟨e', hRun _ _ hUndo⟩

end Register

end Item

/-! ## The packets of a batch -/

/-- The answers are one for each packet, in order, and the tables are those before with the
packets that are answered as saved, each of them complete, and nothing else. -/
def Answers (env : StoreEnv) : Db κ → List (BatchItem κ) → List (PacketOutcome κ) → Db κ → Prop
  | db, [], [], db' => db' = db
  | db, item :: items, .ok row :: outcomes, db' =>
    row = some (item.saved env db) ∧ Answers env (item.land env db) items outcomes db'
  | db, _ :: items, .error _ :: outcomes, db' => Answers env db items outcomes db'
  | _, [], _ :: _, _ => False
  | _, _ :: _, [], _ => False

def savedCount (outcomes : List (PacketOutcome κ)) : Nat :=
  outcomes.countP fun outcome => outcome.isOk

/-- No failure from here rolls the transaction back. -/
def NoLoss (env : StoreEnv) : Db κ → List (BatchItem κ) → Prop
  | _, [] => True
  | db, item :: items =>
    match item.stop db with
    | none => NoLoss env (item.land env db) items
    | some e => e.rolls_back = false ∧ NoLoss env db items

/-- No failure rolls the transaction back behind a packet saved in it. -/
def KeepsSaved (env : StoreEnv) : Db κ → List (BatchItem κ) → Prop
  | _, [] => True
  | db, item :: items =>
    match item.stop db with
    | none => NoLoss env (item.land env db) items
    | some e => e.rolls_back = true ∨ KeepsSaved env db items

section Each

variable {env : StoreEnv} {items : List (BatchItem κ)} {outcomes : List (PacketOutcome κ)}
  {db db' durable work : Db κ}

theorem length_of_answers (h : Answers env db items outcomes db') :
    db'.packets.rows.length = db.packets.rows.length + savedCount outcomes := by
  induction items generalizing db outcomes with
  | nil =>
    cases outcomes with
    | nil =>
      rw [show db' = db from h]
      rfl
    | cons outcome outcomes => exact h.elim
  | cons item items ih =>
    rcases outcomes with _ | ⟨_ | row, outcomes⟩
    · exact h.elim
    · have hCount := ih (show Answers env db items outcomes db' from h)
      simpa [savedCount, Except.isOk, Except.toBool] using hCount
    · have hCount := ih (show Answers env _ items outcomes db' from h.2)
      rw [hCount]
      show (db.land (item.kept env db)).packets.rows.length + _ = _
      rw [Db.length_land]
      simp [savedCount, Except.isOk, Except.toBool]
      omega

theorem register_each_cons {item : BatchItem κ} {c c₁ c₂ : Conn (Db κ)}
    {outcome : PacketOutcome κ}
    (h : register_packet env true (fun _ => item.faults) item.write item.allow_raw c =
      (outcome, c₁))
    (hRest : register_each env items c₁ = (.ok outcomes, c₂)) :
    register_each env (item :: items) c = (.ok (outcome :: outcomes), c₂) := by
  have hOne : register_item env item c = (.ok outcome, c₁) := by
    cases outcome with
    | ok row => exact Sql.tryCatch_ok (Sql.bind_ok h)
    | error e => exact Sql.tryCatch_error (Sql.bind_error h)
  rw [register_each, Sql.bind_ok hOne, Sql.bind_ok hRest]
  rfl

theorem register_each_closed (env : StoreEnv) (items : List (BatchItem κ)) (durable : Db κ) :
    ∃ outcomes durable', register_each env items (closed durable) =
      (.ok outcomes, closed durable') ∧ Answers env durable items outcomes durable' := by
  induction items generalizing durable with
  | nil => exact ⟨[], durable, rfl, rfl⟩
  | cons item items ih =>
    have hItem := register_closed env item durable
    cases hStop : (item.stop durable).or (item.faults .release .first) with
    | none =>
      rw [hStop] at hItem
      obtain ⟨outcomes, durable', hRest, hAnswers⟩ := ih (item.land env durable)
      exact ⟨_, durable', register_each_cons hItem hRest, rfl, hAnswers⟩
    | some e =>
      rw [hStop] at hItem
      obtain ⟨e', hItem⟩ := hItem
      obtain ⟨outcomes, durable', hRest, hAnswers⟩ := ih durable
      exact ⟨_, durable', register_each_cons hItem hRest, hAnswers⟩

theorem register_each_open (h : NoLoss env work items) (durable : Db κ) :
    ∃ outcomes work', register_each env items (inBatch durable work) =
      (.ok outcomes, inBatch durable work') ∧ Answers env work items outcomes work' := by
  induction items generalizing work with
  | nil => exact ⟨[], work, rfl, rfl⟩
  | cons item items ih =>
    have hItem := register_open env item durable work
    rw [NoLoss] at h
    cases hStop : item.stop work with
    | none =>
      rw [hStop] at hItem h
      obtain ⟨outcomes, work', hRest, hAnswers⟩ := ih h
      exact ⟨_, work', register_each_cons hItem hRest, rfl, hAnswers⟩
    | some e =>
      rw [hStop] at hItem h
      obtain ⟨e', hItem⟩ := hItem
      obtain ⟨hStays, hRest⟩ := h
      rw [hStays, if_neg Bool.false_ne_true] at hItem
      obtain ⟨outcomes, work', hRest, hAnswers⟩ := ih hRest
      exact ⟨_, work', register_each_cons hItem hRest, hAnswers⟩

theorem register_each_lost (h : ¬ NoLoss env work items) (durable : Db κ) :
    ∃ outcomes durable', register_each env items (inBatch durable work) =
      (.ok outcomes, closed durable') ∧
        durable'.packets.rows.length ≤ durable.packets.rows.length + savedCount outcomes := by
  induction items generalizing work with
  | nil => exact absurd trivial h
  | cons item items ih =>
    have hItem := register_open env item durable work
    rw [NoLoss] at h
    cases hStop : item.stop work with
    | none =>
      rw [hStop] at hItem h
      obtain ⟨outcomes, durable', hRest, hLength⟩ := ih h
      refine ⟨_, durable', register_each_cons hItem hRest, ?_⟩
      simp only [savedCount, List.countP_cons] at hLength ⊢
      omega
    | some e =>
      rw [hStop] at hItem h
      obtain ⟨e', hItem⟩ := hItem
      cases hRolls : e.rolls_back with
      | true =>
        rw [hRolls, if_pos rfl] at hItem
        obtain ⟨outcomes, durable', hRest, hAnswers⟩ := register_each_closed env items durable
        refine ⟨_, durable', register_each_cons hItem hRest, ?_⟩
        have hLength := length_of_answers hAnswers
        simp only [savedCount, List.countP_cons] at hLength ⊢
        omega
      | false =>
        rw [hRolls, if_neg Bool.false_ne_true] at hItem
        obtain ⟨outcomes, durable', hRest, hLength⟩ := ih fun hNo => h ⟨hRolls, hNo⟩
        refine ⟨_, durable', register_each_cons hItem hRest, ?_⟩
        simp only [savedCount, List.countP_cons] at hLength ⊢
        omega

theorem register_each_kept (h : KeepsSaved env db items) :
    ∃ outcomes db', Answers env db items outcomes db' ∧
      (register_each env items (inBatch db db) = (.ok outcomes, inBatch db db') ∨
        register_each env items (inBatch db db) = (.ok outcomes, closed db')) := by
  induction items with
  | nil => exact ⟨[], db, rfl, Or.inl rfl⟩
  | cons item items ih =>
    have hItem := register_open env item db db
    rw [KeepsSaved] at h
    cases hStop : item.stop db with
    | none =>
      rw [hStop] at hItem h
      obtain ⟨outcomes, db', hRest, hAnswers⟩ := register_each_open h db
      exact ⟨.ok _ :: outcomes, db', ⟨rfl, hAnswers⟩, Or.inl (register_each_cons hItem hRest)⟩
    | some e =>
      rw [hStop] at hItem h
      obtain ⟨e', hItem⟩ := hItem
      cases hRolls : e.rolls_back with
      | true =>
        rw [hRolls, if_pos rfl] at hItem
        obtain ⟨outcomes, db', hRest, hAnswers⟩ := register_each_closed env items db
        exact ⟨.error e' :: outcomes, db', hAnswers, Or.inr (register_each_cons hItem hRest)⟩
      | false =>
        rw [hRolls, if_neg Bool.false_ne_true] at hItem
        have hKeeps := h.resolve_left (by rw [hRolls]; exact Bool.false_ne_true)
        obtain ⟨outcomes, db', hAnswers, hRest⟩ := ih hKeeps
        exact ⟨.error e' :: outcomes, db', hAnswers,
          hRest.imp (register_each_cons hItem) (register_each_cons hItem)⟩

theorem register_each_loses (h : ¬ KeepsSaved env db items) :
    ∃ outcomes db', register_each env items (inBatch db db) = (.ok outcomes, closed db') ∧
      db'.packets.rows.length < db.packets.rows.length + savedCount outcomes := by
  induction items with
  | nil => exact absurd trivial h
  | cons item items ih =>
    have hItem := register_open env item db db
    rw [KeepsSaved] at h
    cases hStop : item.stop db with
    | none =>
      rw [hStop] at hItem h
      obtain ⟨outcomes, db', hRest, hLength⟩ := register_each_lost h db
      refine ⟨_, db', register_each_cons hItem hRest, ?_⟩
      rw [savedCount, List.countP_cons_of_pos rfl]
      exact Nat.lt_succ_of_le hLength
    | some e =>
      rw [hStop] at hItem h
      obtain ⟨e', hItem⟩ := hItem
      obtain ⟨hStays, hLoses⟩ := not_or.mp h
      rw [if_neg hStays] at hItem
      obtain ⟨outcomes, db', hRest, hLength⟩ := ih hLoses
      refine ⟨_, db', register_each_cons hItem hRest, ?_⟩
      rwa [savedCount, List.countP_cons_of_neg (by simp [Except.isOk, Except.toBool])]

end Each

/-! ## The whole batch -/

/-- A batch that raises leaves the connection as it was; a batch that returns has committed
what it answers. -/
def BatchWhole (env : StoreEnv) (items : List (BatchItem κ)) (c : Conn (Db κ))
    (r : Except Failure (List (PacketOutcome κ)) × Conn (Db κ)) : Prop :=
  match r.1 with
  | .error _ => r.2 = c
  | .ok outcomes => r.2.isOpen = false ∧ Answers env c.durable items outcomes r.2.durable

section Batch

variable {commits : Option Failure} {block : Sql σ α} {a : α}

theorem begin_immediate_closed (durable : σ) : begin_immediate none ⟨durable, none⟩ =
    (.ok (), ⟨durable, some ⟨durable, [], true⟩⟩) := rfl

theorem write_batch_committed {durable work : σ}
    (h : block ⟨durable, some ⟨durable, [], true⟩⟩ = (.ok a, ⟨durable, some ⟨work, [], true⟩⟩)) :
    write_batch none commits block ⟨durable, none⟩ = match commits with
      | none => (.ok a, ⟨work, none⟩)
      | some e => (.error e, ⟨durable, none⟩) := by
  unfold write_batch
  rw [Sql.bind_ok (begin_immediate_closed durable)]
  cases commits with
  | none =>
    refine Sql.tryCatch_ok ?_
    rw [Sql.bind_ok h]
    rfl
  | some e =>
    have hFails : (block >>= fun result => commit (some e) >>= fun _ => pure result)
        ⟨durable, some ⟨durable, [], true⟩⟩ =
          (.error e, Conn.failed ⟨durable, some ⟨work, [], true⟩⟩ e) := by
      rw [Sql.bind_ok h]
      rfl
    rw [Sql.tryCatch_error hFails]
    show (Except.error e, Conn.dropped (Conn.failed _ e)) = _
    rw [Conn.dropped_failed]
    rfl

theorem write_batch_lost {durable durable' : σ}
    (h : block ⟨durable, some ⟨durable, [], true⟩⟩ = (.ok a, ⟨durable', none⟩)) :
    write_batch none commits block ⟨durable, none⟩ = (.ok a, ⟨durable', none⟩) := by
  unfold write_batch
  rw [Sql.bind_ok (begin_immediate_closed durable)]
  refine Sql.tryCatch_ok ?_
  rw [Sql.bind_ok h]
  rfl

end Batch

/-- The answers of a batch and the tables agree, or the call raises and leaves everything as
it was, exactly when no failure that rolls the transaction of the batch back comes behind a
packet saved in it. -/
theorem register_packets_whole_iff (env : StoreEnv) (begins commits : Option Failure)
    (items : List (BatchItem κ)) (c : Conn (Db κ)) :
    BatchWhole env items c (register_packets env begins commits items c) ↔
      (begins = none → c.isOpen = false → KeepsSaved env c.durable items) := by
  obtain ⟨durable, transaction⟩ := c
  unfold register_packets
  cases transaction with
  | some t => exact iff_of_true rfl nofun
  | none =>
    cases begins with
    | some e => exact iff_of_true rfl nofun
    | none =>
      by_cases hKeeps : KeepsSaved env durable items
      · refine iff_of_true ?_ fun _ _ => hKeeps
        obtain ⟨outcomes, db', hAnswers, hOpen | hLost⟩ := register_each_kept hKeeps
        · rw [write_batch_committed hOpen]
          cases commits with
          | none => exact ⟨rfl, hAnswers⟩
          | some e => exact rfl
        · rw [write_batch_lost hLost]
          exact ⟨rfl, hAnswers⟩
      · refine iff_of_false ?_ fun h => hKeeps (h rfl rfl)
        obtain ⟨outcomes, db', hLost, hLength⟩ := register_each_loses hKeeps
        rw [write_batch_lost hLost]
        intro h
        have hSame := length_of_answers h.2
        dsimp only at hSame
        omega

/-! ## A full disk behind a saved packet -/

def fullBatch : List (BatchItem String) :=
  [⟨probeWrite, false, fun _ _ => none⟩,
    ⟨probeWrite, false, fun site t =>
      if site = .insertPacket ∧ t = .first then some diskFull else none⟩]

/-- The first packet is answered as saved and is not there. -/
theorem full_batch_loses : ¬ ∀ (env : StoreEnv) (begins commits : Option Failure)
    (items : List (BatchItem String)) (c : Conn (Db String)),
      BatchWhole env items c (register_packets env begins commits items c) := by
  intro hAll
  have hWhole := hAll ⟨false⟩ none none fullBatch emptyConn
  obtain ⟨outcomes, hRun, hSaved⟩ : ∃ outcomes,
      register_packets ⟨false⟩ none none fullBatch emptyConn = (.ok outcomes, emptyConn) ∧
        savedCount outcomes = 1 := ⟨_, rfl, rfl⟩
  rw [hRun] at hWhole
  have hLength := length_of_answers hWhole.2
  rw [hSaved] at hLength
  exact absurd hLength (Nat.succ_ne_zero _).symm

end Sniff4Hound.Store
