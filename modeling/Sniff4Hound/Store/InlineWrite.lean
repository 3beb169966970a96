import Sniff4Hound.Store.PacketRuns

/-!
# A packet written outside of a batch

`register_packet` writes the rows of a packet in the implicit transaction of the connection
and commits them with the counters of the session. An error that ends the call behind the
INSERT of the packet row leaves the rows in that transaction, for the next COMMIT of any
statement to publish, or leaves them published when the COMMIT is already behind it. The
rows land together or not at all exactly when the call ends otherwise (`lands_whole_iff`).
-/

namespace Sniff4Hound.Store

open SqlTransaction

variable {κ σ α : Type}

/-! ## Statements that are tried again -/

def recovers (f : Try → Option Failure) : Bool :=
  match f .first with
  | none => false
  | some e => recoverable e

def retried (first reopen second : Option Failure) : Option Failure :=
  match first with
  | none => none
  | some e => if recoverable e = false then some e else reopen.or second

def queryStop (f : Try → Option Failure) : Option Failure :=
  (retried (f .first) (f .reopen) (f .second)).or (f .fetch)

def looked (f : Try → Option Failure) (c : Conn σ) : Conn σ := if recovers f then c.dropped else c

section Retry

variable {attempt : Try → Sql σ α} {reopen : Option Failure} {c c' : Conn σ}

theorem execute_timed_ok {a : α} (h : attempt .first c = (.ok a, c')) :
    execute_timed false reopen attempt c = (.ok a, c') :=
  Sql.tryCatch_ok h

theorem execute_timed_raises {e : Failure} (h : attempt .first c = (.error e, c'))
    (hError : recoverable e = false) : execute_timed false reopen attempt c = (.error e, c') := by
  unfold execute_timed
  rw [Sql.tryCatch_error h, if_pos hError]
  rfl

theorem execute_timed_retries {e : Failure} (h : attempt .first c = (.error e, c'))
    (hError : recoverable e = true) :
    execute_timed false reopen attempt c =
      (recover_connection reopen >>= fun _ => attempt .second) c' := by
  unfold execute_timed
  rw [Sql.tryCatch_error h, if_neg (by simp [hError])]
  rfl

theorem runs_recover (reopen : Option Failure) (c : Conn σ) :
    Runs id (recover_connection reopen) c reopen (fun _ c' => c' = c.dropped)
      fun _ c' => c' = c.dropped := by
  cases reopen with
  | none => exact ⟨(), _, rfl, rfl⟩
  | some e => exact ⟨_, rfl, rfl⟩

theorem runs_retry {e : Failure} {second : Option Failure} {Q : α → Conn σ → Prop}
    {R : Failure → Conn σ → Prop} (h : attempt .first c = (.error e, c'))
    (hError : recoverable e = true) (hReopen : ∀ e', R e' c'.dropped)
    (hSecond : Runs id (attempt .second) c'.dropped second Q R) :
    Runs id (execute_timed false reopen attempt) c (reopen.or second) Q R := by
  have hRetry : Runs id (recover_connection reopen >>= fun _ => attempt .second) c'
      (reopen.or second) Q R := by
    refine ((runs_recover reopen c').mono (fun _ _ h => h) ?_).bind ?_
    · rintro e' _ rfl
      exact hReopen e'
    · rintro _ _ rfl
      exact hSecond
  unfold Runs at hRetry ⊢
  rwa [execute_timed_retries h hError]

theorem runs_execute_timed {first second : Option Failure} {Q : α → Conn σ → Prop}
    {R R' : Failure → Conn σ → Prop} (hFirst : Runs id (attempt .first) c first Q R)
    (hRaises : ∀ e c', recoverable e = false → R e c' → R' e c')
    (hReopen : ∀ e e' c', R e c' → R' e' c'.dropped)
    (hSecond : ∀ e c', R e c' → Runs id (attempt .second) c'.dropped second Q R') :
    Runs id (execute_timed false reopen attempt) c (retried first reopen second) Q R' := by
  cases first with
  | none =>
    obtain ⟨a, c', hRun, hPost⟩ := hFirst
    exact ⟨a, c', execute_timed_ok hRun, hPost⟩
  | some e =>
    obtain ⟨c', hRun, hPost⟩ := hFirst
    rw [retried]
    split
    · rename_i hError
      exact ⟨c', execute_timed_raises hRun hError, hRaises e c' hError hPost⟩
    · rename_i hError
      exact runs_retry hRun (eq_true_of_ne_false hError) (fun e' => hReopen e e' c' hPost)
        (hSecond e c' hPost)

theorem runs_fetchone (f : Try → Option Failure) (g : σ → α) (c : Conn σ) :
    Runs id (fetchone false f g) c (queryStop f) (fun a c' => a = g c'.view ∧ c' = looked f c)
      fun e c' => c' = (looked f c).failed e := by
  have hQuery : ∀ (fault : Option Failure) (c : Conn σ), Runs id (query fault g) c fault
      (fun a c' => a = g c'.view ∧ c' = c) fun e c' => c' = c.failed e := by
    intro fault c
    refine (Runs.query fault g c).mono ?_ fun _ _ h => h
    rintro _ _ ⟨rfl, rfl⟩
    exact ⟨rfl, rfl⟩
  refine Runs.bind (Q := fun a c' => a = g c'.view ∧ c' = looked f c) ?_ ?_
  · have hFirst := hQuery (f .first) c
    cases hFault : f .first with
    | none =>
      have hLooked : looked f c = c := by simp [looked, recovers, hFault]
      rw [hFault] at hFirst
      obtain ⟨a, c', hRun, hPost⟩ := hFirst
      rw [hLooked]
      exact ⟨a, c', execute_timed_ok (by rw [hFault]; exact hRun), hPost⟩
    | some e =>
      rw [hFault] at hFirst
      obtain ⟨c', hRun, rfl⟩ := hFirst
      have hRun' : query (f .first) g c = (.error e, c.failed e) := by rw [hFault]; exact hRun
      by_cases hError : recoverable e = false
      · rw [retried, if_pos hError]
        have hLooked : looked f c = c := by simp [looked, recovers, hFault, hError]
        rw [hLooked]
        exact ⟨_, execute_timed_raises hRun' hError, rfl⟩
      · rw [retried, if_neg hError]
        have hLooked : looked f c = c.dropped := by simp [looked, recovers, hFault, hError]
        rw [hLooked]
        refine runs_retry hRun' (eq_true_of_ne_false hError) ?_ ?_
        · intro e'
          rw [Conn.dropped_failed, Conn.failed_dropped]
        · rw [Conn.dropped_failed]
          exact hQuery (f .second) c.dropped
  · rintro a _ ⟨ha, rfl⟩
    refine (Runs.query (f .fetch) (fun _ => a) _).mono ?_ fun _ _ h => h
    rintro _ _ ⟨rfl, rfl⟩
    exact ⟨ha, rfl⟩

end Retry

/-! ## The session -/

def insertStop (f : Plan) (bump : Bool) : Option Failure :=
  retried ((f (.insertSession bump) .first).or (f (.commitSession bump) .first))
    (f (.insertSession bump) .reopen)
    ((f (.insertSession bump) .second).or (f (.commitSession bump) .second))

def findStop (f : Plan) (bump : Bool) (session_id : Nat) : Option Failure :=
  if session_id = 0 then none else queryStop (f (.findSession bump))

def sought (f : Plan) (bump : Bool) (session_id : Nat) (c : Conn (Db κ)) : Conn (Db κ) :=
  if session_id = 0 then c else looked (f (.findSession bump)) c

def sessionFound (f : Plan) (bump : Bool) (session_id : Nat) (c : Conn (Db κ)) : Bool :=
  if session_id = 0 then false else (sought f bump session_id c).view.sessions.has session_id

def ensureStop (f : Plan) (session_id : Nat) (c : Conn (Db κ)) : Option Failure :=
  (findStop f false session_id).or
    (if sessionFound f false session_id c then none else insertStop f false)

def sessionDurable (f : Plan) (session_id : Nat) (c : Conn (Db κ)) : Bool :=
  if sessionFound f false session_id c then c.durable.sessions.has session_id else true

section Session

variable {f : Plan} {bump : Bool} {session_id : Nat} {c : Conn (Db κ)} {P : Db κ → Prop}

theorem throughout_looked (h : Throughout P c) (f : Try → Option Failure) :
    Throughout P (looked f c) := by
  unfold looked
  split
  · exact Throughout.dropped h.durable
  · exact h

theorem throughout_sought (h : Throughout P c) : Throughout P (sought f bump session_id c) := by
  unfold sought
  split
  · exact h
  · exact throughout_looked h _

theorem runs_find_session (f : Plan) (bump : Bool) (session_id : Nat) (c : Conn (Db κ)) :
    Runs id (find_session false bump f session_id) c
    (findStop f bump session_id)
    (fun found c' => found = sessionFound f bump session_id c ∧ c' = sought f bump session_id c)
    fun e c' => c' = (sought f bump session_id c).failed e := by
  unfold find_session findStop sessionFound sought
  split
  · exact Runs.pure ⟨rfl, rfl⟩
  · refine (runs_fetchone _ _ c).mono ?_ fun _ _ h => h
    rintro _ _ ⟨rfl, rfl⟩
    exact ⟨rfl, rfl⟩

theorem runs_insert_session (hInsert : ∀ db, P db → P db.insertSession.2) (h : Throughout P c) :
    Runs id (insert_session false bump f) c (insertStop f bump)
      (fun a c' => Throughout P c' ∧ a ≠ 0 ∧ c'.view.sessions.has a = true ∧
        c'.durable.sessions.has a = true)
      fun _ c' => Throughout P c' := by
  have hTry : ∀ (t : Try) (c : Conn (Db κ)), Throughout P c →
      Runs id (do
          let session_id ← exec (f (.insertSession bump) t) Db.insertSession
          maybe_commit false (f (.commitSession bump) t)
          pure session_id) c
        ((f (.insertSession bump) t).or (f (.commitSession bump) t))
        (fun a c' => Throughout P c' ∧ a ≠ 0 ∧ c'.view.sessions.has a = true ∧
          c'.durable.sessions.has a = true)
        fun _ c' => Throughout P c' := by
    intro t c h
    refine ((Runs.exec _ _ c).mono (fun _ _ h => h) ?_).bind ?_
    · rintro e _ rfl
      exact (Throughout.withWork h.durable h.view).failed e
    · rintro _ _ ⟨rfl, rfl⟩
      have hWork : Throughout P (c.withWork c.view.insertSession.2) :=
        Throughout.withWork h.durable (hInsert _ h.view)
      refine ((Runs.commit _ (c.isOpen_withWork _)).mono (fun _ _ h => h) ?_).bind_none ?_
      · rintro e _ rfl
        exact hWork.failed e
      · rintro _ _ rfl
        rw [Conn.view_withWork]
        have hHas : c.view.insertSession.2.sessions.has c.view.insertSession.1 = true :=
          AutoTable.has_insert_self _ _
        exact Runs.pure ⟨Throughout.committed (hInsert _ h.view), nofun, hHas, hHas⟩
  exact runs_execute_timed (hTry .first c h) (fun _ _ _ h => h)
    (fun _ _ _ h => Throughout.dropped h.durable)
    fun _ c' h => hTry .second c'.dropped (Throughout.dropped h.durable)

theorem runs_ensure_session (hInsert : ∀ db, P db → P db.insertSession.2) (h : Throughout P c) :
    Runs id (ensure_session false false f session_id) c (ensureStop f session_id c)
      (fun a c' => Throughout P c' ∧ a ≠ 0 ∧ c'.view.sessions.has a = true ∧
        c'.durable.sessions.has a = sessionDurable f session_id c)
      fun _ c' => Throughout P c' := by
  refine ((runs_find_session f false session_id c).mono (fun _ _ h => h) ?_).bind ?_
  · rintro e _ rfl
    exact (throughout_sought h).failed e
  · rintro _ _ ⟨rfl, rfl⟩
    unfold sessionDurable
    split
    · rename_i hFound
      unfold sessionFound at hFound
      split at hFound
      · cases hFound
      · rename_i hId
        refine Runs.pure ⟨throughout_sought h, hId, hFound, ?_⟩
        unfold sought looked
        split
        · rfl
        · split <;> rfl
    · exact runs_insert_session hInsert (throughout_sought h)

end Session

/-! ## One attempt -/

/-- Where the rows of a packet are when a statement is sent: not written yet, in the open
transaction, dropped with it, or committed. -/
inductive Place
  | before
  | pending
  | gone
  | committed
deriving DecidableEq

def Place.stop (place : Place) (fault : Option Failure) : Option (Place × Failure) :=
  fault.map fun e => (place, e)

def Place.Clears : Place → Failure → Bool
  | before, _ => true
  | pending, e => e.rolls_back
  | gone, _ => true
  | committed, _ => false

def dropsRows (f : Plan) : Bool := recovers (f (.findSession true))

def bumpPlace (f : Plan) : Place := if dropsRows f then .gone else .pending

def readPlace (f : Plan) : Place := if dropsRows f then .gone else .committed

def bumpStop (f : Plan) (durable : Bool) : Option Failure :=
  ((queryStop (f (.findSession true))).or
    (if dropsRows f && !durable then insertStop f true else none)).or
  ((f .updateSession .first).or (f .commitCounters .first))

def readStop (f : Plan) : Option Failure :=
  (queryStop (f .readPacket)).or (queryStop (f .readRetention))

def attemptStop (f : Plan) (w : PacketWrite κ) (c : Conn (Db κ)) : Option (Place × Failure) :=
  (Place.before.stop (ensureStop f w.session_id c)).or <|
  (Place.before.stop (f .insertPacket .first)).or <|
  (Place.pending.stop (f .upsertFlow .first)).or <|
  (Place.pending.stop (tagsStop f 0 w.tags)).or <|
  (Place.pending.stop (payloadStop f w)).or <|
  ((bumpPlace f).stop (bumpStop f (sessionDurable f w.session_id c))).or <|
  (readPlace f).stop (readStop f)

structure RowFree (N : Db κ → Prop) : Prop where
  session : ∀ db, N db → N db.insertSession.2
  bump : ∀ db, N db → ∀ session_id packet_length rule_count,
    N (db.bumpSession session_id packet_length rule_count)

/-- What an attempt leaves that is ended by an error, where `N` held before. -/
def Left (N : Db κ → Prop) (w : PacketWrite κ) (stop : Place × Failure) (c : Conn (Db κ)) : Prop :=
  match stop.1 with
  | .before => Throughout N c
  | .pending => N c.durable ∧
      (if stop.2.rolls_back then c.isOpen = false else Shows w.packet c.view)
  | .gone => Throughout N c
  | .committed => Complete w c.durable

section Attempt

variable {N : Db κ → Prop} {f : Plan} {w : PacketWrite κ} {c : Conn (Db κ)}

theorem looked_closed (h : c.isOpen = false) (f : Try → Option Failure) : looked f c = c := by
  obtain ⟨durable, transaction⟩ := c
  cases transaction with
  | none =>
    unfold looked
    split <;> rfl
  | some t => cases h

theorem runs_fetchone_closed (h : c.isOpen = false) (f : Try → Option Failure) (g : Db κ → α) :
    Runs id (fetchone false f g) c (queryStop f) (fun _ c' => c' = c) fun _ c' => c' = c := by
  refine (runs_fetchone f g c).mono ?_ ?_
  · rintro _ _ ⟨-, rfl⟩
    exact looked_closed h f
  · rintro e _ rfl
    rw [looked_closed h, Conn.failed_closed h]

theorem runs_get_packet (env : StoreEnv) (packet_id : Nat) (h : c.isOpen = false) :
    Runs id (get_packet env false f packet_id) c (readStop f) (fun _ c' => c' = c)
      fun _ c' => c' = c := by
  refine (runs_fetchone_closed h _ _).bind ?_
  rintro row _ rfl
  refine (runs_fetchone_closed h _ _).bind_none ?_
  rintro enabled _ rfl
  exact Runs.pure rfl

theorem runs_find_counted (f : Plan) (c : Conn (Db κ)) {session_id : Nat} (hId : session_id ≠ 0) :
    Runs id (find_session false true f session_id) c (queryStop (f (.findSession true)))
      (fun found c' => found = c'.view.sessions.has session_id ∧
        c' = if dropsRows f then c.dropped else c)
      fun e c' => c' = (if dropsRows f then c.dropped else c).failed e := by
  have hFind := runs_find_session f true session_id c
  rw [findStop, if_neg hId, sessionFound, if_neg hId, sought, if_neg hId] at hFind
  refine hFind.mono ?_ fun _ _ h => h
  rintro _ _ ⟨rfl, rfl⟩
  exact ⟨rfl, rfl⟩

theorem runs_bump_pending {session_id : Nat} {packet_length : Int} {rule_count : Nat}
    (hDrops : dropsRows f = false) (durable : Bool) (hId : session_id ≠ 0)
    (hHas : c.view.sessions.has session_id = true) (hOpen : c.isOpen = true)
    (hComplete : Complete w c.view) :
    Runs id (bump_session_counters false f session_id packet_length rule_count) c
      (bumpStop f durable) (fun _ c' => c'.isOpen = false ∧ Complete w c'.durable) (Torn w c) := by
  have hBumped := hComplete.bumpSession session_id packet_length rule_count
  have hFind := runs_find_counted f c hId
  rw [hDrops, if_neg Bool.false_ne_true] at hFind
  unfold bumpStop
  rw [hDrops]
  refine Runs.bind (Q := fun a c' => a = session_id ∧ c' = c) ?_ ?_
  · refine (hFind.mono (fun _ _ h => h) ?_).bind ?_
    · rintro e _ rfl
      exact ⟨c.view, hComplete.shows, by rw [Conn.withWork_view hOpen]⟩
    · rintro _ _ ⟨rfl, rfl⟩
      rw [if_pos hHas]
      exact Runs.pure ⟨rfl, rfl⟩
  · rintro _ _ ⟨rfl, rfl⟩
    refine (runs_write _ _ hComplete.shows).bind ?_
    rintro _ _ rfl
    refine (Runs.commit _ (Conn.isOpen_withWork _ _)).mono ?_ ?_
    · rintro _ _ rfl
      rw [Conn.view_withWork]
      exact ⟨rfl, hBumped⟩
    · rintro e _ rfl
      exact ⟨_, hBumped.shows, rfl⟩

theorem runs_bump_gone {session_id : Nat} {packet_length : Int} {rule_count : Nat}
    (hN : RowFree N) (hDrops : dropsRows f = true) (hId : session_id ≠ 0) (hDurable : N c.durable) :
    Runs id (bump_session_counters false f session_id packet_length rule_count) c
      (bumpStop f (c.durable.sessions.has session_id))
      (fun _ c' => c'.isOpen = false ∧ Throughout N c') fun _ c' => Throughout N c' := by
  have hDropped : Throughout N c.dropped := Throughout.dropped hDurable
  have hFind := runs_find_counted f c hId
  rw [hDrops, if_pos rfl] at hFind
  unfold bumpStop
  rw [hDrops]
  refine Runs.bind (Q := fun _ c' => Throughout N c') ?_ ?_
  · refine (hFind.mono (fun _ _ h => h) ?_).bind ?_
    · rintro e _ rfl
      exact hDropped.failed e
    · rintro _ _ ⟨rfl, rfl⟩
      rw [Conn.view_dropped]
      cases hHas : c.durable.sessions.has session_id with
      | true => exact Runs.pure hDropped
      | false =>
        refine (runs_insert_session hN.session hDropped).mono ?_ fun _ _ h => h
        exact fun _ _ h => h.1
  · intro session_id c₁ hFree
    have hWork : ∀ work, N work → Throughout N (c₁.withWork work) :=
      fun _ h => Throughout.withWork hFree.durable h
    refine ((Runs.exec _ _ c₁).mono (fun _ _ h => h) ?_).bind ?_
    · rintro e _ rfl
      exact (hWork _ hFree.view).failed e
    · rintro _ _ ⟨-, rfl⟩
      have hBumped := hN.bump _ hFree.view session_id packet_length rule_count
      refine (Runs.commit _ (c₁.isOpen_withWork _)).mono ?_ ?_
      · rintro _ _ rfl
        rw [Conn.view_withWork]
        exact ⟨rfl, Throughout.committed hBumped⟩
      · rintro e _ rfl
        exact (hWork _ hBumped).failed e

theorem Torn.left {e : Failure} {c' : Conn (Db κ)} (h : Torn w c e c')
    (hDurable : N c.durable) : Left N w (.pending, e) c' := by
  obtain ⟨work, hShows, rfl⟩ := h
  refine ⟨?_, ?_⟩
  · rwa [Conn.durable_failed, Conn.durable_withWork]
  · unfold Conn.failed
    split
    · rfl
    · rwa [Conn.view_withWork]

theorem runs_at (place : Place) {m : Sql (Db κ) α} {fault : Option Failure}
    {Q : α → Conn (Db κ) → Prop} {R : Failure → Conn (Db κ) → Prop} (h : Runs id m c fault Q R)
    (hR : ∀ e c', R e c' → Left N w (place, e) c') :
    Runs Prod.snd m c (place.stop fault) Q (Left N w) :=
  h.refine (fun e => (place, e)) (fun _ => rfl) hR

theorem runs_read_back (env : StoreEnv) (place : Place) (packet_id : Nat)
    (hClosed : c.isOpen = false) (hLeft : ∀ e, Left N w (place, e) c)
    (hWhole : Throughout N c ∨ Complete w c.durable) :
    Runs Prod.snd (maybe_commit false (f .commitRows .first) >>= fun _ =>
        get_packet env false f packet_id) c (place.stop (readStop f))
      (fun _ c' => Throughout N c' ∨ Complete w c'.durable) (Left N w) := by
  refine Runs.bind (Runs.commit_closed _ hClosed) ?_
  rintro _ _ rfl
  refine (runs_at place (runs_get_packet env packet_id hClosed) ?_).mono ?_ fun _ _ h => h
  · rintro e _ rfl
    exact hLeft e
  · rintro _ _ rfl
    exact hWhole

theorem runs_attempt (env : StoreEnv) (f : Plan) (w : PacketWrite κ) (hN : RowFree N)
    (hFree : Throughout N c) :
    Runs Prod.snd (write_packet_rows env false f w) c (attemptStop f w c)
      (fun _ c' => Throughout N c' ∨ Complete w c'.durable) (Left N w) := by
  refine (runs_at .before (runs_ensure_session hN.session hFree) fun _ _ h => h).bind ?_
  rintro session_id c₁ ⟨hFree, hId, hHas, hSession⟩
  refine (runs_at .before (Runs.exec _ _ c₁) ?_).bind ?_
  · rintro e _ rfl
    exact (Throughout.withWork hFree.durable
      hFree.view).failed e
  rintro _ _ ⟨rfl, rfl⟩
  have hTorn : ∀ {work e c'}, Torn w (c₁.withWork work) e c' → Left N w (.pending, e) c' :=
    fun h => h.left (by rw [Conn.durable_withWork]; exact hFree.durable)
  refine (runs_at .pending (runs_write _ _ ?_) fun _ _ h => hTorn h).bind ?_
  · rw [Conn.view_withWork]
    exact shows_insertPacket session_id
  rintro _ _ rfl
  rw [Conn.withWork_withWork, Conn.view_withWork]
  refine (runs_at .pending (runs_insert_tag_rows _ _ _ (Conn.isOpen_withWork _ _) ?_)
    fun _ _ h => hTorn h).bind ?_
  · rw [Conn.view_withWork]
    exact shows_upsertFlow
  rintro _ _ rfl
  rw [Conn.withWork_withWork, Conn.view_withWork]
  refine (runs_at .pending (runs_insert_payload_row _ (Conn.isOpen_withWork _ _) ?_)
    fun _ _ h => hTorn h).bind ?_
  · rw [Conn.view_withWork]
    exact shows_insertTags shows_upsertFlow _ _
  rintro _ _ rfl
  rw [Conn.withWork_withWork, Conn.view_withWork]
  have hHasRows : (c₁.view.writeRows w session_id).sessions.has session_id = true := by
    rwa [Db.sessions_writeRows]
  have hComplete : Complete w (c₁.view.writeRows w session_id) := complete_writeRows session_id
  have hDurable : N (c₁.withWork (c₁.view.writeRows w session_id)).durable := by
    rw [Conn.durable_withWork]
    exact hFree.durable
  rw [← Conn.durable_withWork c₁ (c₁.view.writeRows w session_id)] at hSession
  -- the rows are all written; the look-up for the counters decides whether they stay
  show Runs Prod.snd (bump_session_counters false f session_id w.counted w.rule_hits >>= _)
    (c₁.withWork (c₁.view.writeRows w session_id)) _ _ _
  unfold bumpPlace readPlace
  cases hDrops : dropsRows f with
  | false =>
    refine (runs_at .pending (runs_bump_pending hDrops _ hId ?_ (Conn.isOpen_withWork _ _) ?_)
      fun _ _ h => hTorn h).bind ?_
    · rwa [Conn.view_withWork]
    · rwa [Conn.view_withWork]
    rintro _ c₂ ⟨hClosed, hLanded⟩
    exact runs_read_back env .committed _ hClosed (fun _ => hLanded) (Or.inr hLanded)
  | true =>
    rw [← hSession]
    refine (runs_at .gone (runs_bump_gone hN hDrops hId hDurable) fun _ _ h => h).bind ?_
    rintro _ c₂ ⟨hClosed, hGone⟩
    exact runs_read_back env .gone _ hClosed (fun _ => hGone) (Or.inl hGone)

end Attempt

/-! ## Rows that have landed -/

section Landed

variable {w : PacketWrite κ} {P : σ → Prop}

theorem keeps_recover (reopen : Option Failure) :
    Keeps (Throughout P) (recover_connection reopen) := by
  intro c h
  cases reopen with
  | none => exact Throughout.dropped h.durable
  | some e => exact Throughout.dropped h.durable

theorem keeps_execute_timed {attempt : Try → Sql σ α} (batch : Bool) (reopen : Option Failure)
    (h : ∀ t, Keeps (Throughout P) (attempt t)) :
    Keeps (Throughout P) (execute_timed batch reopen attempt) := by
  refine (h .first).tryCatch ?_
  intro e
  split
  · exact Keeps.throw e
  · split
    · exact Keeps.throw e
    · exact (keeps_recover reopen).bind fun _ => h .second

theorem keeps_fetchone (batch : Bool) (f : Try → Option Failure) (g : σ → α) :
    Keeps (Throughout P) (fetchone batch f g) :=
  (keeps_execute_timed batch _ fun _ => Throughout.keeps_query _ _).bind
    fun _ => Throughout.keeps_query _ _

theorem keeps_maybe_commit (batch : Bool) (fault : Option Failure) :
    Keeps (Throughout P) (maybe_commit batch fault) := by
  unfold maybe_commit
  split
  · exact Keeps.pure ()
  · exact Throughout.keeps_commit fault

theorem keeps_ensure_session (batch bump : Bool) (f : Plan) (session_id : Nat) :
    Keeps (Throughout (Complete w)) (ensure_session batch bump f session_id) := by
  refine Keeps.bind ?_ fun found => ?_
  · unfold find_session
    split
    · exact Keeps.pure false
    · exact keeps_fetchone _ _ _
  · split
    · exact Keeps.pure session_id
    · refine keeps_execute_timed _ _ fun t => ?_
      refine (Throughout.keeps_exec _ fun _ h => h.insertSession).bind fun id => ?_
      exact (keeps_maybe_commit _ _).bind fun _ => Keeps.pure id

theorem keeps_insert_tag_rows (f : Plan) (packet_id i : Nat) (tags : List PacketTag) :
    Keeps (Throughout (Complete w)) (insert_tag_rows f w packet_id i tags) := by
  induction tags generalizing i with
  | nil => exact Keeps.pure ()
  | cons tag tags ih =>
    refine Keeps.bind ?_ fun _ => ih (i + 1)
    unfold insert_tag_row
    split
    · exact Keeps.pure ()
    · exact Throughout.keeps_exec _ fun _ h => h.insertTag packet_id tag

theorem keeps_write_packet_rows (env : StoreEnv) (batch : Bool) (f : Plan) :
    Keeps (Throughout (Complete w)) (write_packet_rows env batch f w) := by
  refine (keeps_ensure_session _ _ _ _).bind fun session_id => ?_
  refine (Throughout.keeps_exec _ fun _ h => h.insertPacket session_id).bind fun packet_id => ?_
  refine (Throughout.keeps_exec _ fun _ h => h.upsertFlow).bind fun _ => ?_
  refine (keeps_insert_tag_rows _ _ _ _).bind fun _ => ?_
  refine Keeps.bind ?_ fun _ => ?_
  · unfold insert_payload_row
    split
    · exact Throughout.keeps_exec _ fun _ h => h.insertPayload packet_id
    · exact Keeps.pure ()
  refine Keeps.bind ?_ fun _ => ?_
  · refine (keeps_ensure_session _ _ _ _).bind fun session_id => ?_
    refine (Throughout.keeps_exec _ fun _ h => h.bumpSession _ _ _).bind fun _ => ?_
    exact keeps_maybe_commit _ _
  refine (keeps_maybe_commit _ _).bind fun _ => ?_
  refine (keeps_fetchone _ _ _).bind fun _ => ?_
  exact (keeps_fetchone _ _ _).bind fun _ => Keeps.pure _

end Landed

/-! ## The call -/

abbrev Hides (p : κ) (c : Conn (Db κ)) : Prop := Throughout (fun db => ¬ Shows p db) c

def later (g : Db κ → Db κ) : Sql (Db κ) Unit := do
  exec none fun db => ((), g db)
  commit none

/-- The packet is not to be seen, and no later statement that leaves its rows alone makes it
visible with its COMMIT. -/
def Unseen (p : κ) (c : Conn (Db κ)) : Prop :=
  ¬ Shows p c.durable ∧ ∀ g : Db κ → Db κ, (∀ db, Shows p (g db) → Shows p db) →
    ¬ Shows p (later g c).2.durable

/-- Nothing of the packet is there, or all of it is; a call that raises leaves nothing. -/
def LandsWhole (w : PacketWrite κ) (r : Except Failure (Option (PacketRow κ)) × Conn (Db κ)) :
    Prop :=
  match r.1 with
  | .error _ => Unseen w.packet r.2
  | .ok _ => Unseen w.packet r.2 ∨ Complete w r.2.durable

def rawStop (f : Plan) (allow_raw : Bool) : Option Failure :=
  if allow_raw then queryStop (f .rawRetention) else none

def asked (f : Plan) (allow_raw : Bool) (c : Conn (Db κ)) : Conn (Db κ) :=
  if allow_raw then looked (f .rawRetention) c else c

def attempted (env : StoreEnv) (f : Plan) (w : PacketWrite κ) (allow_raw : Bool)
    (c : Conn (Db κ)) : PacketWrite κ :=
  w.retain (allow_raw && raw_retention env (asked f allow_raw c).view)

def AttemptsSettled (env : StoreEnv) (f : Bool → Plan) (w : PacketWrite κ) (c : Conn (Db κ)) :
    Prop :=
  match attemptStop (f false) w c with
  | none => True
  | some (place, e) =>
    if recoverable e = false then place.Clears e = true
    else
      match f false .recover .reopen with
      | some _ => place ≠ .committed
      | none =>
        -- the second attempt starts from what the first one leaves without its transaction
        match attemptStop (f true) w (write_packet_rows env false (f false) w c).2.dropped with
        | none => True
        | some (place', e') => place ≠ .committed ∧ place'.Clears e' = true

def Settled (env : StoreEnv) (f : Bool → Plan) (w : PacketWrite κ) (allow_raw : Bool)
    (c : Conn (Db κ)) : Prop :=
  rawStop (f false) allow_raw = none →
    AttemptsSettled env f (attempted env (f false) w allow_raw c) (asked (f false) allow_raw c)

section Call

variable {f : Bool → Plan} {w : PacketWrite κ} {c : Conn (Db κ)}

theorem durable_later (g : Db κ → Db κ) (c : Conn (Db κ)) : (later g c).2.durable = g c.view := by
  obtain ⟨durable, transaction⟩ := c
  cases transaction <;> rfl

theorem unseen_iff {p : κ} : Unseen p c ↔ Hides p c := by
  constructor
  · rintro ⟨hDurable, hLater⟩
    refine ⟨hDurable, ?_⟩
    have hView := hLater id fun _ h => h
    rwa [durable_later] at hView
  · intro h
    refine ⟨h.durable, ?_⟩
    intro g hg
    rw [durable_later]
    exact fun hShows => h.view (hg _ hShows)

theorem hides_iff_of_left {place : Place} {e : Failure}
    (h : Left (fun db => ¬ Shows w.packet db) w (place, e) c) :
    Hides w.packet c ↔ place.Clears e = true := by
  cases place with
  | before => exact iff_of_true h rfl
  | gone => exact iff_of_true h rfl
  | committed => exact iff_of_false (fun hHides => hHides.durable (Complete.shows h)) nofun
  | pending =>
    obtain ⟨hDurable, hView⟩ := h
    cases hRolls : e.rolls_back with
    | true =>
      rw [hRolls, if_pos rfl] at hView
      refine iff_of_true ⟨hDurable, ?_⟩ hRolls
      obtain ⟨durable, transaction⟩ := c
      cases transaction with
      | none => exact hDurable
      | some t => cases hView
    | false =>
      rw [hRolls, if_neg Bool.false_ne_true] at hView
      refine iff_of_false (fun hHides => hHides.view hView) ?_
      show ¬ e.rolls_back = true
      rw [hRolls]
      exact Bool.false_ne_true

theorem rowFree_hidden (p : κ) : RowFree fun db : Db κ => ¬ Shows p db :=
  ⟨fun _ h => h, fun _ h _ _ _ => h⟩

theorem durable_of_left {place : Place} {e : Failure}
    (h : Left (fun db => ¬ Shows w.packet db) w (place, e) c) :
    if place = .committed then Complete w c.durable else ¬ Shows w.packet c.durable := by
  cases place with
  | before => exact Throughout.durable h
  | pending => exact h.1
  | gone => exact Throughout.durable h
  | committed => exact h

theorem write_retried_whole_iff (env : StoreEnv) (hHides : Hides w.packet c) :
    LandsWhole w (write_retried env f w c) ↔ AttemptsSettled env f w c := by
  have hFirst := runs_attempt env (f false) w (rowFree_hidden w.packet) hHides
  unfold AttemptsSettled
  rcases hStop : attemptStop (f false) w c with _ | ⟨place, e⟩
  · rw [hStop] at hFirst
    obtain ⟨row, c₁, hRun, hWhole⟩ := hFirst
    refine iff_of_true ?_ trivial
    rw [write_retried, Sql.tryCatch_ok hRun]
    exact hWhole.imp_left unseen_iff.mpr
  · rw [hStop] at hFirst
    obtain ⟨c₁, hRun, hLeft⟩ := hFirst
    dsimp only
    rw [write_retried, Sql.tryCatch_error hRun]
    split
    · exact unseen_iff.trans (hides_iff_of_left hLeft)
    · have hDurable := durable_of_left hLeft
      cases hReopen : f false .recover .reopen with
      | some e' =>
        refine unseen_iff.trans ?_
        by_cases hPlace : place = .committed
        · rw [if_pos hPlace] at hDurable
          exact iff_of_false (fun h => h.durable hDurable.shows) (fun h => h hPlace)
        · rw [if_neg hPlace] at hDurable
          exact iff_of_true (Throughout.dropped hDurable) hPlace
      | none =>
        have hStart : (write_packet_rows env false (f false) w c).2.dropped = c₁.dropped := by
          rw [hRun]
        rw [hStart]
        show LandsWhole w (write_packet_rows env false (f true) w c₁.dropped) ↔ _
        by_cases hPlace : place = .committed
        · -- the rows of the first attempt are there whatever the second one does
          rw [if_pos hPlace] at hDurable
          have hKept := keeps_write_packet_rows env false (f true) c₁.dropped
            (Throughout.dropped hDurable)
          have hSecond := runs_attempt (N := fun _ => True) env (f true) w
            ⟨fun _ _ => trivial, fun _ _ _ _ _ => trivial⟩ (Throughout.dropped (c := c₁) trivial)
          rcases hStop₂ : attemptStop (f true) w c₁.dropped with _ | ⟨place', e'⟩
          · rw [hStop₂] at hSecond
            obtain ⟨row, c₂, hRun₂, -⟩ := hSecond
            rw [hRun₂] at hKept ⊢
            exact iff_of_true (Or.inr hKept.durable) trivial
          · rw [hStop₂] at hSecond
            obtain ⟨c₂, hRun₂, -⟩ := hSecond
            rw [hRun₂] at hKept ⊢
            exact iff_of_false (fun h => h.1 hKept.durable.shows) fun h => h.1 hPlace
        · rw [if_neg hPlace] at hDurable
          have hSecond := runs_attempt env (f true) w (rowFree_hidden w.packet)
            (Throughout.dropped (c := c₁) hDurable)
          rcases hStop₂ : attemptStop (f true) w c₁.dropped with _ | ⟨place', e'⟩
          · rw [hStop₂] at hSecond
            obtain ⟨row, c₂, hRun₂, hWhole⟩ := hSecond
            rw [hRun₂]
            exact iff_of_true (hWhole.imp_left unseen_iff.mpr) trivial
          · rw [hStop₂] at hSecond
            obtain ⟨c₂, hRun₂, hLeft₂⟩ := hSecond
            rw [hRun₂]
            refine unseen_iff.trans ((hides_iff_of_left hLeft₂).trans ?_)
            exact ⟨fun h => ⟨hPlace, h⟩, And.right⟩

theorem complete_retain {db : Db κ} (enabled : Bool) :
    Complete (w.retain enabled) db ↔ Complete w db := by
  unfold PacketWrite.retain
  split
  · exact Iff.rfl
  · constructor
    · rintro ⟨packet_id, h⟩
      exact ⟨packet_id, h.row, h.flow, h.tags, h.payload⟩
    · rintro ⟨packet_id, h⟩
      exact ⟨packet_id, h.row, h.flow, h.tags, h.payload⟩

theorem landsWhole_retain (enabled : Bool)
    (r : Except Failure (Option (PacketRow κ)) × Conn (Db κ)) :
    LandsWhole (w.retain enabled) r ↔ LandsWhole w r := by
  have hPacket : (w.retain enabled).packet = w.packet := by
    unfold PacketWrite.retain
    split <;> rfl
  unfold LandsWhole
  rw [hPacket]
  split
  · exact Iff.rfl
  · rw [complete_retain]

theorem runs_raw_enabled (env : StoreEnv) (f : Plan) (allow_raw : Bool) (c : Conn (Db κ)) :
    Runs id (raw_enabled env false f allow_raw) c (rawStop f allow_raw)
      (fun enabled c' => enabled = (allow_raw && raw_retention env (asked f allow_raw c).view) ∧
        c' = asked f allow_raw c)
      fun e c' => c' = (asked f allow_raw c).failed e := by
  unfold raw_enabled rawStop asked
  cases allow_raw with
  | false => exact Runs.pure ⟨rfl, rfl⟩
  | true =>
    refine (runs_fetchone _ _ c).mono ?_ fun _ _ h => h
    rintro _ _ ⟨rfl, rfl⟩
    exact ⟨rfl, rfl⟩

/-- A packet of which nothing is to be seen before the call lands whole or not at all, and not
at all when the call raises, exactly when the error that ends the call is raised before its
row is written, or rolls the transaction back, or comes when the rows are dropped, and no
COMMIT of an earlier attempt is behind it. -/
theorem lands_whole_iff (env : StoreEnv) (f : Bool → Plan) (w : PacketWrite κ) (allow_raw : Bool)
    (c : Conn (Db κ)) (hNew : Hides w.packet c) :
    LandsWhole w (register_packet env false f w allow_raw c) ↔ Settled env f w allow_raw c := by
  have hAsked : Hides w.packet (asked (f false) allow_raw c) := by
    unfold asked
    split
    · exact throughout_looked hNew _
    · exact hNew
  have hRaw := runs_raw_enabled env (f false) allow_raw c
  unfold Settled
  cases hStop : rawStop (f false) allow_raw with
  | some e =>
    rw [hStop] at hRaw
    obtain ⟨c', hRun, rfl⟩ := hRaw
    refine iff_of_true ?_ nofun
    rw [register_packet, Sql.bind_error hRun]
    exact unseen_iff.mpr (hAsked.failed e)
  | none =>
    rw [hStop] at hRaw
    obtain ⟨enabled, c', hRun, rfl, rfl⟩ := hRaw
    rw [register_packet, Sql.bind_ok hRun, if_neg Bool.false_ne_true, ← landsWhole_retain,
      write_retried_whole_iff]
    · exact ⟨fun h _ => h, fun h => h rfl⟩
    · unfold PacketWrite.retain
      split <;> exact hAsked

end Call

/-! ## A flow that cannot be written -/

def failsAt (site : Site) (e : Failure) (again : Bool) : Plan := fun site' t =>
  if again = false ∧ site' = site ∧ t = .first then some e else none

def malformed : Failure := ⟨"database disk image is malformed", false⟩

theorem emptyConn_hides (p : String) : Hides p emptyConn := by
  have hEmpty : ¬ Shows p (Db.empty : Db String) := by
    rintro (⟨_, h, -⟩ | ⟨_, h, -⟩ | ⟨_, h, -⟩ | ⟨_, h, -⟩) <;> cases h
  exact ⟨hEmpty, hEmpty⟩

/-- The flow fails and the packet row stays in the transaction, for the next COMMIT. -/
theorem flow_failure_torn : ¬ ∀ (env : StoreEnv) (f : Bool → Plan) (w : PacketWrite String)
    (allow_raw : Bool) (c : Conn (Db String)), Hides w.packet c →
      LandsWhole w (register_packet env false f w allow_raw c) := by
  intro hAll
  have h := hAll ⟨false⟩ (failsAt .upsertFlow malformed) probeWrite false emptyConn
    (emptyConn_hides _)
  have hUnseen : Unseen probeWrite.packet (register_packet ⟨false⟩ false
      (failsAt .upsertFlow malformed) probeWrite false emptyConn).2 := h
  apply hUnseen.2 id fun _ h => h
  exact Or.inl ⟨(1, probeWrite.row 1), by decide +kernel, rfl⟩

/-- A full disk rolls the transaction back with the flow. -/
theorem lands_whole_iff_diskFull : LandsWhole probeWrite (register_packet ⟨false⟩ false
    (failsAt .upsertFlow diskFull) probeWrite false emptyConn) := by
  refine (lands_whole_iff _ _ _ _ _ (emptyConn_hides _)).mpr ?_
  intro _
  exact (rfl : Place.Clears .pending diskFull = true)

end Sniff4Hound.Store
