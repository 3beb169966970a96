import Sniff4Hound.Store.BatchWrite

/-!
# Attempts to write a batch

`_flush_deferred` hands the packets of a batch to `register_packets`, and once more when another
process holds the write lock, three times at most. An attempt that raises leaves nothing behind
it, unless the database had rolled the transaction back before. The packets are all saved exactly
when an attempt without a failure comes behind attempts that found the database locked
(`saves_all_iff`).
-/

namespace Sniff4Hound.Store

open SqlTransaction

variable {κ : Type}

/-! ## The attempts -/

/-- What an attempt meets: failures of BEGIN and COMMIT, those of the packet at each place of the
batch, and the place of a packet whose registration raises an exception that is not one of
`sqlite3`. -/
structure Attempt where
  begins : Option Failure
  commits : Option Failure
  faults : Nat → Plan
  breaks : Option Nat

/-- Stands for an exception that is not one of `sqlite3`; its text is not looked at. -/
def notSqlite : Failure := ⟨"", false⟩

/-- `"locked" in str(exc).lower()` -/
def locked (rt : Runtime) (e : Failure) : Bool := contains (rt.lower e.message) "locked"

abbrev DeferredWrite (κ : Type) : Type := PacketWrite κ × Bool

namespace Attempt

def items (a : Attempt) (writes : List (DeferredWrite κ)) : List (BatchItem κ) :=
  writes.mapIdx fun place w => ⟨w.1, w.2, a.faults place⟩

/-- `register_packets`; an exception that is not one of `sqlite3` ends the block. -/
def register (store : StoreEnv) (a : Attempt) (writes : List (DeferredWrite κ)) :
    Sql (Db κ) (List (PacketOutcome κ)) :=
  match a.breaks with
  | none => register_packets store a.begins a.commits (a.items writes)
  | some place => write_batch a.begins none do
      let _ ← register_each store ((a.items writes).take place)
      throw notSqlite

end Attempt

/-- The loop of `_flush_deferred` over what its attempts meet; `none` when the batch is given up. -/
def register_retried (rt : Runtime) (store : StoreEnv) (writes : List (DeferredWrite κ)) :
    List Attempt → Conn (Db κ) → Option (List (PacketOutcome κ)) × Conn (Db κ)
  | [], c => (none, c)
  | a :: rest, c =>
    match a.register store writes c with
    | (.ok outcomes, c') => (some outcomes, c')
    | (.error e, c') =>
      if locked rt e && !rest.isEmpty then register_retried rt store writes rest c'
      else (none, c')

/-! ## Attempts that succeed and attempts that wait -/

def AllSaved (store : StoreEnv) : Db κ → List (BatchItem κ) → Prop
  | _, [] => True
  | db, item :: items => item.stop db = none ∧ AllSaved store (item.land store db) items

structure Attempt.Sound (store : StoreEnv) (a : Attempt) (writes : List (DeferredWrite κ))
    (db : Db κ) : Prop where
  breaks : a.breaks = none
  begins : a.begins = none
  saved : AllSaved store db (a.items writes)
  commits : a.commits = none

/-- Another process holds the lock at BEGIN, or at the COMMIT of a transaction that is still
there. -/
def Attempt.Waits (rt : Runtime) (store : StoreEnv) (a : Attempt)
    (writes : List (DeferredWrite κ)) (db : Db κ) : Prop :=
  (∃ e, a.begins = some e ∧ locked rt e = true) ∨
    a.begins = none ∧ a.breaks = none ∧ NoLoss store db (a.items writes) ∧
      ∃ e, a.commits = some e ∧ locked rt e = true

/-- One attempt is sound, and after each one before it the next is made. -/
def Lands (rt : Runtime) (store : StoreEnv) (writes : List (DeferredWrite κ)) (db : Db κ) :
    List Attempt → Prop
  | [] => False
  | a :: rest => a.Sound store writes db ∨
      a.Waits rt store writes db ∧ Lands rt store writes db rest

/-! ## One attempt -/

section Each

variable {store : StoreEnv} {items : List (BatchItem κ)} {durable work : Db κ}

def IsSaved (outcome : PacketOutcome κ) : Prop := ∃ row, outcome = .ok (some row)

theorem register_each_returns (store : StoreEnv) (items : List (BatchItem κ)) (c : Conn (Db κ)) :
    ∃ outcomes c', register_each store items c = (.ok outcomes, c') ∧
      outcomes.length = items.length := by
  induction items generalizing c with
  | nil => exact ⟨[], c, rfl, rfl⟩
  | cons item items ih =>
    obtain ⟨outcomes, c', hRest, hLength⟩ := ih (register_packet store true
      (fun _ => item.faults) item.write item.allow_raw c).2
    exact ⟨_, c', register_each_cons rfl hRest, congrArg Nat.succ hLength⟩

theorem register_each_saves (durable : Db κ) (h : AllSaved store work items) :
    ∃ outcomes work', register_each store items (inBatch durable work) =
        (.ok outcomes, inBatch durable work') ∧ (∀ outcome ∈ outcomes, IsSaved outcome) ∧
      outcomes.length = items.length ∧
      work'.packets.rows.length = work.packets.rows.length + items.length := by
  induction items generalizing work with
  | nil => exact ⟨[], work, rfl, nofun, rfl, rfl⟩
  | cons item items ih =>
    obtain ⟨hStop, hRest⟩ := h
    have hItem := register_open store item durable work
    rw [hStop] at hItem
    obtain ⟨outcomes, work', hRun, hSaved, hLength, hRows⟩ := ih hRest
    refine ⟨_, work', register_each_cons hItem hRun, ?_, congrArg Nat.succ hLength, ?_⟩
    · intro outcome hOutcome
      rcases List.mem_cons.mp hOutcome with rfl | hLater
      · exact ⟨_, rfl⟩
      · exact hSaved outcome hLater
    · rw [hRows, BatchItem.land, Db.length_land, List.length_cons]
      omega

theorem register_each_fails (h : ¬AllSaved store work items) {outcomes : List (PacketOutcome κ)}
    {c' : Conn (Db κ)}
    (hRun : register_each store items (inBatch durable work) = (.ok outcomes, c')) :
    ∃ e, .error e ∈ outcomes := by
  induction items generalizing work outcomes c' with
  | nil => exact absurd trivial h
  | cons item items ih =>
    have hItem := register_open store item durable work
    cases hStop : item.stop work with
    | none =>
      rw [hStop] at hItem
      obtain ⟨rest, c₂, hRest, -⟩ :=
        register_each_returns store items (inBatch durable (item.land store work))
      have hBoth := hRun.symm.trans (register_each_cons hItem hRest)
      obtain ⟨e, hError⟩ := ih (fun hSaved => h ⟨hStop, hSaved⟩) hRest
      rw [Except.ok.inj (congrArg Prod.fst hBoth)]
      exact ⟨e, List.mem_cons_of_mem _ hError⟩
    | some e =>
      rw [hStop] at hItem
      obtain ⟨e', hItem⟩ := hItem
      obtain ⟨rest, c₂, hRest, -⟩ := register_each_returns store items
        (if e.rolls_back then closed durable else inBatch durable work)
      have hBoth := hRun.symm.trans (register_each_cons hItem hRest)
      rw [Except.ok.inj (congrArg Prod.fst hBoth)]
      exact ⟨e', List.mem_cons_self⟩

theorem AllSaved.noLoss (h : AllSaved store work items) : NoLoss store work items := by
  induction items generalizing work with
  | nil => trivial
  | cons item items ih =>
    obtain ⟨hStop, hRest⟩ := h
    rw [NoLoss, hStop]
    exact ih hRest

end Each

section Attempts

variable {rt : Runtime} {store : StoreEnv} {a : Attempt} {writes : List (DeferredWrite κ)}
  {durable : Db κ} {attempts : List Attempt} {c : Conn (Db κ)}

theorem length_items : (a.items writes).length = writes.length := List.length_mapIdx

theorem register_unbroken (h : a.breaks = none) : a.register store writes =
    register_packets store a.begins a.commits (a.items writes) := by
  rw [Attempt.register, h]

theorem register_unbegun {e : Failure} (h : a.begins = some e) :
    a.register store writes (closed durable) = (.error e, closed durable) := by
  unfold Attempt.register register_packets
  rw [h]
  cases a.breaks with
  | none => rfl
  | some place => rfl

theorem register_busy (hOpen : c.isOpen = true) : ∃ e,
    a.register store writes c = (.error e, c) := by
  obtain ⟨durable, _ | t⟩ := c
  · cases hOpen
  · unfold Attempt.register register_packets
    cases a.breaks with
    | none => exact ⟨_, rfl⟩
    | some place => exact ⟨_, rfl⟩

theorem register_sound (h : a.Sound store writes durable) :
    ∃ outcomes db', a.register store writes (closed durable) = (.ok outcomes, closed db') ∧
      (∀ outcome ∈ outcomes, IsSaved outcome) ∧ outcomes.length = writes.length ∧
      db'.packets.rows.length = durable.packets.rows.length + writes.length := by
  obtain ⟨hBreaks, hBegins, hAll, hCommits⟩ := h
  obtain ⟨outcomes, db', hRun, hSaved, hLength, hRows⟩ := register_each_saves durable hAll
  rw [length_items] at hLength hRows
  refine ⟨outcomes, db', ?_, hSaved, hLength, hRows⟩
  rw [register_unbroken hBreaks, register_packets, hBegins, hCommits]
  exact write_batch_committed hRun

theorem register_waits (h : a.Waits rt store writes durable) : ∃ e,
    a.register store writes (closed durable) = (.error e, closed durable) ∧ locked rt e = true := by
  rcases h with ⟨e, hBegins, hLocked⟩ | ⟨hBegins, hBreaks, hKept, e, hCommits, hLocked⟩
  · exact ⟨e, register_unbegun hBegins, hLocked⟩
  · refine ⟨e, ?_, hLocked⟩
    obtain ⟨outcomes, work, hRun, -⟩ := register_each_open hKept durable
    rw [register_unbroken hBreaks, register_packets, hBegins, hCommits]
    exact write_batch_committed hRun

theorem register_unsound (hSound : ¬a.Sound store writes durable)
    (hWaits : ¬a.Waits rt store writes durable) :
    (∃ outcomes c', a.register store writes (closed durable) = (.ok outcomes, c') ∧
        outcomes.length = writes.length ∧ ∃ e, .error e ∈ outcomes) ∨
      ∃ e c', a.register store writes (closed durable) = (.error e, c') ∧ locked rt e = false := by
  cases hBegins : a.begins with
  | some e =>
    refine .inr ⟨e, _, register_unbegun hBegins, Bool.eq_false_iff.mpr fun hLocked => ?_⟩
    exact hWaits (.inl ⟨e, hBegins, hLocked⟩)
  | none =>
    cases hBreaks : a.breaks with
    | some place =>
      obtain ⟨outcomes, c', hRun, -⟩ := register_each_returns store
        ((a.items writes).take place) (inBatch durable durable)
      have hBlock : (do
          let _ ← register_each store ((a.items writes).take place)
          throw notSqlite : Sql (Db κ) (List (PacketOutcome κ))) (inBatch durable durable) =
            (.error notSqlite, c') := Sql.bind_ok hRun
      have hBegin : begin_immediate none (closed durable) =
          (.ok (), inBatch durable durable) := rfl
      refine .inr ⟨notSqlite, c'.dropped, ?_, ?_⟩
      · unfold Attempt.register write_batch
        rw [hBreaks, hBegins]
        dsimp only
        rw [Sql.bind_ok hBegin, Sql.tryCatch_error (Sql.bind_error hBlock)]
        rfl
      · rw [locked, notSqlite, (rt.lower_eq_empty "").mpr rfl]
        decide
    | none =>
      obtain ⟨outcomes, c', hRun, hLength⟩ :=
        register_each_returns store (a.items writes) (inBatch durable durable)
      rw [length_items] at hLength
      have hFails (hNot : ¬AllSaved store durable (a.items writes)) :=
        register_each_fails hNot hRun
      rw [register_unbroken hBreaks, register_packets, hBegins]
      by_cases hKept : NoLoss store durable (a.items writes)
      · obtain ⟨outcomes', work, hOpen, -⟩ := register_each_open hKept durable
        obtain rfl := Except.ok.inj (congrArg Prod.fst (hRun.symm.trans hOpen))
        cases hCommits : a.commits with
        | none =>
          refine .inl ⟨outcomes, _, write_batch_committed hOpen, hLength,
            hFails fun hAll => hSound ?_⟩
          exact ⟨hBreaks, hBegins, hAll, hCommits⟩
        | some e =>
          refine .inr ⟨e, _, write_batch_committed hOpen,
            Bool.eq_false_iff.mpr fun hLocked => ?_⟩
          exact hWaits (.inr ⟨hBegins, hBreaks, hKept, e, hCommits, hLocked⟩)
      · obtain ⟨outcomes', durable', hLost, -⟩ := register_each_lost hKept durable
        obtain rfl := Except.ok.inj (congrArg Prod.fst (hRun.symm.trans hLost))
        have hBatch : write_batch none a.commits (register_each store (a.items writes))
            (closed durable) = (.ok outcomes, closed durable') := write_batch_lost hLost
        rw [hBatch]
        exact .inl ⟨outcomes, _, rfl, hLength, hFails fun hAll => hKept hAll.noLoss⟩

/-! ## All attempts -/

theorem register_retried_saves (h : Lands rt store writes durable attempts) :
    ∃ outcomes db', register_retried rt store writes attempts (closed durable) =
        (some outcomes, closed db') ∧ (∀ outcome ∈ outcomes, IsSaved outcome) ∧
      outcomes.length = writes.length ∧
      db'.packets.rows.length = durable.packets.rows.length + writes.length := by
  induction attempts with
  | nil => exact h.elim
  | cons a rest ih =>
    rcases h with hSound | ⟨hWaits, hRest⟩
    · obtain ⟨outcomes, db', hRun, hFacts⟩ := register_sound hSound
      refine ⟨outcomes, db', ?_, hFacts⟩
      rw [register_retried, hRun]
    · obtain ⟨e, hRun, hLocked⟩ := register_waits hWaits
      obtain ⟨outcomes, db', hLater, hFacts⟩ := ih hRest
      refine ⟨outcomes, db', ?_, hFacts⟩
      cases rest with
      | nil => exact hRest.elim
      | cons next rest =>
        rw [register_retried, hRun]
        dsimp only
        rw [hLocked]
        exact hLater

theorem register_retried_busy (hOpen : c.isOpen = true) :
    register_retried rt store writes attempts c = (none, c) := by
  induction attempts with
  | nil => rfl
  | cons a rest ih =>
    obtain ⟨e, hRun⟩ : ∃ e, a.register store writes c = (.error e, c) := register_busy hOpen
    rw [register_retried, hRun]
    dsimp only
    split
    · exact ih
    · rfl

def FailsOne (writes : List (DeferredWrite κ)) : Option (List (PacketOutcome κ)) → Prop
  | none => True
  | some outcomes => outcomes.length = writes.length ∧ ∃ e, .error e ∈ outcomes

theorem register_retried_fails
    (h : ¬(c.isOpen = false ∧ Lands rt store writes c.durable attempts)) :
    FailsOne writes (register_retried rt store writes attempts c).1 := by
  obtain ⟨durable, _ | t⟩ := c
  · have hLands : ¬Lands rt store writes durable attempts := fun hLands => h ⟨rfl, hLands⟩
    clear h
    change FailsOne writes (register_retried rt store writes attempts (closed durable)).1
    induction attempts with
    | nil => trivial
    | cons a rest ih =>
      obtain ⟨hSound, hRest⟩ := not_or.mp hLands
      rw [register_retried]
      by_cases hWaits : a.Waits rt store writes durable
      · obtain ⟨e, hRun, -⟩ := register_waits hWaits
        rw [hRun]
        dsimp only
        split
        · exact ih fun hLater => hRest ⟨hWaits, hLater⟩
        · trivial
      · rcases register_unsound hSound hWaits with
          ⟨outcomes, c', hRun, hFails⟩ | ⟨e, c', hRun, hFree⟩
        · rw [hRun]
          exact hFails
        · rw [hRun]
          dsimp only
          rw [hFree]
          trivial
  · rw [register_retried_busy rfl]
    trivial

/-- The packets are all saved exactly when the batch lands, on a connection without a
transaction. -/
theorem saves_all_iff :
    (∃ outcomes, (register_retried rt store writes attempts c).1 = some outcomes ∧
      ∀ outcome ∈ outcomes, IsSaved outcome) ↔
        c.isOpen = false ∧ Lands rt store writes c.durable attempts := by
  constructor
  · rintro ⟨outcomes, hRun, hSaved⟩
    by_contra hNot
    have hFails := register_retried_fails hNot
    rw [hRun] at hFails
    obtain ⟨-, e, hError⟩ := hFails
    obtain ⟨row, hRow⟩ := hSaved _ hError
    cases hRow
  · obtain ⟨durable, _ | t⟩ := c
    · rintro ⟨-, hLands⟩
      obtain ⟨outcomes, db', hRun, hSaved, -⟩ := register_retried_saves hLands
      exact ⟨outcomes, congrArg Prod.fst hRun, hSaved⟩
    · rintro ⟨hOpen, -⟩
      cases hOpen

end Attempts

end Sniff4Hound.Store
