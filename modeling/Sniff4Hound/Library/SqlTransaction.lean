import Mathlib.Logic.Basic

/-!
# Statements over one connection

A connection shows the work of its open transaction, or else what is durable. A writing
statement opens a transaction when there is none; COMMIT makes the work durable. A
statement that fails changes nothing, unless the database rolls the whole transaction back
with it, savepoints included. Programs over a connection raise the first failure they do not
handle; `Runs` says which one that is and what holds at the end, and composes along the
sequence of the statements.
-/

namespace SqlTransaction

structure Failure where
  message : String
  rolls_back : Bool
deriving DecidableEq

/-- `began` tells a transaction that BEGIN has opened from one that a savepoint has. -/
structure Transaction (σ : Type) where
  work : σ
  saves : List σ
  began : Bool

structure Conn (σ : Type) where
  durable : σ
  transaction : Option (Transaction σ)

variable {σ α β τ τ' : Type}

namespace Conn

def view (c : Conn σ) : σ :=
  match c.transaction with
  | none => c.durable
  | some t => t.work

def isOpen (c : Conn σ) : Bool := c.transaction.isSome

def dropped (c : Conn σ) : Conn σ := ⟨c.durable, none⟩

def withWork (c : Conn σ) (work : σ) : Conn σ :=
  match c.transaction with
  | none => ⟨c.durable, some ⟨work, [], true⟩⟩
  | some t => ⟨c.durable, some { t with work := work }⟩

def failed (c : Conn σ) (e : Failure) : Conn σ := if e.rolls_back then c.dropped else c

variable (c : Conn σ)

@[simp] theorem view_dropped : c.dropped.view = c.durable := rfl

@[simp] theorem durable_withWork (work : σ) : (c.withWork work).durable = c.durable := by
  unfold withWork
  split <;> rfl

@[simp] theorem view_withWork (work : σ) : (c.withWork work).view = work := by
  unfold withWork
  split <;> rfl

@[simp] theorem withWork_withWork (work work' : σ) :
    (c.withWork work).withWork work' = c.withWork work' := by
  obtain ⟨durable, transaction⟩ := c
  cases transaction <;> rfl

@[simp] theorem isOpen_withWork (work : σ) : (c.withWork work).isOpen = true := by
  unfold withWork
  split <;> rfl

theorem withWork_view {c : Conn σ} (h : c.isOpen = true) : c.withWork c.view = c := by
  obtain ⟨durable, transaction⟩ := c
  cases transaction with
  | none => cases h
  | some t => rfl

@[simp] theorem durable_failed (e : Failure) : (c.failed e).durable = c.durable := by
  unfold failed
  split <;> rfl

@[simp] theorem dropped_failed (e : Failure) : (c.failed e).dropped = c.dropped := by
  unfold dropped
  rw [durable_failed]

theorem failed_closed {c : Conn σ} (h : c.isOpen = false) (e : Failure) : c.failed e = c := by
  obtain ⟨durable, transaction⟩ := c
  cases transaction with
  | none =>
    unfold failed
    split <;> rfl
  | some t => cases h

@[simp] theorem failed_dropped (e : Failure) : c.dropped.failed e = c.dropped :=
  failed_closed rfl e

end Conn

def Sql (σ α : Type) : Type := Conn σ → Except Failure α × Conn σ

instance : Monad (Sql σ) where
  pure a := fun c => (.ok a, c)
  bind m k := fun c => match m c with
    | (.ok a, c) => k a c
    | (.error e, c) => (.error e, c)

instance : MonadExcept Failure (Sql σ) where
  throw e := fun c => (.error e, c)
  tryCatch m handler := fun c => match m c with
    | (.ok a, c) => (.ok a, c)
    | (.error e, c) => handler e c

namespace Sql

variable {m : Sql σ α} {c c' : Conn σ}

theorem bind_ok {k : α → Sql σ β} {a : α} (h : m c = (.ok a, c')) : (m >>= k) c = k a c' := by
  simp only [Bind.bind, h]

theorem bind_error {k : α → Sql σ β} {e : Failure} (h : m c = (.error e, c')) :
    (m >>= k) c = (.error e, c') := by
  simp only [Bind.bind, h]

theorem tryCatch_ok {handler : Failure → Sql σ α} {a : α} (h : m c = (.ok a, c')) :
    tryCatch m handler c = (.ok a, c') := by
  simp only [tryCatch, MonadExcept.tryCatch, h]

theorem tryCatch_error {handler : Failure → Sql σ α} {e : Failure} (h : m c = (.error e, c')) :
    tryCatch m handler c = handler e c' := by
  simp only [tryCatch, MonadExcept.tryCatch, h]

end Sql

/-! ## Statements -/

def query (fault : Option Failure) (g : σ → α) : Sql σ α := fun c =>
  match fault with
  | some e => (.error e, c.failed e)
  | none => (.ok (g c.view), c)

def exec (fault : Option Failure) (g : σ → α × σ) : Sql σ α := fun c =>
  match fault with
  | some e => (.error e, (c.withWork c.view).failed e)
  | none => (.ok (g c.view).1, c.withWork (g c.view).2)

def commit (fault : Option Failure) : Sql σ Unit := fun c =>
  match c.transaction with
  | none => (.ok (), c)
  | some t =>
    match fault with
    | some e => (.error e, c.failed e)
    | none => (.ok (), ⟨t.work, none⟩)

def rollback : Sql σ Unit := fun c => (.ok (), c.dropped)

def begin_immediate (fault : Option Failure) : Sql σ Unit := fun c =>
  match c.transaction with
  | some _ => (.error ⟨"cannot start a transaction within a transaction", false⟩, c)
  | none =>
    match fault with
    | some e => (.error e, c)
    | none => (.ok (), ⟨c.durable, some ⟨c.durable, [], true⟩⟩)

def noSavepoint : Failure := ⟨"no such savepoint", false⟩

def savepoint (fault : Option Failure) : Sql σ Unit := fun c =>
  match fault with
  | some e => (.error e, c.failed e)
  | none =>
    match c.transaction with
    | none => (.ok (), ⟨c.durable, some ⟨c.durable, [c.durable], false⟩⟩)
    | some t => (.ok (), ⟨c.durable, some { t with saves := t.work :: t.saves }⟩)

def rollback_to : Sql σ Unit := fun c =>
  match c.transaction with
  | none => (.error noSavepoint, c)
  | some t =>
    match t.saves with
    | [] => (.error noSavepoint, c)
    | save :: _ => (.ok (), ⟨c.durable, some { t with work := save }⟩)

/-- The release of the savepoint that opened the transaction is its COMMIT, and its failure
rolls the transaction back; any other release only forgets the savepoint. -/
def release (fault : Option Failure) : Sql σ Unit := fun c =>
  match c.transaction with
  | none => (.error noSavepoint, c)
  | some t =>
    match t.saves, t.began with
    | [], _ => (.error noSavepoint, c)
    | [_], false =>
      match fault with
      | some e => (.error e, c.dropped)
      | none => (.ok (), ⟨t.work, none⟩)
    | _ :: saves, _ => (.ok (), ⟨c.durable, some { t with saves := saves }⟩)

/-! ## Where a program stops -/

/-- From `c` the program ends with a result that meets `Q`, or stops as `stop` says, with the
failure `err` of it and in a state that meets `R`. -/
def Runs (err : τ → Failure) (m : Sql σ α) (c : Conn σ) (stop : Option τ)
    (Q : α → Conn σ → Prop) (R : τ → Conn σ → Prop) : Prop :=
  match stop with
  | none => ∃ a c', m c = (.ok a, c') ∧ Q a c'
  | some t => ∃ c', m c = (.error (err t), c') ∧ R t c'

namespace Runs

variable {err : τ → Failure} {m : Sql σ α} {c : Conn σ} {stop stop' : Option τ}
  {Q Q' : α → Conn σ → Prop} {R R' : τ → Conn σ → Prop}

theorem pure {a : α} (h : Q a c) : Runs err (Pure.pure a : Sql σ α) c none Q R :=
  ⟨a, c, rfl, h⟩

theorem mono (h : Runs err m c stop Q R) (hQ : ∀ a c', Q a c' → Q' a c')
    (hR : ∀ t c', R t c' → R' t c') : Runs err m c stop Q' R' := by
  cases stop with
  | none =>
    obtain ⟨a, c', hRun, hPost⟩ := h
    exact ⟨a, c', hRun, hQ a c' hPost⟩
  | some t =>
    obtain ⟨c', hRun, hPost⟩ := h
    exact ⟨c', hRun, hR t c' hPost⟩

theorem bind {k : α → Sql σ β} {Q' : β → Conn σ → Prop} (h : Runs err m c stop Q R)
    (hNext : ∀ a c', Q a c' → Runs err (k a) c' stop' Q' R) :
    Runs err (m >>= k) c (stop.or stop') Q' R := by
  cases stop with
  | none =>
    obtain ⟨a, c', hRun, hPost⟩ := h
    have hRest := hNext a c' hPost
    rw [Option.none_or]
    unfold Runs at hRest ⊢
    rwa [Sql.bind_ok hRun]
  | some t =>
    obtain ⟨c', hRun, hPost⟩ := h
    exact ⟨c', Sql.bind_error hRun, hPost⟩

theorem bind_none {k : α → Sql σ β} {Q' : β → Conn σ → Prop} (h : Runs err m c stop Q R)
    (hNext : ∀ a c', Q a c' → Runs err (k a) c' none Q' R) : Runs err (m >>= k) c stop Q' R := by
  have hBoth := h.bind hNext
  rwa [Option.or_none] at hBoth

theorem refine {stop : Option τ'} {err' : τ' → Failure} {R : τ' → Conn σ → Prop} (g : τ' → τ)
    (hErr : ∀ t, err (g t) = err' t) {R' : τ → Conn σ → Prop} (h : Runs err' m c stop Q R)
    (hR : ∀ t c', R t c' → R' (g t) c') : Runs err m c (stop.map g) Q R' := by
  cases stop with
  | none => exact h
  | some t =>
    obtain ⟨c', hRun, hPost⟩ := h
    refine ⟨c', ?_, hR t c' hPost⟩
    rw [hErr]
    exact hRun

variable (fault : Option Failure)

theorem query (g : σ → α) (c : Conn σ) :
    Runs id (query fault g) c fault (fun a c' => a = g c.view ∧ c' = c)
      fun e c' => c' = c.failed e := by
  cases fault with
  | none => exact ⟨_, c, rfl, rfl, rfl⟩
  | some e => exact ⟨_, rfl, rfl⟩

theorem exec (g : σ → α × σ) (c : Conn σ) :
    Runs id (exec fault g) c fault (fun a c' => a = (g c.view).1 ∧ c' = c.withWork (g c.view).2)
      fun e c' => c' = (c.withWork c.view).failed e := by
  cases fault with
  | none => exact ⟨_, _, rfl, rfl, rfl⟩
  | some e => exact ⟨_, rfl, rfl⟩

theorem commit (h : c.isOpen = true) :
    Runs id (commit fault) c fault (fun _ c' => c' = ⟨c.view, none⟩)
      fun e c' => c' = c.failed e := by
  obtain ⟨durable, transaction⟩ := c
  cases transaction with
  | none => cases h
  | some t =>
    cases fault with
    | none => exact ⟨(), _, rfl, rfl⟩
    | some e => exact ⟨_, rfl, rfl⟩

theorem commit_closed (h : c.isOpen = false) :
    Runs err (SqlTransaction.commit fault) c none (fun _ c' => c' = c) R := by
  obtain ⟨durable, transaction⟩ := c
  cases transaction with
  | none => exact ⟨(), _, rfl, rfl⟩
  | some t => cases h

end Runs

/-! ## What every program of a kind keeps -/

def Keeps (I : Conn σ → Prop) (m : Sql σ α) : Prop := ∀ c, I c → I (m c).2

namespace Keeps

variable {I : Conn σ → Prop} {m : Sql σ α}

theorem pure (a : α) : Keeps I (Pure.pure a : Sql σ α) := fun _ h => h

theorem throw (e : Failure) : Keeps I (throw e : Sql σ α) := fun _ h => h

theorem bind {k : α → Sql σ β} (h : Keeps I m) (hNext : ∀ a, Keeps I (k a)) :
    Keeps I (m >>= k) := by
  intro c hc
  have hMid := h c hc
  rcases hRun : m c with ⟨_ | a, c'⟩
  · rw [Sql.bind_error hRun]
    rwa [hRun] at hMid
  · rw [Sql.bind_ok hRun]
    rw [hRun] at hMid
    exact hNext a c' hMid

theorem tryCatch {handler : Failure → Sql σ α} (h : Keeps I m)
    (hHandler : ∀ e, Keeps I (handler e)) : Keeps I (tryCatch m handler) := by
  intro c hc
  have hMid := h c hc
  rcases hRun : m c with ⟨e | _, c'⟩
  · rw [Sql.tryCatch_error hRun]
    rw [hRun] at hMid
    exact hHandler e c' hMid
  · rw [Sql.tryCatch_ok hRun]
    rwa [hRun] at hMid

end Keeps

/-! ## What holds of all a connection can show -/

/-- `P` holds of what is durable and of what is shown. -/
structure Throughout (P : σ → Prop) (c : Conn σ) : Prop where
  durable : P c.durable
  view : P c.view

namespace Throughout

variable {P : σ → Prop} {c : Conn σ}

theorem dropped (h : P c.durable) : Throughout P c.dropped := ⟨h, h⟩

theorem withWork (h : P c.durable) {work : σ} (hWork : P work) : Throughout P (c.withWork work) :=
  ⟨by rwa [Conn.durable_withWork], by rwa [Conn.view_withWork]⟩

theorem failed (h : Throughout P c) (e : Failure) : Throughout P (c.failed e) := by
  unfold Conn.failed
  split
  · exact dropped h.durable
  · exact h

theorem committed {work : σ} (h : P work) : Throughout P ⟨work, none⟩ := ⟨h, h⟩

theorem keeps_query (fault : Option Failure) (g : σ → α) :
    Keeps (Throughout P) (query fault g) := by
  intro c h
  cases fault with
  | none => exact h
  | some e => exact h.failed e

theorem keeps_exec (fault : Option Failure) {g : σ → α × σ} (hStep : ∀ s, P s → P (g s).2) :
    Keeps (Throughout P) (exec fault g) := by
  intro c h
  cases fault with
  | none => exact withWork h.durable (hStep _ h.view)
  | some e => exact (withWork h.durable h.view).failed e

theorem keeps_commit (fault : Option Failure) : Keeps (Throughout P) (commit fault) := by
  intro c h
  obtain ⟨durable, transaction⟩ := c
  cases transaction with
  | none => exact h
  | some t =>
    cases fault with
    | none => exact committed h.view
    | some e => exact h.failed e

end Throughout

end SqlTransaction
