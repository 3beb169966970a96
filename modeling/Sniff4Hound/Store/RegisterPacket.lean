import Mathlib.Algebra.Order.Ring.Unbundled.Rat
import Sniff4Hound.Library.AutoTable
import Sniff4Hound.Library.SqlTransaction
import Sniff4Hound.Text.Value

/-!
# Writing a packet

`register_packet` writes a packet to five tables: its session, when there is none, the packet
row, its flow, its tags and its payload, and last the counters of the session. Every
statement of it may fail. Alone it commits for itself and tries again what failed with one
of the errors a fresh connection may cure; in a batch it writes between a savepoint and its
release, and `register_packets` commits for all packets. What of a packet the rows only copy
stands in them as the packet `κ` they were last written for.
-/

namespace Sniff4Hound.Store

open SqlTransaction

/-! ## The tables -/

structure SessionRow where
  packets_seen : Nat
  bytes_seen : Int
  rules_seen : Nat
  progress : Rat
deriving DecidableEq

structure PacketRow (κ : Type) where
  session_id : Nat
  flow_key : String
  payload_hex : String
  raw_packet : Option (List UInt8)
  packet : κ
deriving DecidableEq

structure FlowRow (κ : Type) where
  packet_count : Nat
  byte_count : Int
  state : String
  scan_state : String
  banner_text : String
  tags_json : String
  first : κ
  packet : κ
deriving DecidableEq

structure TagRow (κ : Type) where
  packet_id : Nat
  flow_key : String
  key : String
  value : String
  severity : String
  packet : κ
deriving DecidableEq

structure PayloadRow (κ : Type) where
  packet_id : Nat
  flow_key : String
  response_plain : String
  response_size : Nat
  packet : κ
deriving DecidableEq

structure Db (κ : Type) where
  sessions : AutoTable SessionRow
  packets : AutoTable (PacketRow κ)
  flows : Dict String (FlowRow κ)
  tags : AutoTable (TagRow κ)
  payloads : AutoTable (PayloadRow κ)
  runtime_config : Dict String String

def Db.empty {κ : Type} : Db κ := ⟨.empty, .empty, [], .empty, .empty, []⟩

structure PacketTag where
  key : String
  value : String
  severity : String
deriving DecidableEq

/-- What `register_packet` makes of a packet before it takes the lock. -/
structure PacketWrite (κ : Type) where
  session_id : Nat
  flow_key : String
  length : Int
  payload_len : Int
  payload_hex : String
  raw_packet : Option (List UInt8)
  state : String
  scan_state : String
  tags_json : String
  tags : List PacketTag
  banner_text : String
  payload_text : String
  rule_hits : Nat
  packet : κ

variable {κ : Type}

namespace PacketWrite

def retain (w : PacketWrite κ) (enabled : Bool) : PacketWrite κ :=
  if enabled then w else { w with payload_hex := "", raw_packet := none }

def row (w : PacketWrite κ) (session_id : Nat) : PacketRow κ :=
  ⟨session_id, w.flow_key, w.payload_hex, w.raw_packet, w.packet⟩

def tagRow (w : PacketWrite κ) (packet_id : Nat) (tag : PacketTag) : TagRow κ :=
  ⟨packet_id, w.flow_key, tag.key, tag.value, tag.severity, w.packet⟩

def response_plain (w : PacketWrite κ) : String :=
  if w.banner_text ≠ "" then w.banner_text else w.payload_text

def hasPayload (w : PacketWrite κ) : Bool := w.payload_text ≠ "" || w.banner_text ≠ ""

def payloadRow (w : PacketWrite κ) (packet_id : Nat) : PayloadRow κ :=
  ⟨packet_id, w.flow_key, w.response_plain, w.response_plain.utf8ByteSize, w.packet⟩

/-- `length or payload_len` -/
def counted (w : PacketWrite κ) : Int := if w.length ≠ 0 then w.length else w.payload_len

def newFlow (w : PacketWrite κ) : FlowRow κ :=
  ⟨1, w.length, w.state, w.scan_state, w.banner_text, w.tags_json, w.packet, w.packet⟩

def onFlow (w : PacketWrite κ) (flow : FlowRow κ) : FlowRow κ :=
  { flow with
    packet_count := flow.packet_count + 1
    byte_count := flow.byte_count + w.length
    state := w.state
    scan_state := w.scan_state
    banner_text := if w.banner_text ≠ "" then w.banner_text else flow.banner_text
    tags_json := w.tags_json
    packet := w.packet }

end PacketWrite

namespace Db

def insertSession (db : Db κ) : Nat × Db κ :=
  let (id, sessions) := db.sessions.insert ⟨0, 0, 0, 0⟩
  (id, { db with sessions := sessions })

def insertPacket (w : PacketWrite κ) (session_id : Nat) (db : Db κ) : Nat × Db κ :=
  let (id, packets) := db.packets.insert (w.row session_id)
  (id, { db with packets := packets })

def upsertFlow (w : PacketWrite κ) (db : Db κ) : Db κ :=
  match db.flows.lookup w.flow_key with
  | none => { db with flows := db.flows.set w.flow_key w.newFlow }
  | some flow => { db with flows := db.flows.set w.flow_key (w.onFlow flow) }

def insertTag (w : PacketWrite κ) (packet_id : Nat) (tag : PacketTag) (db : Db κ) : Db κ :=
  { db with tags := (db.tags.insert (w.tagRow packet_id tag)).2 }

def insertPayload (w : PacketWrite κ) (packet_id : Nat) (db : Db κ) : Db κ :=
  { db with payloads := (db.payloads.insert (w.payloadRow packet_id)).2 }

def bumpSession (session_id : Nat) (packet_length : Int) (rule_count : Nat) (db : Db κ) : Db κ :=
  { db with sessions := db.sessions.update session_id fun row =>
      { packets_seen := row.packets_seen + 1
        bytes_seen := row.bytes_seen + packet_length
        rules_seen := row.rules_seen + rule_count
        progress := min 100 (row.progress + 1 / 4) } }

end Db

/-! ## Failures -/

/-- The statements of one packet, of `_ensure_session` those of its call for the counters too. -/
inductive Site
  | rawRetention
  | savepoint
  | findSession (bump : Bool)
  | insertSession (bump : Bool)
  | commitSession (bump : Bool)
  | insertPacket
  | upsertFlow
  | insertTag (i : Nat)
  | insertPayload
  | updateSession
  | commitCounters
  | commitRows
  | readPacket
  | readRetention
  | release
  | recover
deriving DecidableEq

/-- A statement is sent once, and once more when the connection was recovered; reopening the
connection and fetching the row have failures of their own. -/
inductive Try
  | first
  | reopen
  | second
  | fetch
deriving DecidableEq

abbrev Plan : Type := Site → Try → Option Failure

def RECOVERABLE_ERRORS : List String :=
  ["database is locked", "database is busy", "cannot commit", "closed database",
    "another row available"]

def recoverable (e : Failure) : Bool := RECOVERABLE_ERRORS.any (contains e.message)

/-! ## The connection -/

variable {σ α : Type}

def recover_connection (reopen : Option Failure) : Sql σ Unit := fun c =>
  match reopen with
  | none => (.ok (), c.dropped)
  | some e => (.error e, c.dropped)

def maybe_commit (batch : Bool) (fault : Option Failure) : Sql σ Unit :=
  if batch then pure () else commit fault

def execute_timed (batch : Bool) (reopen : Option Failure) (attempt : Try → Sql σ α) : Sql σ α :=
  tryCatch (attempt .first) fun e =>
    if recoverable e = false then throw e
    else if batch then throw e
    else do
      recover_connection reopen
      attempt .second

def fetchone (batch : Bool) (f : Try → Option Failure) (g : σ → α) : Sql σ α := do
  let row ← execute_timed batch (f .reopen) fun t => query (f t) g
  query (f .fetch) fun _ => row

/-! ## The write of a packet -/

structure StoreEnv where
  STORE_RAW_PACKET_BYTES : Bool

def raw_retention (env : StoreEnv) (db : Db κ) : Bool :=
  let stored := (db.runtime_config.lookup "raw_retention_enabled").getD ""
  if stored = "" then env.STORE_RAW_PACKET_BYTES else stored = "1"

def get_raw_retention_enabled (env : StoreEnv) (batch : Bool) (f : Try → Option Failure) :
    Sql (Db κ) Bool :=
  fetchone batch f (raw_retention env)

def insert_session (batch bump : Bool) (f : Plan) : Sql (Db κ) Nat :=
  execute_timed batch (f (.insertSession bump) .reopen) fun t => do
    let session_id ← exec (f (.insertSession bump) t) Db.insertSession
    maybe_commit batch (f (.commitSession bump) t)
    pure session_id

def find_session (batch bump : Bool) (f : Plan) (session_id : Nat) : Sql (Db κ) Bool :=
  if session_id = 0 then pure false
  else fetchone batch (f (.findSession bump)) fun db => db.sessions.has session_id

def ensure_session (batch bump : Bool) (f : Plan) (session_id : Nat) : Sql (Db κ) Nat := do
  let found ← find_session batch bump f session_id
  if found then pure session_id else insert_session batch bump f

def upsert_flow (f : Plan) (w : PacketWrite κ) : Sql (Db κ) Unit :=
  exec (f .upsertFlow .first) fun db => ((), db.upsertFlow w)

def insert_tag_row (f : Plan) (w : PacketWrite κ) (packet_id i : Nat) (tag : PacketTag) :
    Sql (Db κ) Unit :=
  if tag.key = "" then pure ()
  else exec (f (.insertTag i) .first) fun db => ((), db.insertTag w packet_id tag)

def insert_tag_rows (f : Plan) (w : PacketWrite κ) (packet_id : Nat) :
    Nat → List PacketTag → Sql (Db κ) Unit
  | _, [] => pure ()
  | i, tag :: tags => do
    insert_tag_row f w packet_id i tag
    insert_tag_rows f w packet_id (i + 1) tags

def insert_payload_row (f : Plan) (w : PacketWrite κ) (packet_id : Nat) : Sql (Db κ) Unit :=
  if w.hasPayload then exec (f .insertPayload .first) fun db => ((), db.insertPayload w packet_id)
  else pure ()

def bump_session_counters (batch : Bool) (f : Plan) (session_id : Nat) (packet_length : Int)
    (rule_count : Nat) : Sql (Db κ) Unit := do
  let session_id ← ensure_session batch true f session_id
  exec (f .updateSession .first) fun db => ((), db.bumpSession session_id packet_length rule_count)
  maybe_commit batch (f .commitCounters .first)

def sanitize (raw_retention_enabled : Bool) (row : PacketRow κ) : PacketRow κ :=
  if raw_retention_enabled then row else { row with payload_hex := "", raw_packet := none }

def get_packet (env : StoreEnv) (batch : Bool) (f : Plan) (packet_id : Nat) :
    Sql (Db κ) (Option (PacketRow κ)) := do
  let row ← fetchone batch (f .readPacket) fun db => db.packets.lookup packet_id
  let enabled ← get_raw_retention_enabled env batch (f .readRetention)
  pure (row.map (sanitize enabled))

def write_packet_rows (env : StoreEnv) (batch : Bool) (f : Plan) (w : PacketWrite κ) :
    Sql (Db κ) (Option (PacketRow κ)) := do
  let session_id ← ensure_session batch false f w.session_id
  let packet_id ← exec (f .insertPacket .first) (Db.insertPacket w session_id)
  upsert_flow f w
  insert_tag_rows f w packet_id 0 w.tags
  insert_payload_row f w packet_id
  bump_session_counters batch f session_id w.counted w.rule_hits
  maybe_commit batch (f .commitRows .first)
  get_packet env batch f packet_id

def write_saved (env : StoreEnv) (f : Plan) (w : PacketWrite κ) :
    Sql (Db κ) (Option (PacketRow κ)) := do
  savepoint (f .savepoint .first)
  let result ← tryCatch (write_packet_rows env true f w) fun e => do
    rollback_to
    release (f .release .first)
    throw e
  release (f .release .first)
  pure result

/-- Outside of a batch; `f true` are the failures of the second attempt. -/
def write_retried (env : StoreEnv) (f : Bool → Plan) (w : PacketWrite κ) :
    Sql (Db κ) (Option (PacketRow κ)) :=
  tryCatch (write_packet_rows env false (f false) w) fun e =>
    if recoverable e = false then throw e
    else do
      recover_connection (f false .recover .reopen)
      write_packet_rows env false (f true) w

/-- `allow_raw_retention and self.get_raw_retention_enabled()` -/
def raw_enabled (env : StoreEnv) (batch : Bool) (f : Plan) (allow_raw_retention : Bool) :
    Sql (Db κ) Bool :=
  if allow_raw_retention then get_raw_retention_enabled env batch (f .rawRetention)
  else pure false

def register_packet (env : StoreEnv) (batch : Bool) (f : Bool → Plan) (w : PacketWrite κ)
    (allow_raw_retention : Bool) : Sql (Db κ) (Option (PacketRow κ)) := do
  let enabled ← raw_enabled env batch (f false) allow_raw_retention
  if batch then write_saved env (f false) (w.retain enabled)
  else write_retried env f (w.retain enabled)

/-! ## A batch -/

structure BatchItem (κ : Type) where
  write : PacketWrite κ
  allow_raw : Bool
  faults : Plan

abbrev PacketOutcome (κ : Type) : Type := Except Failure (Option (PacketRow κ))

def register_item (env : StoreEnv) (item : BatchItem κ) : Sql (Db κ) (PacketOutcome κ) :=
  tryCatch (do
      let row ← register_packet env true (fun _ => item.faults) item.write item.allow_raw
      pure (Except.ok row))
    fun e => pure (Except.error e)

def register_each (env : StoreEnv) : List (BatchItem κ) → Sql (Db κ) (List (PacketOutcome κ))
  | [] => pure []
  | item :: items => do
    let outcome ← register_item env item
    let outcomes ← register_each env items
    pure (outcome :: outcomes)

def write_batch (begins commits : Option Failure) (block : Sql σ α) : Sql σ α := do
  begin_immediate begins
  tryCatch (do
      let result ← block
      commit commits
      pure result)
    fun e => do
      rollback
      throw e

def register_packets (env : StoreEnv) (begins commits : Option Failure)
    (items : List (BatchItem κ)) : Sql (Db κ) (List (PacketOutcome κ)) :=
  write_batch begins commits (register_each env items)

end Sniff4Hound.Store
