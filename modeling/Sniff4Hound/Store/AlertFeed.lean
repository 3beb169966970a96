import Sniff4Hound.Library.MarkedRuns
import Sniff4Hound.Realtime.RealtimeChannel
import Sniff4Hound.Store.Retention

/-!
# The two readers of the tags

The hits of a packet are stored as a flat list of tags: each hit that was not silenced writes a
`monitor` tag and behind it the tags that go with it. Two readers put the hits together again.
`list_recent_alerts` looks in the tags table, between the row of a `monitor` tag and the next such
row of the packet. The frontend walks along the list of the tags and keeps the hit it is at
(`extractMonitorHitsFromTags` of `appStore.js`).
-/

namespace Sniff4Hound.Store

variable {κ : Type}

/-! ## The feed of the store -/

/-- A row of `list_recent_alerts`; the columns that come from the packet stand in it. -/
structure AlertRow (κ : Type) where
  packet_id : Nat
  packet : κ
  monitor : String
  severity : String
  monitor_id : String
  detail : String
deriving DecidableEq

/-- What the feed is asked for; `packets` are the clauses of `since` and `search`, on columns of the
packet. -/
structure AlertFilter (κ : Type) where
  severity : String
  packets : κ → Bool

/-- `LOWER` of SQL, on ASCII letters alone. -/
def sqlLower (s : String) : String := String.ofList (s.toList.map Char.toLower)

def AlertFilter.wanted (rt : Runtime) (filter : AlertFilter κ) : List String :=
  (nonblank ((filter.severity.toList.splitOn ',').map String.ofList)).map fun item =>
    rt.lower (strip item)

/-- The clauses of `_alert_filter` that are not the same for all rows. -/
def AlertFilter.lets (rt : Runtime) (filter : AlertFilter κ) (severity : String) (packet : κ) :
    Bool :=
  filter.packets packet && wants (filter.wanted rt) (sqlLower severity)

/-- `WHERE` of the feed. -/
def alert_filter (rt : Runtime) (filter : AlertFilter κ) (tag : TagRow κ) (packet : κ) : Bool :=
  tag.key = "monitor" && tag.severity ≠ "" && filter.lets rt tag.severity packet

def isMonitor (tag : TagRow κ) : Bool := tag.key = "monitor"

def Db.tagsOf (db : Db κ) (packet_id : Nat) : List (Nat × TagRow κ) :=
  db.tags.rows.filter fun tag => tag.2.packet_id = packet_id

/-- The first row with the key between a `monitor` row of a packet and the next one. -/
def Db.sibling (db : Db κ) (key : String) (tag : Nat × TagRow κ) : String :=
  let behind := MarkedRuns.window isMonitor (db.tagsOf tag.2.packet_id) tag.1
  ((MarkedRuns.firstById (behind.filter fun row => row.2.key = key)).map fun row =>
    row.2.value).getD ""

def Db.alertRows (rt : Runtime) (filter : AlertFilter κ) (db : Db κ) : List (AlertRow κ) :=
  db.tags.rows.flatMap fun tag =>
    (db.packets.rows.filter fun row => row.1 = tag.2.packet_id &&
        alert_filter rt filter tag.2 row.2.packet).map fun row =>
      { packet_id := row.1
        packet := row.2.packet
        monitor := tag.2.value
        severity := tag.2.severity
        monitor_id := db.sibling "monitor_id" tag
        detail := db.sibling "detail" tag }

/-- `LIMIT ? OFFSET ?`; there is no limit when it is negative. -/
def page {β : Type} (limit offset : Int) (rows : List β) : List β :=
  let rest := rows.drop offset.toNat
  if limit < 0 then rest else rest.take limit.toNat

def list_recent_alerts (rt : Runtime) (limit offset : Int) (filter : AlertFilter κ) (db : Db κ)
    (rows : List (AlertRow κ)) : Prop :=
  ∃ ordered, ordered.Perm (db.alertRows rt filter) ∧
    ordered.Pairwise (fun row row' => row'.packet_id ≤ row.packet_id) ∧
      rows = page limit offset ordered

/-! ## The cursor of the frontend -/

/-- An entry of what `extractMonitorHitsFromTags` returns. -/
structure DetectionHit where
  label : String
  severity : String
  monitorId : String
deriving DecidableEq

/-- `text.trim()` -/
def trimmed (text : String) : String := String.ofList (Realtime.ChannelState.trim text.toList)

/-- `tag.severity || "info"` -/
def givenSeverity (severity : Option String) : String :=
  if severity.getD "" = "" then "info" else severity.getD ""

/-- A tag `monitor`; without a label it ends the hit before it and begins none. -/
def beginHit (toLowerCase : String → String) (tag : Sniff4Hound.PacketTag) : Option DetectionHit :=
  let label := trimmed tag.value
  if label = "" then none
  else some ⟨label, toLowerCase (trimmed (givenSeverity tag.severity)), ""⟩

def extendHit (hit : DetectionHit) (tag : Sniff4Hound.PacketTag) : DetectionHit :=
  if tag.key = "monitor_id" then { hit with monitorId := trimmed tag.value } else hit

def extractMonitorHitsFromTags (toLowerCase : String → String)
    (tags : List Sniff4Hound.PacketTag) : List DetectionHit :=
  MarkedRuns.collect (fun tag => tag.key = "monitor") (beginHit toLowerCase) extendHit tags

/-! ## What changes the tables -/

def REVIEW_LABELS : List String := ["benign", "malicious", "unreviewed"]

def save_packet_review (rt : Runtime) (packet_id : Nat) (label : String) (db : Db κ) :
    Except String (Db κ) :=
  let label := rt.lower (strip label)
  if label ∉ REVIEW_LABELS then .error "Etiqueta de revisión inválida."
  else
    match db.packets.lookup packet_id with
    | none => .error "El paquete ya no está disponible."
    | some row =>
      let tags := db.tags.filter fun tag =>
        !(tag.2.packet_id = packet_id && tag.2.key = "review_label")
      .ok { db with
        tags := if label = "unreviewed" then tags else
          (tags.insert ⟨packet_id, row.flow_key, "review_label", label, "", row.packet⟩).2 }

/-- What changes the tables of the feed. -/
inductive FeedStep (κ : Type)
  | register (w : PacketWrite κ)
  | review (packet_id : Nat) (label : String)
  | delete (packets : Nat → Bool) (tags : Nat × TagRow κ → Bool)

def Db.feed (rt : Runtime) (db : Db κ) : FeedStep κ → Db κ
  | .register w => db.land w
  | .review packet_id label => (save_packet_review rt packet_id label db).toOption.getD db
  | .delete packets tags => { db with
      packets := db.packets.filter fun row => packets row.1
      tags := db.tags.filter tags }

end Sniff4Hound.Store
