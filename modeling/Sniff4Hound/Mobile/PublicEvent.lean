import Sniff4Hound.Capture.Ciphertext
import Sniff4Hound.Capture.SummaryLine

/-!
# What paired phones are shown of a packet

`_public_event` of `mobile_stream.py` leaves the values of tags out, since they may be slices of a
payload, and forwards the summary, which may be the payload's text (`payload_on_phone`). Of two
packets that differ in their payloads, the events are the same just when the first 180 characters of
their lines are (`same_event_iff`).
-/

namespace Sniff4Hound.Mobile

/-! ## The event -/

structure PublicTag where
  key : String
  severity : String
deriving DecidableEq

inductive PublicEvent
  | packet (generated_at source src_ip dst_ip : String) (src_port dst_port : Int) (proto : String)
      (length : Int) (summary : String) (tags : List PublicTag) (persisted : Bool)
  | stats_update (generated_at : String) (packets_seen packets_stored packets_total_bytes : Int)
      (mode : String)
  | runtime_mode (generated_at : String) (running_engines : List Value) (mode : String)
  | progress (event_type generated_at status message : String)

/-- What is broadcast: the entries of the payload but the packet, and the packet if it is a
dictionary. -/
structure Broadcast where
  fields : List (String × Value)
  packet : Option Packet

def publicTags (rt : Runtime) (tags : List Value) : List PublicTag :=
  (tags.take 8).filterMap fun tag =>
    match tag with
    | .dict entries => some
        { key := slice ((Value.get entries "key").text rt) 80
          severity := slice ((Value.get entries "severity").text rt) 40 }
    | _ => none

def packetEvent (rt : Runtime) (generated_at : String) (persisted : Bool) (packet : Packet) :
    PublicEvent :=
  let tags := match packet "tags" with
    | .list items => items
    | _ => []
  .packet generated_at
    (if startswith ((packet "interface").text rt) "honeypot:" then "honeypot" else "sniffer")
    ((packet "src_ip").text rt) ((packet "dst_ip").text rt) ((packet "src_port").safe_int rt 0)
    ((packet "dst_port").safe_int rt 0) (rt.lower ((packet "proto").text rt))
    (((packet "length").orElse (packet "payload_len")).safe_int rt 0)
    (slice ((packet "summary").text rt) 180) (publicTags rt tags) persisted

/-- `list(value or [])`. -/
def listOrEmpty (value : Value) : Except String (List Value) :=
  match value.orElse (.list []) with
  | .list items => .ok items
  | .dict entries => .ok (entries.map fun entry => .str entry.1)
  | .str text => .ok (text.toList.map fun c => .str (String.ofList [c]))
  | _ => .error "object is not iterable"

/-- `_public_event`; `now` is the time of the call. -/
def public_event (rt : Runtime) (now : String) (payload : Broadcast) :
    Except String (Option PublicEvent) :=
  let event_type := strip ((Value.get payload.fields "type").text rt)
  let generated_at := ((Value.get payload.fields "generated_at").orElse (.str now)).toText rt
  if event_type = "packet" then
    let persisted := if Value.has payload.fields "persisted" then
      (Value.get payload.fields "persisted").truthy else true
    .ok (some (packetEvent rt generated_at persisted (payload.packet.getD fun _ => .null)))
  else if event_type = "stats_update" then
    let stats := Value.entriesOf (Value.get payload.fields "stats")
    .ok (some (.stats_update generated_at ((Value.get stats "packets_seen").safe_int rt 0)
      ((Value.get stats "packets_stored").safe_int rt 0)
      ((Value.get stats "packets_total_bytes").safe_int rt 0) ((Value.get stats "mode").text rt)))
  else if event_type = "runtime_mode" then do
    let runtime := Value.entriesOf (Value.get payload.fields "runtime")
    let running_engines ← listOrEmpty (Value.get runtime "running_engines")
    pure (some (.runtime_mode generated_at (running_engines.take 4)
      ((Value.get runtime "mode").text rt)))
  else if event_type = "data_clear_progress" ∨ event_type = "job_update" then
    .ok (some (.progress event_type generated_at ((Value.get payload.fields "status").text rt)
      (slice ((Value.get payload.fields "message").text rt) 180)))
  else .ok none

/-- The event of a parsed packet with its tags, as `_broadcast_packet` sends it. -/
def broadcastPacket (c : Capture) (tags : List (List (String × Value))) (persisted : Bool)
    (generated_at : String) : Broadcast where
  fields := [("type", .str "packet"), ("persisted", .bool persisted),
    ("generated_at", .str generated_at)]
  packet := some (c.set "tags" (.list (tags.map .dict))).packet

/-- The tags name the same monitors with the same severities. -/
def SameMonitors (tags tags' : List (List (String × Value))) : Prop :=
  List.Forall₂ (fun tag tag' => ∀ key ∈ ["key", "severity"],
    Value.get tag' key = Value.get tag key) tags tags'

/-! ## Two packets -/

theorem publicTags_same (rt : Runtime) {tags tags' : List (List (String × Value))}
    (h : SameMonitors tags tags') :
    publicTags rt (tags'.map .dict) = publicTags rt (tags.map .dict) := by
  have hTake : SameMonitors (tags.take 8) (tags'.take 8) := List.forall₂_take 8 h
  rw [publicTags, publicTags, ← List.map_take, ← List.map_take, List.filterMap_map,
    List.filterMap_map]
  generalize tags.take 8 = shown at hTake
  generalize tags'.take 8 = shown' at hTake
  induction hTake with
  | nil => rfl
  | cons hTag _ ih =>
    rw [List.filterMap_cons, List.filterMap_cons, ih]
    dsimp only [Function.comp]
    rw [hTag "key" (by decide), hTag "severity" (by decide)]

theorem public_event_packet (rt : Runtime) (c : Capture) (tags : List (List (String × Value)))
    (persisted : Bool) (generated_at now : String) :
    public_event rt now (broadcastPacket c tags persisted generated_at) =
      .ok (some (packetEvent rt (((Value.str generated_at).orElse (.str now)).toText rt) persisted
        (c.set "tags" (.list (tags.map .dict))).packet)) := by
  have hType : strip ((Value.get (broadcastPacket c tags persisted generated_at).fields
      "type").text rt) = "packet" := by
    have hValue : Value.get (broadcastPacket c tags persisted generated_at).fields "type" =
        .str "packet" := rfl
    rw [hValue, text_str]
    decide
  rw [public_event, hType]
  rfl

theorem packet_event_iff (rt : Runtime) {c c' : Capture} {tags tags' : List (List (String × Value))}
    (hFrame : Agree FRAME_KEYS c c') (hSized : (c.packet "length").truthy = true)
    (hTags : SameMonitors tags tags') (persisted : Bool) (generated_at now : String) :
    public_event rt now (broadcastPacket c' tags' persisted generated_at) =
        public_event rt now (broadcastPacket c tags persisted generated_at) ↔
      slice ((c'.packet "summary").text rt) 180 = slice ((c.packet "summary").text rt) 180 := by
  have hKey : ∀ k ∈ FRAME_KEYS, c'.packet k = c.packet k := hFrame
  have hLength : ∀ other, (c.packet "length").orElse other = c.packet "length" :=
    fun other => if_pos hSized
  have hOther : ∀ (c : Capture) (tags : List (List (String × Value))) k, k ≠ "tags" →
      (c.set "tags" (.list (tags.map .dict))).packet k = c.packet k :=
    fun c tags k hk => set_packet_other _ _ hk
  rw [public_event_packet, public_event_packet, packetEvent, packetEvent]
  simp only [hOther _ _ "interface" (by decide), hOther _ _ "src_ip" (by decide),
    hOther _ _ "dst_ip" (by decide), hOther _ _ "src_port" (by decide),
    hOther _ _ "dst_port" (by decide), hOther _ _ "proto" (by decide),
    hOther _ _ "length" (by decide), hOther _ _ "payload_len" (by decide),
    hOther _ _ "summary" (by decide), set_packet_same, hKey "interface" (by decide),
    hKey "src_ip" (by decide), hKey "dst_ip" (by decide), hKey "src_port" (by decide),
    hKey "dst_port" (by decide), hKey "proto" (by decide), hKey "length" (by decide), hLength,
    publicTags_same rt hTags, Except.ok.injEq, Option.some.injEq, PublicEvent.packet.injEq,
    true_and, and_true]

/-! ## Two shots with the same headers -/

section Twins

variable {a b : Shot} (sn : Sniffer) (flows flows' : List String)

theorem base_packet (carrier : Carrier) (now interface : String) :
    (carrier.base flows' now interface).packet = (carrier.base flows now interface).packet := by
  cases carrier with
  | plain frame => cases frame <;> rfl
  | snap frame => rfl

theorem base_length (carrier : Carrier) (now interface : String) :
    (carrier.base flows now interface).packet "length" = .int carrier.bytes.length := by
  cases carrier with
  | plain frame => cases frame <;> rfl
  | snap frame => rfl

theorem headers_agree {keys : List String} {c c' : Capture} (network : NetworkHeader)
    (h : Agree keys c c') : Agree keys (network.fields c) (network.fields c') := by
  cases network with
  | ipv4 header =>
    exact (((h.set_both _ _).set_both _ _).set_both _ _).set_both _ _
  | ipv6 header extensions =>
    exact (((h.set_both _ _).set_both _ _).set_both _ _).set_both _ _

theorem sameLink_length {a b : Carrier} (h : a.SameLink b)
    (hPacket : b.packet.length = a.packet.length) : b.bytes.length = a.bytes.length := by
  cases h with
  | @ethernet a b dst src tags kind =>
    have hBody : b.body.length = a.body.length := hPacket
    have hTags : b.tags.length = a.tags.length := congrArg List.length tags
    refine b.length_bytes.trans ?_
    rw [hTags, hBody]
    exact a.length_bytes.symm
  | bare4 ha hb => exact hPacket
  | bare6 ha hb => exact hPacket
  | @snap a b dst src tags declared oui kind =>
    have hBody : b.body.length = a.body.length := hPacket
    refine (SnapFrame.length_bytes b).trans ?_
    rw [tags, SnapFrame.length_llc, hBody, ← SnapFrame.length_llc, ← SnapFrame.length_bytes]
    rfl

theorem sameHeaders_length (h : SameHeaders a b) :
    b.carrier.bytes.length = a.carrier.bytes.length := by
  refine sameLink_length h.link ?_
  rw [a.packet_eq, b.packet_eq, h.envelope, Envelope.packet, Envelope.packet, List.length_append,
    List.length_append, List.length_append, List.length_append, Envelope.length_body,
    Envelope.length_body, h.length]

theorem networkFields_agree (h : SameHeaders a b) :
    Agree FRAME_KEYS (a.networkFields flows) (b.networkFields flows') := by
  rw [Shot.networkFields, Shot.networkFields, h.envelope]
  refine headers_agree a.envelope.network ?_
  intro k hk
  rw [base_packet flows flows', h.interface]
  by_cases hLength : k = "length"
  · subst hLength
    rw [base_length, base_length, sameHeaders_length h]
  · refine (h.link.alike flows a.now b.now a.interface).packet k fun hMem => ?_
    revert hk hMem hLength
    revert k
    decide

theorem twins_agree (h : SameHeaders a b)
    (hProto : b.proto sn.toRuntime = a.proto sn.toRuntime) :
    Agree FRAME_KEYS (a.headers sn flows) (b.headers sn flows') := by
  have hFields := networkFields_agree flows flows' h
  rw [Shot.headers, Shot.headers, hProto, Shot.transportFields, Shot.transportFields, h.envelope]
  refine Agree.set_both ?_ _ _
  cases a.envelope.segment with
  | tcp header =>
    exact (((hFields.set_both _ _).set_both _ _).set_both _ _).set_both _ _
  | udp header rest => exact ((hFields.set_both _ _).set_both _ _).set_both _ _

end Twins

theorem base_ne_empty {s : Shot} {sn : Sniffer} {flows : List String} {c : Capture}
    (hParsed : sn.parse_packet flows s.captured = some c) : s.carrier.bytes ≠ [] := by
  intro hEmpty
  rw [Sniffer.parse_packet, Shot.captured] at hParsed
  dsimp only at hParsed
  rw [if_pos hEmpty] at hParsed
  cases hParsed

theorem headers_length (s : Shot) (sn : Sniffer) (flows : List String) :
    (s.headers sn flows).packet "length" = .int s.carrier.bytes.length := by
  have hNetwork : ∀ c, (s.envelope.network.fields c).packet "length" = c.packet "length" := by
    intro c
    cases s.envelope.network <;> rfl
  have hTransport : (s.transportFields flows).packet "length" =
      (s.networkFields flows).packet "length" := by
    rw [Shot.transportFields]
    cases s.envelope.segment <;> rfl
  rw [Shot.headers, set_packet_other _ _ (by decide), hTransport, Shot.networkFields, hNetwork,
    base_length]

/-- Of two segments with the same headers, of one protocol and with tags of the same monitors, the
events are the same just when the first 180 characters of the lines are that their payloads leave
in the summaries. -/
theorem same_event_iff (sn : Sniffer) (flows flows' : List String) (a b : Shot)
    (hHeaders : SameHeaders a b) (hRead : ¬a.carrier.Misread) (hRead' : ¬b.carrier.Misread)
    (c c' : Capture) (hParsed : sn.parse_packet flows a.captured = some c)
    (hParsed' : sn.parse_packet flows' b.captured = some c')
    (hProto : c'.packet "proto" = c.packet "proto") (tags tags' : List (List (String × Value)))
    (hTags : SameMonitors tags tags') (persisted : Bool) (generated_at now : String) :
    public_event sn.toRuntime now (broadcastPacket c' tags' persisted generated_at) =
        public_event sn.toRuntime now (broadcastPacket c tags persisted generated_at) ↔
      slice ((b.line sn flows').text sn.toRuntime) 180 =
        slice ((a.line sn flows).text sn.toRuntime) 180 := by
  obtain ⟨found, hFound, hKept, hLine⟩ := a.parsed_line sn flows hRead
  obtain ⟨found', hFound', hKept', hLine'⟩ := b.parsed_line sn flows' hRead'
  cases hParsed.symm.trans hFound
  cases hParsed'.symm.trans hFound'
  have hName : ∀ (s : Shot) flows, (s.headers sn flows).packet "proto" =
      .str (s.proto sn.toRuntime) := fun s flows => set_packet_same _ _ _
  have hSameProto : b.proto sn.toRuntime = a.proto sn.toRuntime := by
    rw [hKept "proto" (by decide), hKept' "proto" (by decide), hName, hName] at hProto
    exact Value.str.inj hProto
  have hFrame : Agree FRAME_KEYS c c' := by
    intro k hk
    rw [hKept' k hk, hKept k hk]
    exact twins_agree sn flows flows' hHeaders hSameProto k hk
  have hSized : (c.packet "length").truthy = true := by
    rw [hKept "length" (by decide), headers_length]
    exact bne_iff_ne.mpr (Int.natCast_ne_zero.mpr
      (List.length_eq_zero_iff.not.mpr (base_ne_empty hParsed)))
  rw [packet_event_iff sn.toRuntime hFrame hSized hTags, hLine, hLine']

theorem line_of_text {s : Shot} {sn : Sniffer} {flows : List String} {text : String}
    (hPlain : s.envelope.authentication = none)
    (hLine : s.segmentLine sn flows = .str text) (hText : text ≠ "") :
    s.line sn flows = .str text := by
  rw [Shot.line, hPlain, hLine]
  exact if_pos (bne_iff_ne.mpr hText)

theorem line_letters : (letterShot 0x41).line Sniffer.ascii [] =
      .str (String.ofList (List.replicate 20 'A')) ∧
    (letterShot 0x42).line Sniffer.ascii [] = .str (String.ofList (List.replicate 20 'B')) :=
  ⟨line_of_text rfl rfl (by decide), line_of_text rfl rfl (by decide)⟩

theorem line_binary : binaryShot.line Sniffer.ascii [] = .str "cmd" :=
  line_of_text rfl rfl (by decide)

theorem line_zeros : (letterShot 0).line Sniffer.ascii [] =
    .str "TCP 10.0.0.1:40000 → 10.0.0.2:9999" :=
  line_of_text rfl rfl (by decide)

theorem headers_proto (s : Shot) (sn : Sniffer) (flows : List String) :
    (s.headers sn flows).packet "proto" = .str (s.proto sn.toRuntime) := set_packet_same _ _ _

theorem proto_letters : (letterShot 0x41).proto Runtime.ascii = "tcp" ∧
    (letterShot 0x42).proto Runtime.ascii = "tcp" := ⟨rfl, rfl⟩

theorem proto_binary : binaryShot.proto Runtime.ascii = "tcp" ∧
    (letterShot 0).proto Runtime.ascii = "tcp" := ⟨rfl, rfl⟩

/-- The three letters of a binary payload tell its event from that of zeros. -/
theorem same_event_binary : ∃ c c', Sniffer.ascii.parse_packet [] binaryShot.captured = some c ∧
    Sniffer.ascii.parse_packet [] (letterShot 0).captured = some c' ∧
      public_event Sniffer.ascii.toRuntime "" (broadcastPacket c' [] true "") ≠
        public_event Sniffer.ascii.toRuntime "" (broadcastPacket c [] true "") := by
  have hRead := opaqueShot_read ([0x63, 0x6D, 0x64] ++ List.replicate 17 0) (by decide)
  have hRead' := opaqueShot_read (List.replicate 20 0) List.length_replicate
  obtain ⟨c, hParsed, hKept, -⟩ := binaryShot.parsed_line Sniffer.ascii [] hRead
  obtain ⟨c', hParsed', hKept', -⟩ := (letterShot 0).parsed_line Sniffer.ascii [] hRead'
  have hProto : c'.packet "proto" = c.packet "proto" := by
    rw [hKept "proto" (by decide), hKept' "proto" (by decide), headers_proto, headers_proto]
    exact congrArg Value.str (proto_binary.2.trans proto_binary.1.symm)
  refine ⟨c, c', hParsed, hParsed', ?_⟩
  rw [Ne, same_event_iff Sniffer.ascii [] [] binaryShot (letterShot 0) (opaqueShot_headers _ _)
    hRead hRead' c c' hParsed hParsed' hProto [] [] List.Forall₂.nil, line_binary, line_zeros,
    text_str, text_str]
  decide +kernel

/-- Twenty letters go out as they were captured. -/
theorem payload_on_phone : ¬∀ (sn : Sniffer) (flows flows' : List String) (a b : Shot),
    SameHeaders a b → ∀ c c', sn.parse_packet flows a.captured = some c →
      sn.parse_packet flows' b.captured = some c' → c'.packet "proto" = c.packet "proto" →
      ∀ tags tags', SameMonitors tags tags' → ∀ persisted generated_at now,
        public_event sn.toRuntime now (broadcastPacket c' tags' persisted generated_at) =
          public_event sn.toRuntime now (broadcastPacket c tags persisted generated_at) := by
  intro hAll
  obtain ⟨c, hParsed, hKept, hLine⟩ := (letterShot 0x41).parsed_line Sniffer.ascii []
    (opaqueShot_read _ List.length_replicate)
  obtain ⟨c', hParsed', hKept', hLine'⟩ := (letterShot 0x42).parsed_line Sniffer.ascii []
    (opaqueShot_read _ List.length_replicate)
  have hProto : c'.packet "proto" = c.packet "proto" := by
    rw [hKept "proto" (by decide), hKept' "proto" (by decide), headers_proto, headers_proto]
    exact congrArg Value.str (proto_letters.2.trans proto_letters.1.symm)
  have hSame := hAll Sniffer.ascii [] [] (letterShot 0x41) (letterShot 0x42)
    (opaqueShot_headers _ _) c c' hParsed hParsed' hProto [] [] List.Forall₂.nil true "" ""
  rw [public_event_packet, public_event_packet, packetEvent, packetEvent] at hSame
  simp only [Except.ok.injEq, Option.some.injEq, PublicEvent.packet.injEq] at hSame
  obtain ⟨-, -, -, -, -, -, -, -, hSummary, -⟩ := hSame
  rw [set_packet_other _ _ (by decide), set_packet_other _ _ (by decide), hLine, hLine', line_letters.1,
    line_letters.2, text_str, text_str, slice, slice, String.toList_ofList, String.toList_ofList]
    at hSummary
  exact absurd (String.ofList_injective hSummary) (by decide)

end Sniff4Hound.Mobile
