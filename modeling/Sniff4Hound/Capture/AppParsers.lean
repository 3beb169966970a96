import Sniff4Hound.Capture.Packet

/-!
# Application parsers

The parsers of `sniffer.py` that take over a payload, and the merge of a decoder's fields.
Their exception handlers are left out where nothing before them can raise. Every parser
comes with the statement of what it keeps: the header keys, with its own name under `proto`.
-/

namespace Sniff4Hound

def part (label text : String) : List String := if text = "" then [] else [label ++ text]

/-! ## Decoded fields -/

/-- The loop of `_apply_app_decoder`: empty fields are skipped. -/
def Capture.merge (c : Capture) : Fields → Capture
  | [] => c
  | (_, .str "") :: rest => c.merge rest
  | (_, .null) :: rest => c.merge rest
  | (key, value) :: rest => (c.set key value).merge rest

def apply_app_decoder (c : Capture) (proto : String) (payload : Bytes) : Capture :=
  c.merge (decode_app_payload proto payload)

/-! ## DNS -/

def DNS_QTYPE_TEXT (qtype : Nat) : String :=
  DNS_QTYPE_NAMES.nameOr qtype (if qtype = 0 then "" else toString qtype)

def dnsRecords (parsed : DnsMessage) : Value :=
  .dict
    [("is_response", .bool parsed.is_response),
      ("rcode", .str (DNS_RCODE_NAMES.nameOrNumber parsed.rcode)),
      ("questions", .list (parsed.questions.map fun question => .dict
        [("name", .str question.name), ("type", .str (DNS_QTYPE_TEXT question.qtype))])),
      ("answers", .list (parsed.answers.map fun answer => .dict
        [("name", .str answer.name), ("type", .str (DNS_QTYPE_TEXT answer.qtype)),
          ("ttl", .int answer.ttl), ("data", .str answer.rdata)]))]

def applyQuestion (c : Capture) (source : String) : List DnsQuestion → Capture
  | [] => c
  | question :: _ =>
    ((c.set "domain" (.str question.name)).set "domain_source" (.str source)).set "dns_qtype"
      (.str (DNS_QTYPE_TEXT question.qtype))

def applyAnswer (rt : Runtime) (c : Capture) : List DnsAnswer → Capture
  | [] => c
  | answer :: _ =>
    let value := strip answer.rdata
    if value = "" then c
    else
      let name := strip (((Value.str answer.name).orElse (c.packet "domain")).text rt)
      ((c.set "dns_answer" (.str value)).set "dns_mapping"
        (.str (if name = "" then value else name ++ " -> " ++ value))).set "dns_answer_type"
          (.str (DNS_QTYPE_TEXT answer.qtype))

/-- `_apply_dns_result`; `label` is the name in front of the summary. -/
def apply_dns_result (rt : Runtime) (c : Capture) (payload : Bytes) (label source : String) :
    Capture :=
  let parsed := parse_dns_message rt payload
  let c := applyQuestion c source parsed.questions
  let c := c.set "dns_kind" (.str (if parsed.is_response then "response" else "query"))
  let c := c.set "dns_rcode" (.str (DNS_RCODE_NAMES.nameOrNumber parsed.rcode))
  let c := c.set "dns_records" (dnsRecords parsed)
  let c := applyAnswer rt c parsed.answers
  let summary := dns_message_summary label parsed
  if summary = "" then c
  else (c.summarize summary).orSet "payload_text" (.str summary)

/-! ## DHCP -/

def DHCP_MSG_TYPES : Table :=
  [(1, "DISCOVER"), (2, "OFFER"), (3, "REQUEST"), (4, "DECLINE"), (5, "ACK"), (6, "NAK"),
    (7, "RELEASE"), (8, "INFORM")]

structure DhcpOptions where
  msg_type : Option Nat := none
  requested_ip : String := ""
  hostname : String := ""
  vendor_class : String := ""

def DhcpOptions.note (found : DhcpOptions) (code : Nat) (value : Bytes) : DhcpOptions :=
  if code = 53 ∧ value.length = 1 then { found with msg_type := some (value.byte 0) }
  else if code = 50 ∧ value.length = 4 then { found with requested_ip := ipv4Text value }
  else if code = 12 then { found with hostname := value.asciiReplace }
  else if code = 60 then { found with vendor_class := value.asciiReplace }
  else found

/-- The option loop of `_parse_dhcp`. -/
def dhcpOptions (payload : Bytes) : Nat → Nat → DhcpOptions → DhcpOptions
  | 0, _, found => found
  | fuel + 1, offset, found =>
    if payload.length ≤ offset then found
    else
      let code := payload.byte offset
      if code = 0xFF then found
      else if code = 0x00 then dhcpOptions payload fuel (offset + 1) found
      else if payload.length ≤ offset + 1 then found
      else
        let start := offset + 2
        let stop := start + payload.byte (offset + 1)
        if payload.length < stop then found
        else dhcpOptions payload fuel stop (found.note code (payload.slice start stop))

def DHCP_COOKIE : Bytes := [0x63, 0x82, 0x53, 0x63]

def dhcp_options (payload : Bytes) : Option DhcpOptions :=
  if payload.length < 240 ∨ payload.slice 236 240 ≠ DHCP_COOKIE then none
  else some (dhcpOptions payload payload.length 240 {})

def DhcpOptions.type_name (found : DhcpOptions) : String :=
  match found.msg_type with
  | none => "message"
  | some msg_type => DHCP_MSG_TYPES.nameOr msg_type ("type " ++ toString msg_type)

def DhcpOptions.applyType (found : DhcpOptions) (c : Capture) : Capture :=
  if found.msg_type.isSome then c.set "dhcp_msg_type" (.str found.type_name) else c

def parse_dhcp (c : Capture) (payload : Bytes) : Capture :=
  let c := c.set "proto" (.str "dhcp")
  match dhcp_options payload with
  | none => c.summarize "DHCP/BOOTP packet"
  | some found =>
    let c := found.applyType c
    let c := c.setText "dhcp_hostname" found.hostname
    let c := c.setText "dhcp_requested_ip" found.requested_ip
    let c := c.setText "dhcp_vendor_class" found.vendor_class
    c.describe (join " " (["DHCP " ++ found.type_name] ++ part "host=" found.hostname ++
      part "requested=" found.requested_ip ++ part "vendor=" found.vendor_class))

/-! ## NetBIOS names -/

def parse_nbns (c : Capture) (payload : Bytes) : Capture :=
  let c := c.set "proto" (.str "nbns")
  if payload.length < 12 then c.summarize "NBNS packet"
  else
    let kind := if 0x8000 ≤ payload.num 2 4 then "response" else "query"
    let name := if 1 ≤ payload.num 4 6 ∧ 45 ≤ payload.length ∧ payload.byte 12 = 32 then
      decode_nbns_name (payload.slice 13 45) else ""
    c.describe ("NBNS " ++ kind ++ if name = "" then "" else " for " ++ name)

/-! ## Industrial protocols -/

def MODBUS_FUNCTION_NAMES : Table :=
  [(1, "read-coils"), (2, "read-discrete-inputs"), (3, "read-holding-registers"),
    (4, "read-input-registers"), (5, "write-single-coil"), (6, "write-single-register"),
    (7, "read-exception-status"), (8, "diagnostics"), (11, "get-comm-event-counter"),
    (15, "write-multiple-coils"), (16, "write-multiple-registers"), (17, "report-server-id"),
    (20, "read-file-record"), (21, "write-file-record"), (22, "mask-write-register"),
    (23, "read-write-multiple-registers"), (24, "read-fifo-queue"),
    (43, "encapsulated-interface-transport")]

def MODBUS_WRITE_FUNCTION_CODES : List Nat := [5, 6, 15, 16, 21, 22, 23]

def parse_modbus (c : Capture) (payload : Bytes) : Capture :=
  let c := c.set "proto" (.str "modbus")
  if payload.length < 8 then c.summarize "Modbus packet"
  else
    let unit_id := payload.byte 6
    let base_code := payload.byte 7 % 0x80
    let func_name := MODBUS_FUNCTION_NAMES.nameOrCode "fc" base_code
    let is_write := decide (base_code ∈ MODBUS_WRITE_FUNCTION_CODES)
    let c := c.set "modbus_unit_id" (.int unit_id)
    let c := c.set "modbus_function_code" (.int base_code)
    let c := c.set "modbus_is_write" (.bool is_write)
    let exception_code := if 8 < payload.length then toString (payload.byte 8) else "None"
    c.describe (if 0x80 ≤ payload.byte 7 then
        "Modbus EXCEPTION " ++ func_name ++ " unit=" ++ toString unit_id ++ " code=" ++
          exception_code
      else
        "Modbus " ++ func_name ++ " (" ++ (if is_write then "write" else "read/other") ++
          ") unit=" ++ toString unit_id)

def DNP3_START : Bytes := [0x05, 0x64]

def DNP3_FUNCTION_NAMES : Table :=
  [(0, "confirm"), (1, "read"), (2, "write"), (3, "select"), (4, "operate"),
    (5, "direct-operate"), (6, "direct-operate-noack"), (7, "immediate-freeze"),
    (8, "immediate-freeze-noack"), (9, "freeze-clear"), (10, "freeze-clear-noack"),
    (11, "freeze-at-time"), (12, "freeze-at-time-noack"), (13, "cold-restart"),
    (14, "warm-restart"), (15, "initialize-data"), (16, "initialize-application"),
    (17, "start-application"), (18, "stop-application"), (19, "save-configuration"),
    (20, "enable-unsolicited"), (21, "disable-unsolicited"), (22, "assign-class"),
    (23, "delay-measure"), (24, "record-current-time"), (129, "response"),
    (130, "unsolicited-response")]

def parse_dnp3 (c : Capture) (payload : Bytes) : Capture :=
  let c := c.set "proto" (.str "dnp3")
  if payload.length < 10 ∨ payload.take 2 ≠ DNP3_START then c.summarize "DNP3 packet"
  else
    let dest := (payload.slice 4 6).little
    let src := (payload.slice 6 8).little
    let known := decide (13 ≤ payload.length)
    let c := c.set "dnp3_dest" (.int dest)
    let c := c.set "dnp3_src" (.int src)
    let c := c.set "dnp3_function_code" (if known then .int (payload.byte 12) else .null)
    let func_name := if known then DNP3_FUNCTION_NAMES.nameOrCode "fc" (payload.byte 12)
      else "unknown"
    c.describe ("DNP3 " ++ func_name ++ " src=" ++ toString src ++ " dest=" ++ toString dest)

/-! ## SNMP -/

def read_ber_length (data : Bytes) (offset : Nat) : Option Nat × Nat :=
  if data.length ≤ offset then (none, offset)
  else
    let first := data.byte offset
    let next := offset + 1
    if first < 0x80 then (some first, next)
    else
      let num_bytes := first % 0x80
      if num_bytes = 0 ∨ data.length < next + num_bytes then (none, next)
      else (some (data.num next (next + num_bytes)), next + num_bytes)

/-- A value with the given tag at `pos`, and the position to go on from. -/
def berValue (payload : Bytes) (tag pos : Nat) : Option Bytes × Nat :=
  if pos < payload.length ∧ payload.byte pos = tag then
    match read_ber_length payload (pos + 1) with
    | (some length, start) =>
      if length ≠ 0 ∧ start + length ≤ payload.length then
        (some (payload.slice start (start + length)), start + length)
      else (none, start)
    | (none, start) => (none, start)
  else (none, pos)

def parse_snmp (c : Capture) (payload : Bytes) : Capture :=
  let c := c.set "proto" (.str "snmp")
  if payload.length < 2 ∨ payload.byte 0 ≠ 0x30 then c.summarize "SNMP packet"
  else
    let (version, pos) := berValue payload 0x02 (read_ber_length payload 1).2
    let community := match (berValue payload 0x04 pos).1 with
      | some text => text.utf8Replace
      | none => ""
    let number := version.map Bytes.big
    -- a number of more digits than the interpreter converts raises inside the handler
    if 10 ^ INT_MAX_STR_DIGITS ≤ number.getD 0 then
      let c := c.orSet "summary" (.str "SNMP packet")
      c.set "banner_text" (c.packet "summary")
    else
      let version_name := match number with
        | none => "?"
        | some 0 => "v1"
        | some 1 => "v2c"
        | some n => "v" ++ toString n
      let c := c.set "snmp_version" (.str version_name)
      let c := c.set "snmp_community" (.str community)
      c.describe ("SNMP " ++ version_name ++
        if community = "" then "" else " community='" ++ community ++ "'")

/-! ## Infrastructure -/

def SYSLOG_SEVERITY_NAMES : Table :=
  [(0, "emergency"), (1, "alert"), (2, "critical"), (3, "error"), (4, "warning"),
    (5, "notice"), (6, "info"), (7, "debug")]

def syslogPriority (text : String) : Option Nat × String :=
  match text.toList with
  | '<' :: rest =>
    let digits := rest.takeWhile (· ≠ '>')
    let after := rest.drop digits.length
    if after ≠ [] ∧ digits.length ≤ 3 ∧ allDigits (String.ofList digits) then
      (some (digits.foldl (fun n d => 10 * n + (d.toNat - '0'.toNat)) 0),
        String.ofList (after.drop 1))
    else (none, text)
  | _ => (none, text)

def parse_syslog (c : Capture) (payload : Bytes) : Capture :=
  let c := c.set "proto" (.str "syslog")
  let (pri, message) := syslogPriority (bytes_to_text_preview payload 400)
  let message := strip message
  let shown := slice message 120
  match pri with
  | some pri =>
    let severity := SYSLOG_SEVERITY_NAMES.nameOrNumber (pri % 8)
    let facility := pri / 8
    let c := c.set "syslog_severity" (.str severity)
    let c := c.set "syslog_facility" (.int facility)
    let summary := "Syslog facility=" ++ toString facility ++ " severity=" ++ severity ++
      if message = "" then "" else ": " ++ shown
    (c.summarize summary).set "payload_text" (.str (if message = "" then summary else message))
  | none =>
    let summary := if message = "" then "Syslog message" else "Syslog: " ++ shown
    (c.summarize summary).set "payload_text" (.str (if message = "" then summary else message))

def TFTP_OPCODE_NAMES : Table :=
  [(1, "RRQ"), (2, "WRQ"), (3, "DATA"), (4, "ACK"), (5, "ERROR"), (6, "OACK")]

def parse_tftp (c : Capture) (payload : Bytes) : Capture :=
  let c := c.set "proto" (.str "tftp")
  if payload.length < 2 then c.summarize "TFTP packet"
  else
    let opcode := payload.num 0 2
    let summary := "TFTP " ++ TFTP_OPCODE_NAMES.nameOrCode "opcode" opcode
    if opcode ∈ [1, 2] ∧ 2 < payload.length then
      let parts := Bytes.splitZero (payload.drop 2)
      let filename := Bytes.asciiReplace (parts.getD 0 [])
      let mode := Bytes.asciiReplace (parts.getD 1 [])
      let c := c.setText "tftp_filename" filename
      let c := c.setText "tftp_mode" mode
      c.describe (summary ++
        if mode = "" then "" else " file='" ++ filename ++ "' mode=" ++ mode)
    else c.describe summary

def RADIUS_CODE_NAMES : Table :=
  [(1, "Access-Request"), (2, "Access-Accept"), (3, "Access-Reject"),
    (4, "Accounting-Request"), (5, "Accounting-Response"), (11, "Access-Challenge"),
    (12, "Status-Server"), (13, "Status-Client")]

/-- The attribute loop of `_parse_radius`: user name and address of the access server. -/
def radiusAttributes (payload : Bytes) : Nat → Nat → String × String → String × String
  | 0, _, found => found
  | fuel + 1, offset, found =>
    if payload.length < offset + 2 then found
    else
      let attr_len := payload.byte (offset + 1)
      if attr_len < 2 ∨ payload.length < offset + attr_len then found
      else
        let value := payload.slice (offset + 2) (offset + attr_len)
        let found := if payload.byte offset = 1 then (value.utf8Replace, found.2)
          else if payload.byte offset = 4 ∧ value.length = 4 then (found.1, ipv4Text value)
          else found
        radiusAttributes payload fuel (offset + attr_len) found

def parse_radius (c : Capture) (payload : Bytes) : Capture :=
  let c := c.set "proto" (.str "radius")
  if payload.length < 20 then c.summarize "RADIUS packet"
  else
    let (username, nas_ip) := radiusAttributes payload payload.length 20 ("", "")
    let c := c.setText "radius_username" username
    let c := c.setText "radius_nas_ip" nas_ip
    c.describe ("RADIUS " ++ RADIUS_CODE_NAMES.nameOrCode "code" (payload.byte 0) ++
      (if username = "" then "" else " user='" ++ username ++ "'") ++
      if nas_ip = "" then "" else " nas=" ++ nas_ip)

/-! ## MQTT -/

def MQTT_PACKET_TYPE_NAMES : Table :=
  [(1, "CONNECT"), (2, "CONNACK"), (3, "PUBLISH"), (4, "PUBACK"), (5, "PUBREC"), (6, "PUBREL"),
    (7, "PUBCOMP"), (8, "SUBSCRIBE"), (9, "SUBACK"), (10, "UNSUBSCRIBE"), (11, "UNSUBACK"),
    (12, "PINGREQ"), (13, "PINGRESP"), (14, "DISCONNECT")]

/-- Where `_read_mqtt_remaining_length` stops: after the first of at most four bytes that is
below 0x80. The value itself is not used. -/
def skipMqttLength (payload : Bytes) : Nat → Nat → Nat
  | 0, offset => offset
  | left + 1, offset =>
    if payload.length ≤ offset then offset
    else if payload.byte offset < 0x80 then offset + 1
    else skipMqttLength payload left (offset + 1)

def read_mqtt_string (payload : Bytes) (offset : Nat) : String × Nat :=
  if payload.length < offset + 2 then ("", offset)
  else
    let length := payload.num offset (offset + 2)
    let start := offset + 2
    if length = 0 ∨ payload.length < start + length then ("", start)
    else ((payload.slice start (start + length)).utf8Replace, start + length)

def mqttConnect (payload : Bytes) : String × String × Bool :=
  let offset := (read_mqtt_string payload (skipMqttLength payload 4 1)).2 + 1
  let connect_flags := payload.byte offset
  let (client_id, next) := read_mqtt_string payload (offset + 3)
  let willed := if connect_flags / 0x04 % 2 = 1 then
    (read_mqtt_string payload (read_mqtt_string payload next).2).2 else next
  let username := if 0x80 ≤ connect_flags then (read_mqtt_string payload willed).1 else ""
  (client_id, username, decide (connect_flags / 0x40 % 2 = 1))

def parse_mqtt (c : Capture) (payload : Bytes) : Capture :=
  let c := c.set "proto" (.str "mqtt")
  let packet_type := payload.byte 0 / 0x10
  let summary := "MQTT " ++ MQTT_PACKET_TYPE_NAMES.nameOrCode "type" packet_type
  if packet_type = 1 ∧ 1 < payload.length then
    let (client_id, username, password_present) := mqttConnect payload
    let c := c.setText "mqtt_client_id" client_id
    let c := c.setText "mqtt_username" username
    c.describe (summary ++ (if client_id = "" then "" else " client='" ++ client_id ++ "'") ++
      (if username = "" then "" else " user='" ++ username ++ "'") ++
      if password_present then " password=<present>" else "")
  else c.describe summary

/-! ## What the parsers keep -/

def Apart (fields : Fields) : Prop := ∀ entry ∈ fields, entry.1 ∉ KEPT_KEYS

theorem apart_nil : Apart [] := by
  intro entry h
  cases h

theorem apart_cons (key : String) (value : Value) (rest : Fields) :
    Apart ((key, value) :: rest) ↔ key ∉ KEPT_KEYS ∧ Apart rest := by
  simp [Apart]

theorem apart_append (fields rest : Fields) :
    Apart (fields ++ rest) ↔ Apart fields ∧ Apart rest := by
  simp [Apart, or_imp, forall_and]

theorem apart_set {fields : Fields} {key : String} (value : Value) (hKey : key ∉ KEPT_KEYS)
    (h : Apart fields) : Apart (Dict.set fields key value) := by
  induction fields with
  | nil =>
    intro entry hEntry
    rw [Dict.set, List.mem_singleton] at hEntry
    rw [hEntry]
    exact hKey
  | cons entry rest ih =>
    obtain ⟨k, v⟩ := entry
    rw [apart_cons] at h
    rw [Dict.set]
    split
    · exact (apart_cons k value rest).mpr h
    · exact (apart_cons k v _).mpr ⟨h.1, ih h.2⟩

theorem apart_line_protocol {label key : String} (payload : Bytes)
    (hStatus : key ++ "_status" ∉ KEPT_KEYS) (hCommand : key ++ "_command" ∉ KEPT_KEYS) :
    Apart (decode_line_protocol label key payload) := by
  unfold decode_line_protocol
  dsimp only
  split
  · exact apart_nil
  · refine (apart_cons _ _ _).mpr ⟨by decide, (apart_cons _ _ _).mpr ⟨by decide, ?_⟩⟩
    split
    · exact (apart_cons _ _ _).mpr ⟨hStatus, apart_nil⟩
    · exact (apart_cons _ _ _).mpr ⟨hCommand, apart_nil⟩

theorem apart_lldpEntries (payload : Bytes) (fuel offset : Nat) (fields : Fields)
    (h : Apart fields) : Apart (lldpEntries payload fuel offset fields) := by
  induction fuel generalizing offset fields with
  | zero => exact h
  | succ fuel ih =>
    rw [lldpEntries]
    dsimp only
    split
    · exact h
    split
    · exact h
    apply ih
    split_ifs
    · exact apart_set _ (by decide) h
    · exact apart_set _ (by decide) h
    · exact apart_set _ (by decide) h
    · exact h

theorem apart_cdpEntries (payload : Bytes) (fuel offset : Nat) (fields : Fields)
    (h : Apart fields) : Apart (cdpEntries payload fuel offset fields) := by
  induction fuel generalizing offset fields with
  | zero => exact h
  | succ fuel ih =>
    rw [cdpEntries]
    dsimp only
    split
    · exact h
    split
    · exact h
    apply ih
    split_ifs
    · exact apart_set _ (by decide) h
    · exact apart_set _ (by decide) h
    · exact apart_set _ (by decide) h
    · exact h

theorem apart_smb (payload : Bytes) (start : Nat) : Apart (decodeSmbAt payload start) := by
  unfold decodeSmbAt
  dsimp only
  split_ifs <;> simp only [apart_cons, apart_nil, and_true] <;> decide

theorem apart_decoders : ∀ entry ∈ DECODERS, ∀ payload : Bytes, Apart (entry.2 payload) := by
  simp only [DECODERS, List.forall_mem_cons]
  refine ⟨?tls, ?ssh, ?http, ?proxy, ?ntp, ?ftp, ?smtp, ?pop3, ?imap, ?irc, ?nntp, ?redis, ?sip,
    ?ssdp, ?bgp, ?kerberos, ?ldap, ?smb, ?quic, ?stun, ?isakmp, ?wireguard, ?vxlan, ?lldp, ?eapol,
    ?cdp, by simp⟩
  case ftp | smtp | pop3 | imap | irc | nntp =>
    intro payload
    exact apart_line_protocol payload (by decide) (by decide)
  case smb =>
    intro payload
    unfold decode_smb
    dsimp only
    split_ifs
    · exact apart_smb payload 4
    · exact apart_smb payload 0
  case lldp =>
    intro payload
    unfold decode_lldp
    dsimp only
    split_ifs
    · exact apart_nil
    · exact apart_set _ (by decide) (apart_lldpEntries payload _ _ [] apart_nil)
    · exact apart_set _ (by decide) (apart_lldpEntries payload _ _ [] apart_nil)
  case cdp =>
    intro payload
    unfold decode_cdp
    dsimp only
    split_ifs
    · exact apart_nil
    · exact apart_set _ (by decide) (apart_cdpEntries payload _ _ [] apart_nil)
  -- the others list their fields branch by branch
  all_goals
    intro payload
    simp only [decode_tls, decode_ssh, decode_http, decode_ntp, decode_redis, decode_sip,
      decode_ssdp, decode_bgp, decode_kerberos, decode_ldap, decode_quic, decode_stun,
      decode_isakmp, decode_wireguard, decode_vxlan, decode_eapol]
    split_ifs <;> simp only [apart_cons, apart_append, apart_nil, and_true] <;> decide

theorem apart_decode_app_payload (proto : String) (payload : Bytes) :
    Apart (decode_app_payload proto payload) := by
  rw [decode_app_payload]
  split
  · exact apart_nil
  split
  · rename_i decoder hDecoder
    obtain ⟨front, rest, hSplit, -⟩ := List.lookup_eq_some_iff.mp hDecoder
    have hMem : (proto, decoder) ∈ DECODERS := by
      rw [hSplit]
      exact List.mem_append_right _ List.mem_cons_self
    exact apart_decoders _ hMem payload
  · exact apart_nil

theorem merge_agree {keys : List String} (fields : Fields) :
    ∀ c : Capture, (∀ entry ∈ fields, entry.1 ∉ keys) → Agree keys c (c.merge fields) := by
  induction fields with
  | nil =>
    intro c _
    exact Agree.refl keys c
  | cons entry rest ih =>
    intro c h
    obtain ⟨key, value⟩ := entry
    have hRest := fun entry hEntry => h entry (List.mem_cons_of_mem _ hEntry)
    have hKey : key ∉ keys := h _ List.mem_cons_self
    rw [Capture.merge.eq_def]
    split
    · rename_i hEq
      cases hEq
    · rename_i hEq
      cases hEq
      exact ih c hRest
    · rename_i hEq
      cases hEq
      exact ih c hRest
    · rename_i hEq
      cases hEq
      exact ((agree_set value hKey).mpr (Agree.refl keys c)).trans (ih _ hRest)

theorem apply_app_decoder_keeps (c : Capture) (proto : String) (payload : Bytes) :
    Agree KEPT_KEYS c (apply_app_decoder c proto payload) :=
  merge_agree _ c (apart_decode_app_payload proto payload)

theorem apply_dns_result_keeps (rt : Runtime) (c : Capture) (payload : Bytes)
    (label source : String) : Agree KEPT_KEYS c (apply_dns_result rt c payload label source) := by
  have hQuestion : ∀ questions, Agree KEPT_KEYS c (applyQuestion c source questions) := by
    intro questions
    cases questions with
    | nil => exact Agree.refl _ c
    | cons question rest =>
      simp (disch := decide) only [applyQuestion, agree_set, Agree.refl]
  have hAnswer : ∀ c' answers, Agree KEPT_KEYS c c' →
      Agree KEPT_KEYS c (applyAnswer rt c' answers) := by
    intro c' answers h
    cases answers with
    | nil => exact h
    | cons answer rest =>
      rw [applyAnswer]
      dsimp only
      split
      · exact h
      · simpa (disch := decide) only [agree_set] using h
  have hQuestions := hQuestion (parse_dns_message rt payload).questions
  rw [apply_dns_result]
  split
  · apply hAnswer
    simpa (disch := decide) only [agree_set] using hQuestions
  · simp (disch := decide) only [Capture.orSet, agree_set, agree_summarize]
    apply hAnswer
    simpa (disch := decide) only [agree_set] using hQuestions

section Named

variable (c : Capture) (payload : Bytes)

theorem parse_nbns_keeps :
    Agree KEPT_KEYS (c.set "proto" (.str "nbns")) (parse_nbns c payload) := by
  rw [parse_nbns]
  split_ifs <;> simp (disch := decide) only [agree_describe, agree_summarize, Agree.refl]

theorem parse_modbus_keeps :
    Agree KEPT_KEYS (c.set "proto" (.str "modbus")) (parse_modbus c payload) := by
  rw [parse_modbus]
  split_ifs <;> simp (disch := decide) only [agree_describe, agree_summarize, agree_set,
    Agree.refl]

theorem parse_dnp3_keeps :
    Agree KEPT_KEYS (c.set "proto" (.str "dnp3")) (parse_dnp3 c payload) := by
  rw [parse_dnp3]
  dsimp only
  split <;> simp (disch := decide) only [agree_describe, agree_summarize, agree_set, Agree.refl]

theorem parse_snmp_keeps :
    Agree KEPT_KEYS (c.set "proto" (.str "snmp")) (parse_snmp c payload) := by
  rw [parse_snmp]
  dsimp only
  split
  · simp (disch := decide) only [agree_summarize, Agree.refl]
  split <;> simp (disch := decide) only [Capture.orSet, agree_describe, agree_set, Agree.refl]

theorem parse_syslog_keeps :
    Agree KEPT_KEYS (c.set "proto" (.str "syslog")) (parse_syslog c payload) := by
  rw [parse_syslog]
  dsimp only
  split <;> simp (disch := decide) only [agree_summarize, agree_set, Agree.refl]

theorem parse_tftp_keeps :
    Agree KEPT_KEYS (c.set "proto" (.str "tftp")) (parse_tftp c payload) := by
  rw [parse_tftp]
  dsimp only
  split
  · simp (disch := decide) only [agree_summarize, Agree.refl]
  split <;> simp (disch := decide) only [agree_describe, agree_setText, Agree.refl]

theorem parse_radius_keeps :
    Agree KEPT_KEYS (c.set "proto" (.str "radius")) (parse_radius c payload) := by
  rw [parse_radius]
  dsimp only
  split <;> simp (disch := decide) only [agree_describe, agree_summarize, agree_setText,
    Agree.refl]

theorem parse_mqtt_keeps :
    Agree KEPT_KEYS (c.set "proto" (.str "mqtt")) (parse_mqtt c payload) := by
  rw [parse_mqtt]
  dsimp only
  split <;> simp (disch := decide) only [agree_describe, agree_setText, Agree.refl]

theorem parse_dhcp_keeps :
    Agree FRAME_KEYS (c.set "proto" (.str "dhcp"))
      (parse_dhcp c payload) := by
  rw [parse_dhcp]
  dsimp only
  split
  · simp (disch := decide) only [agree_summarize, Agree.refl]
  · rename_i found _
    simp (disch := decide) only [agree_describe, agree_setText, DhcpOptions.applyType]
    split
    · exact (agree_set _ (by decide)).mpr (Agree.refl _ _)
    · exact Agree.refl _ _

end Named

end Sniff4Hound
