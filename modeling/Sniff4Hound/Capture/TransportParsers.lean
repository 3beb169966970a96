import Sniff4Hound.Capture.AppParsers

/-!
# Transport parsers

The parsers of `sniffer.py` between the network layer and the payload. Each comes with the
statement of what it writes: `parse_tcp` and `parse_udp` leave the header as their first
lines set it, with the name of the application under `proto`.
-/

namespace Sniff4Hound

/-! ## Pieces shared by the parsers -/

/-- `if ip_version == 6 and not packet.get("hop_limit"): packet["hop_limit"] = 64`. -/
def Capture.hopDefault (c : Capture) (ip_version : Nat) : Capture :=
  if ip_version = 6 ∧ !(c.packet "hop_limit").truthy then c.set "hop_limit" (.int 64) else c

namespace Sniffer

def usesPort (sn : Sniffer) (c : Capture) (port : Int) : Bool :=
  (c.packet "src_port").safe_int sn.toRuntime 0 = port ||
    (c.packet "dst_port").safe_int sn.toRuntime 0 = port

def classify_tcp_banner (sn : Sniffer) (c : Capture) (payload : Bytes) : String × Capture :=
  if payload = [] then ("", c)
  else if payload.startswith [0x16, 0x03] then ("TLS handshake", c)
  else
    let (is_tls, c) := sn.is_tls_payload c payload
    if is_tls then ("TLS application data", c)
    else
      let text := bytes_to_text_preview payload sn.PAYLOAD_TEXT_MAX_CHARS
      let banner :=
        if startswith text "HTTP/1." then "HTTP response"
        else if startswith text "GET " || startswith text "POST " || startswith text "HEAD " then
          "HTTP request"
        else if sn.usesPort c 22 then "SSH session"
        else if sn.usesPort c 25 then "SMTP session"
        else if sn.usesPort c 445 then "SMB session"
        else if sn.usesPort c 3389 then "RDP session"
        else text
      (banner, c)

def classify_udp_banner (sn : Sniffer) (c : Capture) (payload : Bytes) : String :=
  if sn.usesPort c 53 then "DNS message"
  else if sn.usesPort c 67 || sn.usesPort c 68 then "DHCP message"
  else if sn.usesPort c 123 then "NTP message"
  else if sn.usesPort c 5353 then "mDNS message"
  else bytes_to_text_preview payload sn.PAYLOAD_TEXT_MAX_CHARS

def classify_icmp_banner (icmp_type icmp_code : Nat) : String :=
  if icmp_type = 8 ∧ icmp_code = 0 then "ICMP echo request"
  else if icmp_type = 0 ∧ icmp_code = 0 then "ICMP echo reply"
  else ""

def endpointLine (sn : Sniffer) (c : Capture) (label : String) : String :=
  label ++ " " ++ sn.shown c "src_ip" ++ ":" ++ sn.shown c "src_port" ++ " → " ++
    sn.shown c "dst_ip" ++ ":" ++ sn.shown c "dst_port"

/-- `packet["summary"] = packet["banner_text"] or line`. -/
def summaryOrLine (sn : Sniffer) (c : Capture) (label : String) : Capture :=
  c.set "summary" ((c.packet "banner_text").orElse (.str (sn.endpointLine c label)))

def shortBody (sn : Sniffer) (c : Capture) (summary : String) (body : Bytes) : Capture :=
  sn.bannerPayload (c.set "summary" (.str summary)) body

end Sniffer

/-! ## TCP -/

def TCP_FLAG_NAMES : Table :=
  [(0x01, "FIN"), (0x02, "SYN"), (0x04, "RST"), (0x08, "PSH"), (0x10, "ACK"), (0x20, "URG"),
    (0x40, "ECE"), (0x80, "CWR")]

def tcpFlags (flags_byte : Nat) : List String :=
  (TCP_FLAG_NAMES.filter fun flag => flags_byte / flag.1 % 2 = 1).map Prod.snd

/-- `NONE` for a segment that carries no flag. -/
def tcpFlagsText (flags_byte : Nat) : String :=
  let flags := tcpFlags flags_byte
  if flags = [] then "NONE" else join "," flags

def tcpState (flags_byte : Nat) : String :=
  if flags_byte / 0x04 % 2 = 1 then "closed"
  else if flags_byte / 0x02 % 2 = 1 ∧ flags_byte / 0x10 % 2 = 1 then "open"
  else if flags_byte / 0x02 % 2 = 1 then "filtered"
  else "unknown"

def tcpPayload (body : Bytes) : Bytes :=
  let data_offset := body.byte 12 / 0x10 * 4
  if data_offset ≠ 0 ∧ data_offset ≤ body.length then body.drop data_offset else body.drop 20

def tcpFields (c : Capture) (body : Bytes) : Capture :=
  let c := c.set "transport" (.str "tcp")
  let c := c.set "src_port" (.int (body.num 0 2))
  let c := c.set "dst_port" (.int (body.num 2 4))
  c.set "tcp_flags" (.str (tcpFlagsText (body.byte 13)))

def tcpHeader (c : Capture) (body : Bytes) : Capture :=
  let payload := tcpPayload body
  let c := tcpFields c body
  let c := c.set "payload_len" (.int payload.length)
  let c := c.set "payload_hex" (.str (bytes_to_hex_preview payload HEX_PREVIEW_LIMIT))
  c.set "state" (.str (tcpState (body.byte 13)))

def dnsOverTcp (payload : Bytes) : Bytes :=
  let prefix_len := payload.num 0 2
  if prefix_len ≠ 0 ∧ prefix_len ≤ payload.length - 2 then payload.slice 2 (2 + prefix_len)
  else payload.drop 2

def carriesDns (rt : Runtime) (message : Bytes) : Bool :=
  let parsed := parse_dns_message rt message
  parsed.questions ≠ [] || parsed.answers ≠ []

/-- The dedicated decoders of `_parse_tcp`, in the order they are tried. -/
inductive TcpClaim where
  | dns
  | modbus
  | dnp3
  | mqtt
deriving DecidableEq

def tcpClaim (rt : Runtime) (src_port dst_port : Nat) (payload : Bytes) : Option TcpClaim :=
  if (src_port = 53 ∨ dst_port = 53) ∧ 2 < payload.length ∧
      carriesDns rt (dnsOverTcp payload) then some .dns
  else if (src_port = 502 ∨ dst_port = 502) ∧ 8 ≤ payload.length then some .modbus
  else if (src_port = 20000 ∨ dst_port = 20000) ∧ payload.take 2 = DNP3_START then some .dnp3
  else if (src_port = 1883 ∨ dst_port = 1883) ∧ payload ≠ [] then some .mqtt
  else none

def tcp_proto (rt : Runtime) (src_port dst_port : Nat) (payload : Bytes) : String :=
  match tcpClaim rt src_port dst_port payload with
  | some .dns => "dns"
  | some .modbus => "modbus"
  | some .dnp3 => "dnp3"
  | some .mqtt => "mqtt"
  | none =>
    let app_proto := classify_tcp src_port dst_port payload
    if app_proto = "" then "tcp" else app_proto

def applySni (rt : Runtime) (c : Capture) (payload : Bytes) : Capture :=
  if payload.take 1 = [0x16] then
    let c := c.orSet "banner_text" (.str "TLS handshake")
    let sni := extract_tls_sni rt payload
    if sni = "" then c else (c.set "domain" (.str sni)).set "domain_source" (.str "tls_sni")
  else c

/-- `if app_proto: packet["proto"] = app_proto; self._apply_app_decoder(...)`. -/
def applyName (c : Capture) (app_proto : String) (payload : Bytes) : Capture :=
  if app_proto = "" then c
  else apply_app_decoder (c.set "proto" (.str app_proto)) app_proto payload

def applyRequest (c : Capture) (text : String) : Capture :=
  let (method, path, host) := extract_http_request text
  if method = "" then c
  else
    let c := c.set "http_method" (.str method)
    let c := c.set "http_path" (.str path)
    let c := c.set "http_host" (.str host)
    if host = "" then c
    else (c.set "domain" (.str host)).set "domain_source" (.str "http_host")

namespace Sniffer

def tcpBanner (sn : Sniffer) (c : Capture) (payload : Bytes) : Capture :=
  let c := sn.readPayload c payload
  if (c.packet "payload_text").truthy then c.set "banner_text" (c.packet "payload_text")
  else
    let (banner, c) := sn.classify_tcp_banner c payload
    c.set "banner_text" (.str banner)

/-- The last part of `_parse_tcp`, for such a segment. -/
def parseTcpPayload (sn : Sniffer) (c : Capture) (src_port dst_port : Nat) (payload : Bytes)
    (ip_version : Nat) : Capture :=
  let c := (sn.summaryOrLine (sn.tcpBanner c payload) "TCP").hopDefault ip_version
  let c := applySni sn.toRuntime c payload
  let c := applyName c (classify_tcp src_port dst_port payload) payload
  applyRequest c (sn.shown c "payload_text")

def parse_tcp (sn : Sniffer) (c : Capture) (body : Bytes) (ip_version : Nat) : Capture :=
  let c := c.set "proto" (.str "tcp")
  if body.length < 20 then sn.shortBody (c.set "transport" (.str "tcp")) "TCP packet" body
  else
    let src_port := body.num 0 2
    let dst_port := body.num 2 4
    let payload := tcpPayload body
    let c := tcpHeader c body
    match tcpClaim sn.toRuntime src_port dst_port payload with
    | some .dns =>
      (apply_dns_result sn.toRuntime (c.set "proto" (.str "dns")) (dnsOverTcp payload) "DNS"
        "dns").hopDefault ip_version
    | some .modbus => (parse_modbus c payload).hopDefault ip_version
    | some .dnp3 => (parse_dnp3 c payload).hopDefault ip_version
    | some .mqtt => (parse_mqtt c payload).hopDefault ip_version
    | none => sn.parseTcpPayload c src_port dst_port payload ip_version

end Sniffer

/-! ## UDP -/

def udpPayload (body : Bytes) : Bytes :=
  let length := body.num 4 6
  if 8 ≤ length ∧ length ≤ body.length then body.slice 8 length else body.drop 8

def udpFields (c : Capture) (body : Bytes) : Capture :=
  let c := c.set "transport" (.str "udp")
  let c := c.set "src_port" (.int (body.num 0 2))
  c.set "dst_port" (.int (body.num 2 4))

def udpHeader (rt : Runtime) (c : Capture) (body : Bytes) : Capture :=
  let payload := udpPayload body
  let c := udpFields c body
  let c := c.set "payload_len" (.int payload.length)
  let c := c.set "payload_hex" (.str (bytes_to_hex_preview payload HEX_PREVIEW_LIMIT))
  if payload ≠ [] ∧ (service_endpoint rt c.packet).1 = (c.packet "src_ip").toText rt then
    c.set "state" (.str "open")
  else c

/-- The decoders of `_parse_udp`, in the order they are tried. -/
inductive UdpClaim where
  | dns
  | dhcp
  | mdns
  | llmnr
  | nbns
  | snmp
  | syslog
  | tftp
  | radius
  | dnp3
deriving DecidableEq

def udpClaim (src_port dst_port : Nat) (payload : Bytes) : Option UdpClaim :=
  if src_port = 53 ∨ dst_port = 53 then some .dns
  else if src_port ∈ [67, 68] ∨ dst_port ∈ [67, 68] then some .dhcp
  else if src_port = 5353 ∨ dst_port = 5353 then some .mdns
  else if src_port = 5355 ∨ dst_port = 5355 then some .llmnr
  else if src_port = 137 ∨ dst_port = 137 then some .nbns
  else if src_port ∈ [161, 162] ∨ dst_port ∈ [161, 162] then some .snmp
  else if src_port = 514 ∨ dst_port = 514 then some .syslog
  else if src_port = 69 ∨ dst_port = 69 then some .tftp
  else if src_port ∈ [1812, 1813] ∨ dst_port ∈ [1812, 1813] then some .radius
  else if (src_port = 20000 ∨ dst_port = 20000) ∧ payload.take 2 = DNP3_START then some .dnp3
  else none

def UdpClaim.proto : UdpClaim → String
  | dns => "dns"
  | dhcp => "dhcp"
  | mdns => "mdns"
  | llmnr => "llmnr"
  | nbns => "nbns"
  | snmp => "snmp"
  | syslog => "syslog"
  | tftp => "tftp"
  | radius => "radius"
  | dnp3 => "dnp3"

def udp_proto (src_port dst_port : Nat) (payload : Bytes) : String :=
  match udpClaim src_port dst_port payload with
  | some decoder => decoder.proto
  | none =>
    let app_proto := classify_udp src_port dst_port payload
    if app_proto = "" then "udp" else app_proto

/-- The last part of `_parse_udp`: the decoder for the ports, or the weaker guess. -/
def parseUdpPayload (rt : Runtime) (c : Capture) (src_port dst_port : Nat) (payload : Bytes) :
    Capture :=
  match udpClaim src_port dst_port payload with
  | some .dns => apply_dns_result rt (c.set "proto" (.str "dns")) payload "DNS" "dns"
  | some .dhcp => parse_dhcp c payload
  | some .mdns => apply_dns_result rt (c.set "proto" (.str "mdns")) payload "mDNS" "mdns"
  | some .llmnr => apply_dns_result rt (c.set "proto" (.str "llmnr")) payload "LLMNR" "llmnr"
  | some .nbns => parse_nbns c payload
  | some .snmp => parse_snmp c payload
  | some .syslog => parse_syslog c payload
  | some .tftp => parse_tftp c payload
  | some .radius => parse_radius c payload
  | some .dnp3 => parse_dnp3 c payload
  | none => applyName c (classify_udp src_port dst_port payload) payload

namespace Sniffer

def udpBanner (sn : Sniffer) (c : Capture) (payload : Bytes) : Capture :=
  let c := sn.readPayload c payload
  let c := c.set "banner_text"
    ((c.packet "payload_text").orElse (.str (sn.classify_udp_banner c payload)))
  sn.summaryOrLine c "UDP"

def parse_udp (sn : Sniffer) (c : Capture) (body : Bytes) (ip_version : Nat) : Capture :=
  let c := c.set "proto" (.str "udp")
  if body.length < 8 then sn.shortBody (c.set "transport" (.str "udp")) "UDP packet" body
  else
    let payload := udpPayload body
    let c := sn.udpBanner (udpHeader sn.toRuntime c body) payload
    parseUdpPayload sn.toRuntime (c.hopDefault ip_version) (body.num 0 2) (body.num 2 4) payload

/-! ## The other transports -/

def parse_sctp (sn : Sniffer) (c : Capture) (body : Bytes) (ip_version : Nat) : Capture :=
  let c := c.set "proto" (.str "sctp")
  if body.length < 12 then sn.shortBody (c.set "transport" (.str "sctp")) "SCTP packet" body
  else
    let c := c.set "src_port" (.int (body.num 0 2))
    let c := c.set "dst_port" (.int (body.num 2 4))
    let c := sn.bannerPayload c (body.drop 12)
    (sn.summaryOrLine c "SCTP").hopDefault ip_version

def parse_icmp (sn : Sniffer) (c : Capture) (body : Bytes) (ipv6 : Bool) : Capture :=
  let proto := if ipv6 then "icmpv6" else "icmp"
  let c := c.set "proto" (.str proto)
  if body.length < 4 then sn.shortBody c "ICMP packet" body
  else
    let c := c.set "icmp_type" (.int (body.byte 0))
    let c := c.set "icmp_code" (.int (body.byte 1))
    let c := sn.readPayload c (body.drop 4)
    let c := c.set "banner_text" ((c.packet "payload_text").orElse
      (.str (classify_icmp_banner (body.byte 0) (body.byte 1))))
    c.set "summary" ((c.packet "banner_text").orElse (.str (sn.upper proto ++ " type " ++
      toString (body.byte 0) ++ " code " ++ toString (body.byte 1))))

end Sniffer

def IGMP_TYPE_NAMES : Table :=
  [(0x11, "membership query"), (0x12, "v1 membership report"), (0x16, "v2 membership report"),
    (0x17, "leave group"), (0x22, "v3 membership report")]

def Sniffer.parse_igmp (sn : Sniffer) (c : Capture) (body : Bytes) : Capture :=
  let c := c.set "proto" (.str "igmp")
  if body.length < 8 then sn.readPayload (c.summarize "IGMP packet") body
  else
    let type_name := IGMP_TYPE_NAMES.nameOr (body.byte 0) ("type " ++ hexText 2 (body.byte 0))
    let group := ipv4Text (body.slice 4 8)
    if group = "0.0.0.0" then c.describe ("IGMP " ++ type_name)
    else
      (c.set "igmp_group" (.str group)).describe ("IGMP " ++ type_name ++ " group=" ++ group)

def parse_gre (c : Capture) (body : Bytes) : Capture :=
  let c := c.set "proto" (.str "gre")
  if body.length < 4 then c.summarize "GRE packet"
  else
    let flags_version := body.num 0 2
    let offset := if 0x8000 ≤ flags_version ∧ 8 ≤ body.length then 8 else 4
    let key := if flags_version / 0x2000 % 2 = 1 ∧ offset + 4 ≤ body.length then
      " key=" ++ hexText 8 (body.num offset (offset + 4)) else ""
    c.describe ("GRE tunnel inner-proto " ++ hexText 4 (body.num 2 4) ++ key)

def parse_esp (c : Capture) (body : Bytes) : Capture :=
  let c := c.set "proto" (.str "esp")
  if body.length < 8 then c.summarize "ESP packet"
  else c.summarize ("ESP SPI=" ++ hexText 8 (body.num 0 4) ++ " seq=" ++
    toString (body.num 4 8) ++ " (encrypted payload)")

def IP_PROTO_ICMP : Nat := 1
def IP_PROTO_IGMP : Nat := 2
def IP_PROTO_TCP : Nat := 6
def IP_PROTO_UDP : Nat := 17
def IP_PROTO_GRE : Nat := 47
def IP_PROTO_IPV6_ESP : Nat := 50
def IP_PROTO_IPV6_AH : Nat := 51
def IP_PROTO_ICMPV6 : Nat := 58
def IP_PROTO_SCTP : Nat := 132

def ah_header_length (length_field : Nat) : Nat := (length_field + 2) * 4

def ahInner (body : Bytes) : Bytes :=
  let header_length := ah_header_length (body.byte 1)
  if header_length ≤ body.length then body.drop header_length else []

def icmpProto (ip_version : Nat) : Nat :=
  if ip_version = 6 then IP_PROTO_ICMPV6 else IP_PROTO_ICMP

def Sniffer.parseAhInner (sn : Sniffer) (c : Capture) (body : Bytes) (ip_version : Nat) :
    Capture :=
  let next_header := body.byte 0
  if next_header = IP_PROTO_TCP then sn.parse_tcp c (ahInner body) ip_version
  else if next_header = IP_PROTO_UDP then sn.parse_udp c (ahInner body) ip_version
  else if next_header = icmpProto ip_version then
    sn.parse_icmp c (ahInner body) (ip_version = 6)
  else (c.set "proto" (.str "ah")).summarize ("AH protocol " ++ toString next_header)

def Sniffer.parse_ah (sn : Sniffer) (c : Capture) (body : Bytes) (ip_version : Nat) : Capture :=
  if body.length < 12 then (c.set "proto" (.str "ah")).summarize "AH packet"
  else
    let c := sn.parseAhInner c body ip_version
    c.summarize ("AH SPI=" ++ hexText 8 (body.num 4 8) ++ " seq=" ++ toString (body.num 8 12) ++
      " | " ++ (c.packet "summary").text sn.toRuntime)

/-! ## What the transport parsers keep -/

section Keep

variable {keys : List String} {c c' : Capture}

theorem agree_hopDefault (ip_version : Nat) (hHop : "hop_limit" ∉ keys) :
    Agree keys c (c'.hopDefault ip_version) ↔ Agree keys c c' := by
  rw [Capture.hopDefault]
  split
  · exact agree_set _ hHop
  · exact Iff.rfl

theorem shortBody_agree (sn : Sniffer) (c : Capture) (summary : String) (body : Bytes) :
    Agree CORE_KEYS c (sn.shortBody c summary body) := by
  have hSummary : Agree CORE_KEYS c (c.set "summary" (.str summary)) :=
    (agree_set _ (by decide)).mpr (Agree.refl CORE_KEYS c)
  exact hSummary.trans
    (sn.bannerPayload_agree _ body (by decide) (by decide) (by decide))

theorem classify_tcp_banner_or (sn : Sniffer) (c : Capture) (payload : Bytes) :
    (sn.classify_tcp_banner c payload).2 = c ∨
      (sn.classify_tcp_banner c payload).2 = (sn.is_tls_payload c payload).2 := by
  rw [Sniffer.classify_tcp_banner]
  by_cases hNil : payload = []
  · rw [if_pos hNil]
    exact .inl rfl
  rw [if_neg hNil]
  by_cases hStart : payload.startswith [0x16, 0x03] = true
  · rw [if_pos hStart]
    exact .inl rfl
  rw [if_neg hStart]
  refine .inr ?_
  obtain ⟨is_tls, c'⟩ := sn.is_tls_payload c payload
  cases is_tls with
  | true => rfl
  | false => rfl

theorem classify_tcp_banner_agree (sn : Sniffer) (c : Capture) (payload : Bytes) :
    Agree keys c (sn.classify_tcp_banner c payload).2 := by
  rcases classify_tcp_banner_or sn c payload with hSame | hTls
  · rw [hSame]
    exact Agree.refl keys c
  · rw [hTls]
    exact Sniffer.is_tls_payload_agree keys sn c payload

theorem tcpBanner_keeps (sn : Sniffer) (c : Capture) (payload : Bytes) :
    Agree KEPT_KEYS c (sn.tcpBanner c payload) := by
  have hRead : Agree KEPT_KEYS c (sn.readPayload c payload) :=
    sn.readPayload_agree c payload (by decide) (by decide)
  rw [Sniffer.tcpBanner]
  dsimp only
  split
  · exact (agree_set _ (by decide)).mpr hRead
  · exact (agree_set _ (by decide)).mpr (hRead.trans (classify_tcp_banner_agree sn _ payload))

theorem applySni_keeps (rt : Runtime) (c : Capture) (payload : Bytes) :
    Agree KEPT_KEYS c (applySni rt c payload) := by
  rw [applySni]
  dsimp only
  split_ifs <;> simp (disch := decide) only [Capture.orSet, agree_set, Agree.refl]

theorem applyRequest_keeps (c : Capture) (text : String) :
    Agree KEPT_KEYS c (applyRequest c text) := by
  rw [applyRequest]
  dsimp only
  split_ifs <;> simp (disch := decide) only [agree_set, Agree.refl]

theorem applyName_keeps (c : Capture) {transport : String} (app_proto : String) (payload : Bytes)
    (hProto : c.packet "proto" = .str transport) :
    Agree KEPT_KEYS (c.set "proto" (.str (if app_proto = "" then transport else app_proto)))
      (applyName c app_proto payload) := by
  rw [applyName]
  split
  · intro k _
    rw [set_packet]
    split
    · rename_i hk
      rw [hk, hProto]
    · rfl
  · exact apply_app_decoder_keeps _ _ payload

theorem tcpHeader_proto (c : Capture) (body : Bytes) (value value' : Value) :
    Agree KEPT_KEYS ((tcpFields c body).set "proto" value')
      ((tcpHeader (c.set "proto" value) body).set "proto" value') := by
  intro k hk
  simp only [KEPT_KEYS, FRAME_KEYS, HEADER_KEYS, List.mem_cons, List.not_mem_nil, or_false] at hk
  rcases hk with rfl | rfl | rfl | rfl | rfl | rfl | rfl | rfl | rfl | rfl | rfl | rfl | rfl |
    rfl <;> rfl

theorem udpHeader_keeps (rt : Runtime) (c : Capture) (body : Bytes) :
    Agree KEPT_KEYS (udpFields c body) (udpHeader rt c body) := by
  rw [udpHeader]
  split <;> simp (disch := decide) only [agree_set, Agree.refl]

theorem udpHeader_agree (rt : Runtime) (c : Capture) (body : Bytes) :
    Agree CORE_KEYS (udpFields c body) (udpHeader rt c body) :=
  (udpHeader_keeps rt c body).mono core_subset_kept

theorem udpHeader_proto (rt : Runtime) (c : Capture) (body : Bytes) (value value' : Value) :
    Agree KEPT_KEYS ((udpFields c body).set "proto" value')
      ((udpHeader rt (c.set "proto" value) body).set "proto" value') := by
  have hFields : Agree KEPT_KEYS ((udpFields c body).set "proto" value')
      ((udpFields (c.set "proto" value) body).set "proto" value') := by
    intro k hk
    simp only [KEPT_KEYS, FRAME_KEYS, HEADER_KEYS, List.mem_cons, List.not_mem_nil, or_false] at hk
    rcases hk with rfl | rfl | rfl | rfl | rfl | rfl | rfl | rfl | rfl | rfl | rfl | rfl | rfl |
    rfl <;> rfl
  exact hFields.trans ((udpHeader_keeps rt _ body).set_both "proto" value')

end Keep

/-! ## What TCP and UDP write -/

variable (sn : Sniffer) (c : Capture) (body : Bytes) (ip_version : Nat)

theorem parse_tcp_keeps (hLong : 20 ≤ body.length) :
    Agree KEPT_KEYS
      ((tcpFields c body).set "proto"
        (.str (tcp_proto sn.toRuntime (body.num 0 2) (body.num 2 4) (tcpPayload body))))
      (sn.parse_tcp c body ip_version) := by
  refine (tcpHeader_proto c body (.str "tcp") _).trans ?_
  rw [Sniffer.parse_tcp]
  dsimp only
  rw [if_neg (by omega), tcp_proto]
  generalize hHeader : tcpHeader (c.set "proto" (.str "tcp")) body = header
  have hProto : header.packet "proto" = .str "tcp" := by
    rw [← hHeader]
    rfl
  cases tcpClaim sn.toRuntime (body.num 0 2) (body.num 2 4) (tcpPayload body) with
  | none =>
    have hBanner : Agree KEPT_KEYS header
        ((sn.summaryOrLine (sn.tcpBanner header (tcpPayload body)) "TCP").hopDefault
          ip_version) := by
      rw [agree_hopDefault _ (by decide), Sniffer.summaryOrLine, agree_set _ (by decide)]
      exact tcpBanner_keeps sn header _
    have hSni := hBanner.trans (applySni_keeps sn.toRuntime _ (tcpPayload body))
    have hSniProto := (hSni "proto" (by decide)).trans hProto
    have hNamed := applyName_keeps _ (classify_tcp (body.num 0 2) (body.num 2 4) (tcpPayload body))
      (tcpPayload body) hSniProto
    dsimp only
    rw [Sniffer.parseTcpPayload]
    exact ((hSni.set_both "proto" _).trans hNamed).trans (applyRequest_keeps _ _)
  | some decoder =>
    cases decoder with
    | dns =>
      exact (agree_hopDefault _ (by decide)).mpr (apply_dns_result_keeps _ _ _ _ _)
    | modbus => exact (agree_hopDefault _ (by decide)).mpr (parse_modbus_keeps header _)
    | dnp3 => exact (agree_hopDefault _ (by decide)).mpr (parse_dnp3_keeps header _)
    | mqtt => exact (agree_hopDefault _ (by decide)).mpr (parse_mqtt_keeps header _)

theorem parse_tcp_agree (hLong : 20 ≤ body.length) :
    Agree CORE_KEYS
      ((tcpFields c body).set "proto"
        (.str (tcp_proto sn.toRuntime (body.num 0 2) (body.num 2 4) (tcpPayload body))))
      (sn.parse_tcp c body ip_version) :=
  (parse_tcp_keeps sn c body ip_version hLong).mono core_subset_kept

theorem parse_tcp_short_agree (hShort : body.length < 20) :
    Agree CORE_KEYS ((c.set "proto" (.str "tcp")).set "transport" (.str "tcp"))
      (sn.parse_tcp c body ip_version) := by
  rw [Sniffer.parse_tcp, if_pos hShort]
  exact shortBody_agree sn _ _ body

theorem parseUdpPayload_keeps (rt : Runtime) (c : Capture) (src_port dst_port : Nat)
    (payload : Bytes) (hProto : c.packet "proto" = .str "udp") :
    Agree FRAME_KEYS (c.set "proto" (.str (udp_proto src_port dst_port payload)))
      (parseUdpPayload rt c src_port dst_port payload) := by
  have hHeader : FRAME_KEYS ⊆ KEPT_KEYS := List.subset_cons_self _ _
  rw [parseUdpPayload, udp_proto]
  cases udpClaim src_port dst_port payload with
  | none => exact (applyName_keeps c _ payload hProto).mono hHeader
  | some decoder =>
    cases decoder with
    | dns => exact (apply_dns_result_keeps _ _ _ _ _).mono hHeader
    | dhcp => exact parse_dhcp_keeps c payload
    | mdns => exact (apply_dns_result_keeps _ _ _ _ _).mono hHeader
    | llmnr => exact (apply_dns_result_keeps _ _ _ _ _).mono hHeader
    | nbns => exact (parse_nbns_keeps c payload).mono hHeader
    | snmp => exact (parse_snmp_keeps c payload).mono hHeader
    | syslog => exact (parse_syslog_keeps c payload).mono hHeader
    | tftp => exact (parse_tftp_keeps c payload).mono hHeader
    | radius => exact (parse_radius_keeps c payload).mono hHeader
    | dnp3 => exact (parse_dnp3_keeps c payload).mono hHeader

theorem udpBanner_keeps (payload : Bytes) : Agree KEPT_KEYS c (sn.udpBanner c payload) := by
  rw [Sniffer.udpBanner, Sniffer.summaryOrLine, agree_set _ (by decide),
    agree_set _ (by decide)]
  exact sn.readPayload_agree c payload (by decide) (by decide)

theorem parse_udp_keeps (hLong : 8 ≤ body.length) :
    Agree FRAME_KEYS
      ((udpFields c body).set "proto"
        (.str (udp_proto (body.num 0 2) (body.num 2 4) (udpPayload body))))
      (sn.parse_udp c body ip_version) := by
  have hKeys : FRAME_KEYS ⊆ KEPT_KEYS := List.subset_cons_self _ _
  refine ((udpHeader_proto sn.toRuntime c body (.str "udp") _).mono hKeys).trans ?_
  rw [Sniffer.parse_udp]
  dsimp only
  rw [if_neg (by omega)]
  generalize hHeader : udpHeader sn.toRuntime (c.set "proto" (.str "udp")) body = header
  have hProto : header.packet "proto" = .str "udp" := by
    rw [← hHeader, udpHeader]
    split <;> rfl
  have hBanner : Agree KEPT_KEYS header
      ((sn.udpBanner header (udpPayload body)).hopDefault ip_version) :=
    (agree_hopDefault _ (by decide)).mpr (udpBanner_keeps sn header _)
  exact ((hBanner.mono hKeys).set_both "proto" _).trans
    (parseUdpPayload_keeps _ _ _ _ _ ((hBanner "proto" (by decide)).trans hProto))

theorem parse_udp_agree (hLong : 8 ≤ body.length) :
    Agree HEADER_KEYS
      ((udpFields c body).set "proto"
        (.str (udp_proto (body.num 0 2) (body.num 2 4) (udpPayload body))))
      (sn.parse_udp c body ip_version) :=
  (parse_udp_keeps sn c body ip_version hLong).mono (by decide)

theorem parse_udp_short_agree (hShort : body.length < 8) :
    Agree CORE_KEYS ((c.set "proto" (.str "udp")).set "transport" (.str "udp"))
      (sn.parse_udp c body ip_version) := by
  rw [Sniffer.parse_udp, if_pos hShort]
  exact shortBody_agree sn _ _ body

end Sniff4Hound
