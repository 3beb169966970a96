import Mathlib.Algebra.GroupWithZero.Nat
import Sniff4Hound.Capture.TransportParsers

/-!
# From a frame to a packet

`Sniffer.parse_packet`: the guess that a capture is a headerless IP packet, the Ethernet
header with its VLAN tags, the network layer, and the last touches of `_finalize_packet`.
-/

namespace Sniff4Hound

def ETHERTYPE_VLAN : List Nat := [0x8100, 0x88A8, 0x9100]
def ETHERTYPE_IPV4 : Nat := 0x0800
def ETHERTYPE_IPV6 : Nat := 0x86DD
def ETHERTYPE_ARP : Nat := 0x0806
def ETHERNET_MAX_PAYLOAD_LENGTH : Nat := 1500

namespace Sniffer

def fallback_summary (sn : Sniffer) (c : Capture) : String :=
  let rt := sn.toRuntime
  let src := ((c.packet "src_ip").orElse (c.packet "eth_src")).orElse (.str "?")
  let dst := ((c.packet "dst_ip").orElse (c.packet "eth_dst")).orElse (.str "?")
  let src_port := (c.packet "src_port").safe_int rt 0
  let dst_port := (c.packet "dst_port").safe_int rt 0
  let port_text := if src_port ≠ 0 ∨ dst_port ≠ 0 then
    " " ++ toString src_port ++ "->" ++ toString dst_port else ""
  sn.upper (normalize_protocol_name rt (c.packet "proto")) ++ " " ++ src.toText rt ++ port_text ++
    " → " ++ dst.toText rt

/-- `if not packet.get("summary"): packet["summary"] = self._fallback_summary(packet)`. -/
def summaryOrFallback (sn : Sniffer) (c : Capture) : Capture :=
  c.orSet "summary" (.str (sn.fallback_summary c))

/-! ## IPv4 -/

def ipv4Fields (c : Capture) (payload : Bytes) : Capture :=
  let c := c.set "ip_version" (.int 4)
  let c := c.set "ttl" (.int (payload.byte 8))
  let c := c.set "src_ip" (.str (ipv4Text (payload.slice 12 16)))
  c.set "dst_ip" (.str (ipv4Text (payload.slice 16 20)))

def ipv4Body (payload : Bytes) : Bytes :=
  let ihl := payload.byte 0 % 0x10 * 4
  let total_length := payload.num 2 4
  if ihl < total_length then payload.slice ihl total_length else payload.drop ihl

def nameIpProtocol (sn : Sniffer) (c : Capture) (proto label : String) (body : Bytes) : Capture :=
  let c := c.set "proto" (.str (if proto = "" then "unknown" else proto))
  let c := c.set "summary"
    (.str (label ++ " " ++ sn.shown c "src_ip" ++ " → " ++ sn.shown c "dst_ip"))
  sn.bannerPayload c body

def parseIpv4Body (sn : Sniffer) (c : Capture) (proto : Nat) (body : Bytes) : Capture :=
  if proto = IP_PROTO_TCP then sn.parse_tcp c body 4
  else if proto = IP_PROTO_UDP then sn.parse_udp c body 4
  else if proto = IP_PROTO_SCTP then sn.parse_sctp c body 4
  else if proto = IP_PROTO_ICMP then sn.parse_icmp c body false
  else if proto = IP_PROTO_IGMP then sn.parse_igmp c body
  else if proto = IP_PROTO_GRE then parse_gre c body
  else if proto = IP_PROTO_IPV6_ESP then parse_esp c body
  else if proto = IP_PROTO_IPV6_AH then sn.parse_ah c body 4
  else
    let named := IP_PROTOCOLS.name proto
    sn.nameIpProtocol c named
      (if named = "" then "IPv4 protocol " ++ toString proto else sn.upper named) body

def parse_ipv4 (sn : Sniffer) (c : Capture) (payload : Bytes) : Capture :=
  if payload.length < 20 then sn.shortBody c "IPv4 packet" payload
  else sn.summaryOrFallback
    (sn.parseIpv4Body (ipv4Fields c payload) (payload.byte 9) (ipv4Body payload))

/-! ## IPv6 -/

def IPV6_EXTENSIONS : List Nat := [0, 43, 60, 135, 139, 140]

def IP_PROTO_IPV6_FRAGMENT : Nat := 44

/-- The loop of `_unwrap_ipv6_transport`: upper protocol, body and what to call it. Every
round but the last skips at least eight bytes of the packet. -/
def unwrapIpv6 (payload : Bytes) : Nat → Nat → Nat → Option Nat × Bytes × String
  | 0, next_header, offset =>
    (some next_header, payload.drop offset, "protocol " ++ toString next_header)
  | fuel + 1, next_header, offset =>
    let body := payload.drop offset
    if next_header ∈ IPV6_EXTENSIONS then
      let header_length := (payload.byte (offset + 1) + 1) * 8
      if payload.length < offset + 2 ∨ payload.length < offset + header_length then
        (none, body, "truncated IPv6 extension")
      else unwrapIpv6 payload fuel (payload.byte offset) (offset + header_length)
    else if next_header = IP_PROTO_IPV6_FRAGMENT then
      if payload.length < offset + 8 then (none, body, "truncated IPv6 fragment")
      else if payload.num (offset + 2) (offset + 4) / 8 ≠ 0 then
        (none, payload.drop (offset + 8), "non-initial IPv6 fragment")
      else unwrapIpv6 payload fuel (payload.byte offset) (offset + 8)
    else if next_header = IP_PROTO_IPV6_AH then (some IP_PROTO_IPV6_AH, body, "AH")
    else if next_header = IP_PROTO_IPV6_ESP then (some IP_PROTO_IPV6_ESP, body, "ESP")
    else (some next_header, body, "protocol " ++ toString next_header)

def unwrap_ipv6_transport (payload : Bytes) : Option Nat × Bytes × String :=
  unwrapIpv6 payload payload.length (payload.byte 6) 40

def ipv6Fields (c : Capture) (payload : Bytes) : Capture :=
  let c := c.set "ip_version" (.int 6)
  let c := c.set "hop_limit" (.int (payload.byte 7))
  let c := c.set "src_ip" (.str (ipv6Text (payload.slice 8 24)))
  c.set "dst_ip" (.str (ipv6Text (payload.slice 24 40)))

def parseIpv6Body (sn : Sniffer) (c : Capture) (next_header : Option Nat) (body : Bytes)
    (detail : String) : Capture :=
  if next_header = some IP_PROTO_TCP then sn.parse_tcp c body 6
  else if next_header = some IP_PROTO_UDP then sn.parse_udp c body 6
  else if next_header = some IP_PROTO_SCTP then sn.parse_sctp c body 6
  else if next_header = some IP_PROTO_ICMPV6 then sn.parse_icmp c body true
  else if next_header = some IP_PROTO_IPV6_ESP then parse_esp c body
  else if next_header = some IP_PROTO_IPV6_AH then sn.parse_ah c body 6
  else
    let named := match next_header with
      | some proto => IP_PROTOCOLS.name proto
      | none => ""
    let label := sn.upper named
    sn.nameIpProtocol c named ("IPv6 " ++ if label = "" then detail else label) body

def parse_ipv6 (sn : Sniffer) (c : Capture) (payload : Bytes) : Capture :=
  if payload.length < 40 then sn.shortBody c "IPv6 packet" payload
  else
    let (next_header, body, detail) := unwrap_ipv6_transport payload
    sn.summaryOrFallback (sn.parseIpv6Body (ipv6Fields c payload) next_header body detail)

end Sniffer

/-! ## ARP and the link layer -/

def ARP_OPERATIONS : Table :=
  [(1, "request"), (2, "reply"), (3, "RARP request"), (4, "RARP reply"), (8, "InARP request"),
    (9, "InARP reply")]

def ARP_HW_TYPES : Table :=
  [(1, "Ethernet"), (6, "IEEE 802"), (15, "Frame Relay"), (16, "ATM"), (17, "HDLC")]

def arpFields (c : Capture) (payload : Bytes) : Capture :=
  let opcode := payload.num 6 8
  let c := c.set "arp_opcode" (.int opcode)
  let c := c.set "src_ip" (.str (ipv4Text (payload.slice 14 18)))
  let c := c.set "dst_ip" (.str (ipv4Text (payload.slice 24 28)))
  let c := c.set "src_port" (.int 0)
  let c := c.set "dst_port" (.int 0)
  let c := c.set "arp_operation"
    (.str (ARP_OPERATIONS.nameOr opcode ("opcode " ++ toString opcode)))
  let c := c.set "arp_sender_mac" (.str (format_mac (payload.slice 8 14)))
  let c := c.set "arp_target_mac" (.str (format_mac (payload.slice 18 24)))
  c.set "arp_hardware_type" (.str (ARP_HW_TYPES.nameOrNumber (payload.num 0 2)))

def arpMismatch (rt : Runtime) (c : Capture) (sender_mac : String) : Capture :=
  let eth_src := rt.lower ((c.packet "eth_src").text rt)
  if eth_src ≠ "" ∧ sender_mac ≠ "" ∧ rt.lower sender_mac ≠ eth_src then
    c.set "arp_mac_mismatch" (.str (eth_src ++ " announces " ++ sender_mac))
  else c

namespace Sniffer

def bannerOrSummary (sn : Sniffer) (c : Capture) (payload : Bytes) : Capture :=
  let c := sn.readPayload c payload
  c.set "banner_text" ((c.packet "payload_text").orElse (c.packet "summary"))

def parse_arp (sn : Sniffer) (c : Capture) (payload : Bytes) : Capture :=
  let c := c.set "proto" (.str "arp")
  if payload.length < 28 then sn.shortBody c "ARP packet" payload
  else
    let sender_mac := format_mac (payload.slice 8 14)
    let c := arpMismatch sn.toRuntime (arpFields c payload) sender_mac
    let c := c.set "summary" (.str ("ARP " ++ sn.shown c "arp_operation" ++ " " ++
      sn.shown c "src_ip" ++ " (" ++ sender_mac ++ ") -> " ++ sn.shown c "dst_ip"))
    sn.bannerOrSummary c payload

def STP_MULTICAST_MAC : String := "01:80:c2:00:00:00"
def LLC_STP_HEADER : Bytes := [0x42, 0x42, 0x03]

def is_stp_bpdu (sn : Sniffer) (c : Capture) (payload : Bytes) : Bool :=
  sn.lower ((c.packet "eth_dst").text sn.toRuntime) = STP_MULTICAST_MAC &&
    payload.startswith LLC_STP_HEADER

def parse_stp (sn : Sniffer) (c : Capture) (payload : Bytes) : Capture :=
  let c := c.set "proto" (.str "stp")
  sn.bannerOrSummary (c.set "summary" (.str "STP BPDU")) payload

def nameLinkProtocol (sn : Sniffer) (c : Capture) (named : String) (payload : Bytes) : Capture :=
  let c := c.set "proto" (.str named)
  let c := c.set "summary" (.str (sn.upper named ++ " frame from " ++ sn.shown c "eth_src" ++
    " (" ++ toString payload.length ++ " bytes)"))
  sn.bannerPayload (apply_app_decoder c named payload) payload

def LLC_SAP_NAMES : Table :=
  [(0x00, "null"), (0x02, "llc-sublayer-mgmt"), (0x06, "ip"), (0x0E, "proway-nm"),
    (0x42, "stp"), (0x4E, "mms"), (0x7E, "x25"), (0x80, "xns"), (0x86, "nestar"),
    (0x8E, "proway"), (0x98, "arp"), (0xAA, "snap"), (0xBC, "vines"), (0xE0, "ipx"),
    (0xF0, "netbios"), (0xF4, "lan-mgmt"), (0xFE, "osi"), (0xFF, "ipx-raw")]

def parseSnap (sn : Sniffer) (c : Capture) (payload : Bytes) : Capture :=
  let oui : Bytes := payload.slice 3 6
  let snap_type := payload.num 6 8
  let body := payload.drop 8
  let c := c.set "llc_snap_oui" (.str (format_mac oui))
  let c := c.set "llc_snap_ethertype" (.int snap_type)
  let c := c.set "eth_type" (.int snap_type)
  if snap_type = ETHERTYPE_IPV4 then sn.parse_ipv4 c body
  else if snap_type = ETHERTYPE_IPV6 then sn.parse_ipv6 c body
  else if snap_type = ETHERTYPE_ARP then sn.parse_arp c body
  else match SNAP_PROTOCOLS.lookup (oui, snap_type) with
    | some named => sn.nameLinkProtocol c named body
    | none =>
      let c := c.set "proto" (.str "llc-snap")
      let c := c.set "summary" (.str ("IEEE 802.3 SNAP OUI " ++ format_mac oui ++ " EtherType " ++
        hexText 4 snap_type ++ " payload " ++ toString body.length ++ " bytes"))
      sn.bannerPayload c body

/-- `_parse_llc`: the 802.2 header behind an 802.3 length. -/
def parse_llc (sn : Sniffer) (c : Capture) (payload : Bytes) (declared_length : Nat) : Capture :=
  let c := c.set "llc_length" (.int declared_length)
  if payload.length < 3 then
    let c := c.set "proto" (.str "llc")
    sn.shortBody c ("IEEE 802.3 LLC (truncated, " ++ toString payload.length ++ " bytes)") payload
  else
    let dsap := payload.byte 0
    let ssap := payload.byte 1
    let control := payload.byte 2
    let c := c.set "llc_dsap" (.int dsap)
    let c := c.set "llc_ssap" (.int ssap)
    let c := c.set "llc_control" (.int control)
    if dsap = 0xAA ∧ ssap = 0xAA ∧ control = 0x03 ∧ 8 ≤ payload.length then
      sn.parseSnap c payload
    else
      let dsap_name := LLC_SAP_NAMES.name (dsap / 2 * 2)
      let c := c.set "proto" (.str (if dsap_name = "" then "llc" else "llc-" ++ dsap_name))
      let label := if dsap_name = "" then hexText 2 dsap else dsap_name
      let c := c.set "summary" (.str ("IEEE 802.3 LLC " ++ label ++ " DSAP " ++ hexText 2 dsap ++
        " SSAP " ++ hexText 2 ssap ++ " control " ++ hexText 2 control ++ " payload " ++
        toString (payload.length - 3) ++ " bytes"))
      let c := sn.readPayload c (payload.drop 3)
      c.set "banner_text" (c.packet "summary")

/-- The last branch of `parse_packet`: an EtherType without a parser. -/
def parseOtherType (sn : Sniffer) (c : Capture) (eth_type : Nat) (payload : Bytes) : Capture :=
  let named := ETHER_PROTOCOLS.name eth_type
  if named = "" then
    let c := c.set "summary" (.str ("EtherType " ++ hexText 4 eth_type ++ " payload " ++
      toString payload.length ++ " bytes"))
    sn.bannerPayload c payload
  else sn.nameLinkProtocol c named payload

/-! ## The guess before the Ethernet header -/

def headerSum (header : Bytes) : Nat := (hextets header).sum

/-- `while total > 0xFFFF: total = (total & 0xFFFF) + (total >> 16)`; the sum of a header is
below `2 ^ 32`, so that two rounds are enough. -/
def foldCarries : Nat → Nat → Nat
  | 0, total => total
  | fuel + 1, total =>
    if 0xFFFF < total then foldCarries fuel (total % 0x10000 + total / 0x10000) else total

def ipv4_checksum_is_valid (header : Bytes) : Bool :=
  20 ≤ header.length && header.length % 2 = 0 &&
    foldCarries header.length (headerSum header) = 0xFFFF

def looks_like_raw_ipv4 (data : Bytes) : Bool :=
  let header_length := data.byte 0 % 0x10 * 4
  let total_length := data.num 2 4
  20 ≤ data.length && data.byte 0 / 0x10 = 4 && 20 ≤ header_length &&
    header_length ≤ data.length && (total_length = 0 || header_length ≤ total_length) &&
    ipv4_checksum_is_valid (data.take header_length)

def looks_like_raw_ipv6 (data : Bytes) : Bool :=
  40 ≤ data.length && data.byte 0 / 0x10 = 6

/-! ## The whole frame -/

def direction_for (sn : Sniffer) (c : Capture) : String :=
  let src_ip := strip ((c.packet "src_ip").text sn.toRuntime)
  let dst_ip := strip ((c.packet "dst_ip").text sn.toRuntime)
  if src_ip ∈ sn.local_ips ∧ dst_ip ≠ "" ∧ dst_ip ∉ sn.local_ips then "outbound"
  else if dst_ip ∈ sn.local_ips ∧ src_ip ≠ "" ∧ src_ip ∉ sn.local_ips then "inbound"
  else if src_ip ∈ sn.local_ips ∧ dst_ip ∈ sn.local_ips then "local"
  else "unknown"

def finalize_packet (sn : Sniffer) (c : Capture) : Capture :=
  let address := fun ip mac => ((c.packet ip).orElse (c.packet mac)).orElse (.str "unknown")
  let flow_key := stable_flow_key sn.toRuntime ((c.packet "proto").orElse (.str "unknown"))
    (address "src_ip" "eth_src") ((c.packet "src_port").orElse (.int 0))
    (address "dst_ip" "eth_dst") ((c.packet "dst_port").orElse (.int 0))
  let c := c.set "flow_key" (.str flow_key)
  let c := c.set "direction" (.str (sn.direction_for c))
  let c := c.set "banner_text"
    (((c.packet "banner_text").orElse (c.packet "payload_text")).orElse (.str ""))
  let c := c.orSet "state" (.str "unknown")
  let c := c.orSet "payload_text" (.str "")
  let c := c.orSet "payload_hex" (.str "")
  sn.summaryOrFallback c

def stripVlan (data : Bytes) : Nat → Nat → Nat → Nat × Nat
  | 0, eth_type, offset => (eth_type, offset)
  | fuel + 1, eth_type, offset =>
    if eth_type ∈ ETHERTYPE_VLAN ∧ offset + 4 ≤ data.length then
      stripVlan data fuel (data.num (offset + 2) (offset + 4)) (offset + 4)
    else (eth_type, offset)

/-- The dispatch of `parse_packet` on the EtherType. -/
def parseEtherType (sn : Sniffer) (c : Capture) (eth_type : Nat) (payload : Bytes) : Capture :=
  if eth_type = ETHERTYPE_IPV4 then sn.parse_ipv4 c payload
  else if eth_type = ETHERTYPE_IPV6 then sn.parse_ipv6 c payload
  else if eth_type = ETHERTYPE_ARP then sn.parse_arp c payload
  else if sn.is_stp_bpdu c payload then sn.parse_stp c payload
  else if eth_type ≤ ETHERNET_MAX_PAYLOAD_LENGTH then sn.parse_llc c payload eth_type
  else sn.parseOtherType c eth_type payload

structure Captured where
  now : String
  interface : String
  data : Bytes

def newPacket (flows : List String) (captured : Captured) (payload : Bytes)
    (eth_src eth_dst : String) (eth_type : Nat) : Capture where
  packet := build_base_packet captured.now captured.interface captured.data payload eth_src
    eth_dst eth_type
  tls_flows := flows

/-- The Ethernet part of `parse_packet`. -/
def parseEthernet (sn : Sniffer) (flows : List String) (captured : Captured) : Capture :=
  let data := captured.data
  let (eth_type, offset) := stripVlan data data.length (data.num 12 14) 14
  let payload := data.drop offset
  let c := newPacket flows captured payload (format_mac (data.slice 6 12))
    (format_mac (data.slice 0 6)) eth_type
  sn.finalize_packet (sn.parseEtherType c eth_type payload)

/-- `parse_packet`, with the flow memory it starts from; `none` for a frame it gives up. -/
def parse_packet (sn : Sniffer) (flows : List String) (captured : Captured) : Option Capture :=
  let data := captured.data
  if data = [] then none
  else if looks_like_raw_ipv4 data then
    some (sn.finalize_packet
      (sn.parse_ipv4 (newPacket flows captured data "" "" ETHERTYPE_IPV4) data))
  else if looks_like_raw_ipv6 data then
    some (sn.finalize_packet
      (sn.parse_ipv6 (newPacket flows captured data "" "" ETHERTYPE_IPV6) data))
  else if data.length < 14 then none
  else some (sn.parseEthernet flows captured)

end Sniffer

end Sniff4Hound
