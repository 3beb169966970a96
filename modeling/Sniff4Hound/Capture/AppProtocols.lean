import Sniff4Hound.Capture.Bytes

/-!
# Application protocol identification

`app_protocols.py`: the tables of well-known numbers and the classifiers, signatures first
and ports second.
-/

namespace Sniff4Hound

abbrev Table := List (Nat × String)

/-- `table.get(key, "")`. -/
def Table.name (table : Table) (key : Nat) : String := (table.lookup key).getD ""

/-- `table.get(key, default)`. -/
def Table.nameOr (table : Table) (key : Nat) (default : String) : String :=
  (table.lookup key).getD default

def IP_PROTOCOLS : Table :=
  [(4, "ipip"), (8, "egp"), (33, "dccp"), (46, "rsvp"), (88, "eigrp"), (89, "ospf"),
    (103, "pim"), (112, "vrrp"), (115, "l2tp"), (136, "udplite")]

def ETHER_PROTOCOLS : Table :=
  [(0x88CC, "lldp"), (0x888E, "eapol"), (0x8863, "pppoe"), (0x8864, "pppoe"),
    (0x8847, "mpls"), (0x8892, "profinet"), (0x88A4, "ethercat"), (0x9000, "loop"),
    (0x0842, "wol")]

def OUI_CISCO : Bytes := [0x00, 0x00, 0x0C]

def SNAP_PROTOCOLS : List ((Bytes × Nat) × String) :=
  [((OUI_CISCO, 0x2000), "cdp"), ((OUI_CISCO, 0x2004), "dtp"), ((OUI_CISCO, 0x010B), "pvstp")]

def TCP_PORT_PROTOCOLS : Table :=
  [(21, "ftp"), (2121, "ftp"), (20, "ftp-data"), (22, "ssh"), (2222, "ssh"), (8022, "ssh"),
    (23, "telnet"), (2323, "telnet"), (25, "smtp"), (587, "smtp"), (2525, "smtp"),
    (465, "smtps"), (43, "whois"), (79, "finger"), (80, "http"), (8000, "http"),
    (8008, "http"), (8080, "http"), (8081, "http"), (8888, "http"), (88, "kerberos"),
    (110, "pop3"), (995, "pop3s"), (111, "rpcbind"), (119, "nntp"), (135, "msrpc"),
    (139, "smb"), (445, "smb"), (143, "imap"), (993, "imaps"), (179, "bgp"), (389, "ldap"),
    (3268, "ldap"), (443, "tls"), (8443, "tls"), (9443, "tls"), (636, "ldaps"),
    (3269, "ldaps"), (873, "rsync"), (1080, "socks"), (1433, "mssql"), (1521, "oracle"),
    (1723, "pptp"), (3128, "http-proxy"), (3306, "mysql"), (3307, "mysql"), (3389, "rdp"),
    (3390, "rdp"), (5060, "sip"), (5061, "sip"), (5222, "xmpp"), (5269, "xmpp"),
    (5432, "postgres"), (5433, "postgres"), (5672, "amqp"), (5900, "vnc"), (5901, "vnc"),
    (5902, "vnc"), (5903, "vnc"), (6379, "redis"), (6380, "redis"), (6667, "irc"),
    (6697, "irc"), (9200, "elasticsearch"), (9418, "git"), (11211, "memcached"),
    (27017, "mongodb"), (1883, "mqtt"), (8883, "mqtt"), (502, "modbus"), (20000, "dnp3"),
    (47808, "bacnet"), (102, "s7comm")]

def UDP_PORT_PROTOCOLS : Table :=
  [(53, "dns"), (67, "dhcp"), (68, "dhcp"), (546, "dhcpv6"), (547, "dhcpv6"), (69, "tftp"),
    (88, "kerberos"), (123, "ntp"), (137, "nbns"), (138, "nbdgm"), (161, "snmp"),
    (162, "snmp"), (177, "xdmcp"), (500, "isakmp"), (4500, "isakmp"), (514, "syslog"),
    (520, "rip"), (521, "rip"), (623, "ipmi"), (1194, "openvpn"), (1701, "l2tp"),
    (1812, "radius"), (1813, "radius"), (1900, "ssdp"), (3478, "stun"), (3479, "stun"),
    (4789, "vxlan"), (5060, "sip"), (5061, "sip"), (5353, "mdns"), (5355, "llmnr"),
    (6081, "geneve"), (5683, "coap"), (5684, "coap"), (51820, "wireguard"),
    (47808, "bacnet"), (443, "quic")]

def HTTP_PREFIXES : List Bytes :=
  ["GET ", "POST ", "HEAD ", "PUT ", "DELETE ", "OPTIONS ", "PATCH ", "TRACE ", "CONNECT ",
    "HTTP/"].map Bytes.ofText

def SSDP_PREFIXES : List Bytes :=
  ["M-SEARCH ", "NOTIFY ", "HTTP/1.1 200 OK\r\nCACHE-CONTROL"].map Bytes.ofText

def SIP_PREFIXES : List Bytes :=
  ["INVITE ", "REGISTER ", "SUBSCRIBE ", "BYE ", "CANCEL ", "ACK ", "OPTIONS sip:",
    "SIP/2.0"].map Bytes.ofText

/-- `_looks_like_tls`, and `_looks_like_tls_record` of `sniffer.py`. -/
def looks_like_tls (payload : Bytes) : Bool :=
  3 ≤ payload.length && payload.byte 0 ∈ [0x14, 0x15, 0x16, 0x17] && payload.byte 1 = 0x03 &&
    payload.byte 2 ≤ 0x04

def looks_like_quic (payload : Bytes) : Bool :=
  let version := payload.num 1 5
  5 ≤ payload.length && 0x80 ≤ payload.byte 0 && payload.byte 0 / 0x40 % 2 = 1 &&
    (version = 0 || version / 0x10000 ∈ [0x0000, 0x0001, 0xFF00, 0xFACE])

/-- `_port_protocol`: the destination is consulted first. -/
def port_protocol (table : Table) (src_port dst_port : Nat) : String :=
  let name := table.name dst_port
  if name ≠ "" then name else table.name src_port

def looks_like_telnet (payload : Bytes) : Bool :=
  payload.startswith [0xFF, 0xFB] || payload.startswith [0xFF, 0xFD] ||
    (payload.take 1 = [0xFF] && 4 ≤ payload.length &&
      payload.byte 1 ∈ [0xFB, 0xFC, 0xFD, 0xFE])

def looks_like_smb (payload : Bytes) : Bool :=
  let head : Bytes := payload.take 8
  head.containsBytes (0xFE :: Bytes.ofText "SMB") ||
    head.containsBytes (0xFF :: Bytes.ofText "SMB")

/-- The signatures of `classify_tcp`; "" when none is recognised. -/
def tcp_signature (data : Bytes) : String :=
  if data = [] then ""
  else if looks_like_tls data then "tls"
  else if data.startswith (Bytes.ofText "SSH-") then "ssh"
  else if data.startswithAny SIP_PREFIXES then "sip"
  else if data.startswithAny HTTP_PREFIXES then "http"
  else if data.startswith (Bytes.ofText "RFB ") then "vnc"
  else if looks_like_telnet data then "telnet"
  else if looks_like_smb data then "smb"
  else ""

def classify_tcp (src_port dst_port : Nat) (payload : Bytes) : String :=
  let signature := tcp_signature payload
  if signature ≠ "" then signature else port_protocol TCP_PORT_PROTOCOLS src_port dst_port

/-- The signatures of `classify_udp`. -/
def udp_signature (data : Bytes) : String :=
  if data = [] then ""
  else if data.startswithAny SSDP_PREFIXES then "ssdp"
  else if data.startswithAny SIP_PREFIXES then "sip"
  else if looks_like_quic data then "quic"
  else ""

def classify_udp (src_port dst_port : Nat) (payload : Bytes) : String :=
  let signature := udp_signature payload
  if signature ≠ "" then signature else port_protocol UDP_PORT_PROTOCOLS src_port dst_port

end Sniff4Hound
