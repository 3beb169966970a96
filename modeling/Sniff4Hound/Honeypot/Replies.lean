import Sniff4Hound.Capture.Bytes

/-!
# Replies to datagrams

The reply builders of `honeypot.py` that a datagram reaches. Where the code may raise an exception, the
result is an `Except`.
-/

namespace Sniff4Hound.Honeypot

inductive Raised
  | keyError
  | overflowError
  | storeError
deriving DecidableEq

/-- `text.encode("utf-8")`. -/
def encode (text : String) : Bytes := text.toUTF8.data.toList

def bigEndian : Nat → Nat → Bytes
  | 0, _ => []
  | width + 1, n => bigEndian width (n / 256) ++ [UInt8.ofNat n]

/-- `n.to_bytes(width, "big")`. -/
def to_bytes (width n : Nat) : Except Raised Bytes :=
  if n < 256 ^ width then .ok (bigEndian width n) else .error .overflowError

/-! ## Banners -/

inductive Banner
  | text (s : String)
  | bytes (data : Bytes)

def Banner.encode : Banner → Bytes
  | .text s => Honeypot.encode s
  | .bytes data => data

def DNS_BANNER : Bytes := [0, 0, 0x81, 0x80, 0, 1, 0, 1, 0, 0, 0, 0]
def MDNS_BANNER : Bytes := [0, 0, 0x84, 0, 0, 0, 0, 1, 0, 0, 0, 0]

def UDP_BANNERS : List (Nat × Banner) :=
  [(53, .bytes DNS_BANNER), (67, .text "DHCP Service"), (68, .text "DHCP Client"),
    (69, .text "TFTP Server"), (123, .text "NTPv4 Server"), (137, .text "NetBIOS Name Service"),
    (138, .text "NetBIOS Datagram Service"), (161, .text "public\nSNMPv1 Server"),
    (500, .text "ISAKMP Response"), (514, .text "<13>syslog accepted"),
    (520, .text "RIP Response"), (1812, .text "RADIUS Access-Reject"),
    (1813, .text "RADIUS Accounting-Response"), (4500, .text "IKEv2 Response"),
    (1900, .text
      "HTTP/1.1 200 OK\r\nCACHE-CONTROL: max-age=1800\r\nSERVER: UPnP/1.0 Portable SDK\r\n\r\n"),
    (5060, .text "SIP/2.0 200 OK\r\nServer: Asterisk PBX 18.9.0\r\n\r\n"),
    (5353, .bytes MDNS_BANNER), (11211, .text "STAT version 1.6.9\r\nEND\r\n")]

/-- `UDP_BANNERS[port]`, which is a text where it is looked up so. -/
def udpBanner (port : Nat) : Except Raised Bytes :=
  match UDP_BANNERS.lookup port with
  | none => .error .keyError
  | some banner => .ok banner.encode

def DNS_UDP_PORTS : List Nat := [53]
def NTP_UDP_PORTS : List Nat := [123]
def SNMP_UDP_PORTS : List Nat := [161, 162]
def SYSLOG_UDP_PORTS : List Nat := [514]
def RADIUS_UDP_PORTS : List Nat := [1645, 1646, 1812, 1813]
def SIP_UDP_PORTS : List Nat := [5060, 5061]
def MDNS_UDP_PORTS : List Nat := [5353, 5355]

/-! ## Domain names -/

/-- The loop of `_decode_dns_name`; `none` is its `ValueError`. -/
def decodeNameFrom (packet : Bytes) (labels : List String) (idx next_idx : Nat) (jumped : Bool)
    (jumps : Nat) : Option (List String × Nat) :=
  if hIdx : idx < packet.length then
    let length := packet.byte idx
    if length = 0 then some (labels, if jumped then next_idx else idx + 1)
    else if length &&& 0xC0 = 0xC0 then
      if idx + 1 ≥ packet.length then none
      else
        let pointer := ((length &&& 0x3F) <<< 8) ||| packet.byte (idx + 1)
        if pointer ≥ packet.length then none
        else if hJumps : jumps + 1 > 20 then none
        else decodeNameFrom packet labels pointer (if jumped then next_idx else idx + 2) true
          (jumps + 1)
    else if length > 63 then none
    else if idx + 1 + length > packet.length then none
    else decodeNameFrom packet (labels ++ [(packet.slice (idx + 1) (idx + 1 + length)).utf8Replace])
      (idx + 1 + length) next_idx jumped jumps
  else none
termination_by (20 - jumps, packet.length - idx)
decreasing_by
  · exact Prod.Lex.left _ _ (by omega)
  · exact Prod.Lex.right _ (by omega)

def decode_dns_name (packet : Bytes) (start_idx : Nat) : Option (String × Nat) :=
  (decodeNameFrom packet [] start_idx start_idx false 0).map fun (labels, next_idx) =>
    (if labels = [] then "." else join "." labels, next_idx)

structure DnsQuestion where
  domain : String
  qtype : Nat
  qclass : Nat
  name_offset : Nat
  wire : Bytes

/-- The loop of `_parse_dns_questions`, with the rounds that are left. -/
def questionsFrom (query : Bytes) : Nat → Nat → List DnsQuestion
  | 0, _ => []
  | rounds + 1, idx =>
    if idx ≥ query.length then []
    else
      match decode_dns_name query idx with
      | none => []
      | some (domain, name_end) =>
        if name_end + 4 > query.length then []
        else
          ⟨domain, query.num name_end (name_end + 2), query.num (name_end + 2) (name_end + 4),
            idx, query.slice idx (name_end + 4)⟩ :: questionsFrom query rounds (name_end + 4)

def parse_dns_questions (query : Bytes) : List DnsQuestion :=
  if query.length < 12 then [] else questionsFrom query (query.num 4 6) 12

/-- `_normalize_dns_response_ip`; `inet_aton` has no result where it raises. -/
def normalize_dns_response_ip (inet_aton : String → Option Bytes) (response_ip : String) : Bytes :=
  (inet_aton response_ip).getD [127, 0, 0, 1]

/-- One answer of `_build_dns_response`. -/
def dnsAnswer (ip_bytes : Bytes) (question : DnsQuestion) : Except Raised Bytes := do
  let name_ptr ← to_bytes 2 (0xC000 ||| question.name_offset)
  return name_ptr ++ [0, 1, 0, 1] ++ [0, 0, 0, 60] ++ [0, 4] ++ ip_bytes

def build_dns_response (inet_aton : String → Option Bytes) (query : Bytes) (response_ip : String) :
    Except Raised (Bytes × List DnsQuestion) :=
  if query.length < 12 then .ok (DNS_BANNER, [])
  else
    let questions := parse_dns_questions query
    if questions = [] then .ok (query.take 2 ++ [0x81, 0x82] ++ [0, 0, 0, 0, 0, 0, 0, 0], [])
    else do
      let answers ← questions.mapM (dnsAnswer (normalize_dns_response_ip inet_aton response_ip))
      let asked ← to_bytes 2 questions.length
      let answered ← to_bytes 2 answers.length
      return (query.take 2 ++ [0x81, 0x80] ++ asked ++ answered ++ [0, 0, 0, 0] ++
        (questions.map DnsQuestion.wire).flatten ++ answers.flatten, questions)

/-! ## Time and sessions -/

/-- `_build_ntp_response`, `seconds` after the beginning of 1900. -/
def build_ntp_response (request_data : Bytes) (seconds : Nat) : Except Raised Bytes := do
  let timestamp := (← to_bytes 4 seconds) ++ [0, 0, 0, 0]
  let origin := if request_data.length ≥ 48 then request_data.slice 40 48 else List.replicate 8 0
  return [0x24, 1, 6, 0xEC] ++ List.replicate 20 0 ++ origin ++ timestamp ++ timestamp

/-- `text.split("\r\n")`. -/
def splitLines : List Char → List (List Char)
  | [] => [[]]
  | '\r' :: '\n' :: rest => [] :: splitLines rest
  | c :: rest =>
    match splitLines rest with
    | [] => [[c]]
    | line :: lines => (c :: line) :: lines

def headersOf (rt : Runtime) (text : String) : List (String × String) :=
  ((splitLines text.toList).drop 1).foldl (fun headers line =>
    match splitAtMost ':' 1 line with
    | [key, value] => (rt.lower (strip key), strip value) :: headers
    | _ => headers) []

structure Address where
  ip : String
  port : Nat
deriving DecidableEq

def build_sip_response (rt : Runtime) (request_data : Bytes) (addr : Address) : Bytes :=
  let headers := headersOf rt request_data.utf8Replace
  let header (name default : String) : String := (headers.lookup name).getD default
  encode (join "" [
    "SIP/2.0 200 OK\r\n",
    "Via: ", header "via" (join "" ["SIP/2.0/UDP ", addr.ip, ":", toString addr.port,
      ";branch=z9hG4bK-524287"]), "\r\n",
    "From: ", header "from" "<sip:scanner@example.net>", "\r\n",
    "To: ", header "to" "<sip:service@example.net>", ";tag=as5f3a2c1\r\n",
    "Call-ID: ", header "call-id" "call-000001", "\r\n",
    "CSeq: ", header "cseq" "1 OPTIONS", "\r\n",
    "Server: Asterisk PBX 18.9.0\r\n",
    "Content-Length: 0\r\n\r\n"])

def SNMP_RESPONSE : Bytes :=
  [0x30, 0x29, 0x02, 0x01, 0x01, 0x04, 0x06] ++ Bytes.ofText "public" ++
    [0xa2, 0x1c, 0x02, 0x04, 0, 0, 0, 1, 0x02, 0x01, 0, 0x02, 0x01, 0, 0x30, 0x0e, 0x30, 0x0c,
      0x06, 0x08, 0x2b, 0x06, 0x01, 0x02, 0x01, 0x01, 0x01, 0, 0x05, 0]

end Sniff4Hound.Honeypot
