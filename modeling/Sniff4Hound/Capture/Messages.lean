import Sniff4Hound.Capture.AppProtocols

/-!
# Messages inside payloads

The readers of `sniffer.py` that take a payload apart without a packet: the HTTP request
line, the server name of a TLS hello, DNS messages and NetBIOS names.
-/

namespace Sniff4Hound

/-! ## HTTP -/

/-- `str.split()`. -/
def wordsOf (s : String) : List String :=
  ((s.toList.splitOnP isSpace).filter (· ≠ [])).map String.ofList

def HTTP_REQUEST_METHODS : List String :=
  ["GET", "POST", "PUT", "DELETE", "HEAD", "OPTIONS", "PATCH", "CONNECT", "TRACE"]

def isDigit (c : Char) : Bool := '0' ≤ c && c ≤ '9'

/-- The word starts with `HTTP/d.d`, in any case. -/
def isHttpVersion (word : String) : Bool :=
  match word.toList with
  | h :: t₁ :: t₂ :: p :: '/' :: major :: '.' :: minor :: _ =>
    [h, t₁, t₂, p].map Char.toUpper = "HTTP".toList && isDigit major && isDigit minor
  | _ => false

/-- The value after `Host:`, which stands at the start or after a separator. The text has
been flattened, so that blanks are the only separators it holds. -/
def findHost : Bool → List Char → Option String
  | _, [] => none
  | boundary, c :: rest =>
    let here := if boundary && ((c :: rest).take 5).map Char.toLower = "host:".toList then
        let value := (((c :: rest).drop 5).dropWhile (· ∈ [' ', '\t'])).takeWhile
          (!· ∈ ['\r', '\n', ' '])
        if value = [] then none else some (strip (String.ofList value))
      else none
    match here with
    | some host => some host
    | none => findHost (c ∈ ['\r', '\n', ' ']) rest

def extract_http_request (text : String) : String × String × String :=
  match wordsOf text with
  | method :: path :: version :: _ =>
    let name := String.ofList (method.toList.map Char.toUpper)
    if name ∈ HTTP_REQUEST_METHODS && isHttpVersion version then
      (name, path, (findHost true text.toList).getD "")
    else ("", "", "")
  | _ => ("", "", "")

/-! ## TLS -/

/-- The walk over the extensions from `pos` to `stop`; the first server name ends it. -/
def sniExtensions (rt : Runtime) (payload : Bytes) (stop : Nat) : Nat → Nat → String
  | 0, _ => ""
  | fuel + 1, pos =>
    if stop < pos + 4 then ""
    else
      let ext_type := payload.num pos (pos + 2)
      let ext_len := payload.num (pos + 2) (pos + 4)
      let p := pos + 6
      if ext_type = 0 ∧ p ≤ stop then
        let name_len := payload.num (p + 1) (p + 3)
        let name := payload.slice (p + 3) (p + 3 + name_len)
        if p + 3 ≤ stop ∧ payload.byte p = 0 ∧ p + 3 + name_len ≤ stop ∧ name.isascii then
          rt.lower (strip name.asciiReplace)
        else ""
      else sniExtensions rt payload stop fuel (pos + 4 + ext_len)

def extract_tls_sni (rt : Runtime) (payload : Bytes) : String :=
  if payload.length < 44 ∨ payload.byte 0 ≠ 0x16 ∨ payload.byte 5 ≠ 0x01 then ""
  else
    let afterSession := 44 + payload.byte 43
    if payload.length < afterSession + 2 then ""
    else
      let afterCiphers := afterSession + 2 + payload.num afterSession (afterSession + 2)
      if payload.length ≤ afterCiphers then ""
      else
        let afterCompression := afterCiphers + 1 + payload.byte afterCiphers
        if payload.length < afterCompression + 2 then ""
        else
          let pos := afterCompression + 2
          let total := payload.num afterCompression pos
          sniExtensions rt payload (min (pos + total) payload.length) payload.length pos

/-! ## DNS -/

def DNS_QTYPE_NAMES : Table :=
  [(1, "A"), (2, "NS"), (5, "CNAME"), (6, "SOA"), (12, "PTR"), (15, "MX"), (16, "TXT"),
    (28, "AAAA"), (33, "SRV"), (255, "ANY")]

def DNS_RCODE_NAMES : Table :=
  [(0, "NOERROR"), (1, "FORMERR"), (2, "SERVFAIL"), (3, "NXDOMAIN"), (4, "NOTIMP"),
    (5, "REFUSED")]

/-- `table.get(key, str(key))`. -/
def Table.nameOrNumber (table : Table) (key : Nat) : String :=
  table.nameOr key (toString key)

def MAX_JUMPS : Nat := 20

/-- The loop of `_read_dns_name`: the labels and the offset to go on from. -/
def readDnsLabels (payload : Bytes) :
    Nat → Nat → List Bytes → Nat → Option Nat → List Bytes × Nat
  | 0, pos, labels, _, resume_at => (labels, resume_at.getD pos)
  | fuel + 1, pos, labels, jumps, resume_at =>
    if payload.length ≤ pos then (labels, resume_at.getD pos)
    else
      let length := payload.byte pos
      if length = 0 then (labels, resume_at.getD (pos + 1))
      else if 0xC0 ≤ length then
        if payload.length ≤ pos + 1 then (labels, resume_at.getD pos)
        else
          let pointer := 256 * (length % 0x40) + payload.byte (pos + 1)
          let resume := resume_at.getD (pos + 2)
          if MAX_JUMPS < jumps + 1 ∨ payload.length ≤ pointer ∨ pointer = pos then
            (labels, resume)
          else readDnsLabels payload fuel pointer labels (jumps + 1) (some resume)
      else if payload.length < pos + 1 + length then (labels, resume_at.getD (pos + 1))
      else
        let next := pos + 1 + length
        let more := labels ++ [payload.slice (pos + 1) next]
        if 128 < more.length then (more, resume_at.getD next)
        else readDnsLabels payload fuel next more jumps resume_at

def stripDots (s : String) : String :=
  String.ofList ((s.toList.dropWhile (· = '.')).reverse.dropWhile (· = '.')).reverse

/-- `_read_dns_name`. Between two jumps the position only grows, so that the fuel is enough
for every jump that is allowed. -/
def read_dns_name (rt : Runtime) (payload : Bytes) (offset : Nat) : String × Nat :=
  let fuel := (MAX_JUMPS + 1) * (payload.length + 2)
  let (labels, resume_at) := readDnsLabels payload fuel offset [] 0 none
  (rt.lower (stripDots (join "." (labels.map Bytes.latin1))), resume_at)

def txtStrings (rdata : Bytes) : Nat → Nat → List String
  | 0, _ => []
  | fuel + 1, pos =>
    if rdata.length ≤ pos then []
    else
      let next := pos + 1 + rdata.byte pos
      (rdata.slice (pos + 1) next).asciiReplace :: txtStrings rdata fuel next

def dns_rdata_preview (rt : Runtime) (rtype : Nat) (rdata full_payload : Bytes)
    (rdata_offset : Nat) : String :=
  if rtype = 1 ∧ rdata.length = 4 then ipv4Text rdata
  else if rtype = 28 ∧ rdata.length = 16 then ipv6Text rdata
  else if rtype ∈ [2, 5, 12] then (read_dns_name rt full_payload rdata_offset).1
  else if rtype = 16 then join " " (txtStrings rdata rdata.length 0)
  else slice rdata.hex 64

structure DnsQuestion where
  name : String
  qtype : Nat
  qclass : Nat
deriving DecidableEq

structure DnsAnswer where
  name : String
  qtype : Nat
  ttl : Nat
  rdata : String
deriving DecidableEq

structure DnsMessage where
  is_response : Bool := false
  rcode : Nat := 0
  questions : List DnsQuestion := []
  answers : List DnsAnswer := []
deriving DecidableEq

def readQuestions (rt : Runtime) (payload : Bytes) : Nat → Nat → List DnsQuestion × Nat
  | 0, offset => ([], offset)
  | count + 1, offset =>
    if payload.length ≤ offset then ([], offset)
    else
      let (name, next) := read_dns_name rt payload offset
      if payload.length < next + 4 then ([], next)
      else
        let question : DnsQuestion :=
          ⟨name, payload.num next (next + 2), payload.num (next + 2) (next + 4)⟩
        let (rest, last) := readQuestions rt payload count (next + 4)
        (question :: rest, last)

def readAnswers (rt : Runtime) (payload : Bytes) : Nat → Nat → List DnsAnswer
  | 0, _ => []
  | count + 1, offset =>
    if payload.length ≤ offset then []
    else
      let (name, next) := read_dns_name rt payload offset
      if payload.length < next + 10 then []
      else
        let rtype := payload.num next (next + 2)
        let ttl := payload.num (next + 4) (next + 8)
        let rdlength := payload.num (next + 8) (next + 10)
        let start := next + 10
        let rdata : Bytes := if start + rdlength ≤ payload.length then
          payload.slice start (start + rdlength) else []
        ⟨name, rtype, ttl, dns_rdata_preview rt rtype rdata payload start⟩ ::
          readAnswers rt payload count (start + rdlength)

def parse_dns_message (rt : Runtime) (payload : Bytes) : DnsMessage :=
  if payload.length < 12 then {}
  else
    let flags := payload.num 2 4
    let (questions, offset) := readQuestions rt payload (min (payload.num 4 6) 32) 12
    { is_response := decide (0x8000 ≤ flags)
      rcode := flags % 0x10
      questions := questions
      answers := readAnswers rt payload (min (payload.num 6 8) 32) offset }

def dns_message_summary (label : String) (parsed : DnsMessage) : String :=
  let base := match parsed.questions with
    | question :: _ =>
      let kind := if parsed.is_response then "response" else "query"
      join " " [label, kind, question.name, DNS_QTYPE_NAMES.nameOrNumber question.qtype]
    | [] => label ++ " message"
  if parsed.is_response then
    let answered := match parsed.answers with
      | answer :: _ => base ++ " -> " ++ answer.rdata
      | [] => base
    if parsed.rcode = 0 then answered
    else answered ++ " [" ++ DNS_RCODE_NAMES.nameOrNumber parsed.rcode ++ "]"
  else base

/-! ## NetBIOS -/

/-- Characters from pairs of half-ASCII nibbles; `none` when one is out of range. -/
def nbnsChars : Bytes → Option (List Char)
  | hi :: lo :: rest =>
    if 0x41 ≤ hi.toNat ∧ hi.toNat ≤ 0x50 ∧ 0x41 ≤ lo.toNat ∧ lo.toNat ≤ 0x50 then
      (nbnsChars rest).map fun chars =>
        Char.ofNat (16 * (hi.toNat - 0x41) + (lo.toNat - 0x41)) :: chars
    else none
  | _ => some []

def decode_nbns_name (encoded : Bytes) : String :=
  if encoded.length ≠ 32 then ""
  else match nbnsChars encoded with
    | none => ""
    | some chars =>
      rstrip (String.ofList (chars.reverse.dropWhile (· = Char.ofNat 0)).reverse)

end Sniff4Hound
