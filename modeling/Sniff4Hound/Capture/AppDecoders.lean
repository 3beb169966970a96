import Sniff4Hound.Capture.Messages

/-!
# Content decoders

`app_decoders.py`: from the first bytes of a payload a summary line and named fields. A
decoder gives no field when the payload does not look like its protocol.
-/

namespace Sniff4Hound

abbrev Fields := List (String × Value)

/-- `parts[i] if len(parts) > i else ""`. -/
def partOr (parts : List String) (i : Nat) : String := parts.getD i ""

def asciiUpper (s : String) : String := String.ofList (s.toList.map Char.toUpper)

def CRLF : Bytes := [0x0D, 0x0A]

def ascii_line (payload : Bytes) : String :=
  let stop := min ((payload.find CRLF 0).getD payload.length)
    ((payload.find [0x0A] 0).getD payload.length)
  strip (bytes_to_text_preview (payload.take stop) 200)

def header_value (payload : Bytes) (name : String) : String :=
  let lowered := Bytes.lower (payload.take 2048)
  let needle := CRLF ++ Bytes.lower (Bytes.ofText (name ++ ":"))
  let start := match lowered.find needle 0 with
    | some index => some (index + needle.length)
    | none => if lowered.startswith (Bytes.lower (Bytes.ofText (name ++ ":"))) then
        some (name.length + 1) else none
  match start with
  | none => ""
  | some start =>
    let stop := (payload.find CRLF start).getD (min payload.length (start + 120))
    strip (bytes_to_text_preview (payload.slice start stop) 120)

/-! ## Text protocols -/

def TLS_RECORD_TYPES : Table :=
  [(0x14, "change-cipher-spec"), (0x15, "alert"), (0x16, "handshake"),
    (0x17, "application-data")]

def TLS_HANDSHAKE_TYPES : Table :=
  [(1, "client-hello"), (2, "server-hello"), (4, "new-session-ticket"), (11, "certificate"),
    (12, "server-key-exchange"), (13, "certificate-request"), (14, "server-hello-done"),
    (15, "certificate-verify"), (16, "client-key-exchange"), (20, "finished")]

def TLS_VERSIONS : Table :=
  [(0x0301, "TLS 1.0"), (0x0302, "TLS 1.1"), (0x0303, "TLS 1.2"), (0x0304, "TLS 1.3"),
    (0x0300, "SSL 3.0")]

/-- `table.get(key, f"{kind}-{key}")`. -/
def Table.nameOrCode (table : Table) (kind : String) (key : Nat) : String :=
  table.nameOr key (kind ++ "-" ++ toString key)

def decode_tls (payload : Bytes) : Fields :=
  if payload.length < 5 ∨ TLS_RECORD_TYPES.name (payload.byte 0) = "" ∨
      payload.byte 1 ≠ 0x03 then []
  else
    let record := TLS_RECORD_TYPES.name (payload.byte 0)
    let version := TLS_VERSIONS.name (payload.num 1 3)
    let fields : Fields := [("tls_record", .str record), ("tls_version", .str version)]
    if payload.byte 0 = 0x16 ∧ 6 ≤ payload.length then
      let handshake := TLS_HANDSHAKE_TYPES.nameOrCode "type" (payload.byte 5)
      let label := if version ≠ "" ∧ payload.byte 5 ≠ 1 then version ++ " " ++ handshake
        else "TLS " ++ handshake
      fields ++ [("tls_handshake", .str handshake), ("summary", .str label)]
    else
      let name := if version = "" then "TLS" else version
      fields ++ [("summary", .str (strip (name ++ " " ++ record)))]

def decode_ssh (payload : Bytes) : Fields :=
  if !payload.startswith (Bytes.ofText "SSH-") then []
  else
    let banner := ascii_line payload
    let parts := splitAtMost '-' 2 banner.toList
    [("ssh_version", .str (partOr parts 1)), ("ssh_software", .str (partOr parts 2)),
      ("summary", .str ("SSH " ++ banner)), ("banner_text", .str banner)]

def HTTP_METHODS : List String :=
  ["GET", "POST", "HEAD", "PUT", "DELETE", "OPTIONS", "PATCH", "TRACE", "CONNECT"]

/-- `s.isdigit()` for ASCII text. -/
def allDigits (s : String) : Bool := s ≠ "" && s.toList.all isDigit

def decode_http (payload : Bytes) : Fields :=
  let line := ascii_line payload
  let parts := splitAtMost ' ' 2 line.toList
  if payload.startswith (Bytes.ofText "HTTP/") then
    let status := if allDigits (partOr parts 1) then partOr parts 1 else ""
    [("http_status", .str status), ("http_server", .str (header_value payload "Server")),
      ("summary", .str ("HTTP response " ++ line))]
  else if !HTTP_METHODS.any (fun m => payload.startswith (Bytes.ofText (m ++ " "))) then []
  else
    [("http_method", .str (partOr parts 0)), ("http_path", .str (partOr parts 1)),
      ("http_host", .str (header_value payload "Host")),
      ("http_user_agent", .str (header_value payload "User-Agent")),
      ("summary", .str ("HTTP " ++ line))]

/-- `_decode_line_protocol`; `key` is the label in lower case. -/
def decode_line_protocol (label key : String) (payload : Bytes) : Fields :=
  let line := ascii_line payload
  if line = "" then []
  else
    let token := partOr (splitAtMost ' ' 1 line.toList) 0
    let digits := token.toList.takeWhile isDigit
    let after := (token.toList.drop digits.length).take 1
    let named : String × Value :=
      if digits ≠ [] ∧ after ∈ [[], ['-'], ['+']] then
        (key ++ "_status", .str (String.ofList digits))
      else (key ++ "_command", .str (asciiUpper token))
    [("summary", .str (label ++ " " ++ line)), ("banner_text", .str line), named]

def decode_ftp : Bytes → Fields := decode_line_protocol "FTP" "ftp"
def decode_smtp : Bytes → Fields := decode_line_protocol "SMTP" "smtp"
def decode_pop3 : Bytes → Fields := decode_line_protocol "POP3" "pop3"
def decode_imap : Bytes → Fields := decode_line_protocol "IMAP" "imap"
def decode_irc : Bytes → Fields := decode_line_protocol "IRC" "irc"
def decode_nntp : Bytes → Fields := decode_line_protocol "NNTP" "nntp"

/-- `text.replace("\\r\\n", " ")`: the four characters, not a line break. -/
def blankEscapes : List Char → List Char
  | '\\' :: 'r' :: '\\' :: 'n' :: rest => ' ' :: blankEscapes rest
  | c :: rest => c :: blankEscapes rest
  | [] => []

def isLetter (c : Char) : Bool := ('a' ≤ c && c ≤ 'z') || ('A' ≤ c && c ≤ 'Z')

def decode_redis (payload : Bytes) : Fields :=
  if !payload.startswithAny (["*", "+", "-", "$", ":"].map Bytes.ofText) then []
  else
    let text := bytes_to_text_preview (payload.take 160) 160
    let chunks := wordsOf (String.ofList (blankEscapes text.toList))
    let isName := fun chunk : String => 2 < chunk.length && chunk.toList.all isLetter
    let command := match chunks.find? isName with
      | some chunk => asciiUpper chunk
      | none => ""
    [("redis_command", .str command),
      ("summary", .str ("Redis " ++ if command = "" then "command" else command))]

def decode_sip (payload : Bytes) : Fields :=
  let line := ascii_line payload
  if line = "" then []
  else
    [("sip_method", .str (partOr (splitAtMost ' ' 1 line.toList) 0)),
      ("sip_from", .str (header_value payload "From")),
      ("sip_to", .str (header_value payload "To")), ("summary", .str ("SIP " ++ line))]

def decode_ssdp (payload : Bytes) : Fields :=
  let line := ascii_line payload
  if line = "" then []
  else
    let method := partOr (splitAtMost ' ' 1 line.toList) 0
    let searched := header_value payload "ST"
    let target := if searched = "" then header_value payload "NT" else searched
    [("ssdp_method", .str method), ("ssdp_target", .str target),
      ("summary", .str ("SSDP " ++ method ++ if target = "" then "" else " for " ++ target))]

/-! ## Binary protocols -/

def NTP_MODES : Table :=
  [(0, "reserved"), (1, "symmetric-active"), (2, "symmetric-passive"), (3, "client"),
    (4, "server"), (5, "broadcast"), (6, "control"), (7, "private")]

def decode_ntp (payload : Bytes) : Fields :=
  if payload.length < 4 then []
  else
    let flags := payload.byte 0
    let mode := NTP_MODES.nameOr (flags % 8) "unknown"
    let version := flags / 8 % 8
    let stratum := payload.byte 1
    let fields : Fields :=
      [("ntp_mode", .str mode), ("ntp_version", .int version), ("ntp_stratum", .int stratum)]
    if flags % 8 = 7 then
      fields ++ [("summary", .str "NTP private/monlist request (amplification vector)"),
        ("ntp_amplification_candidate", .bool true)]
    else
      fields ++ [("summary", .str (join " " ["NTP", "v" ++ toString version, mode, "stratum",
        toString stratum]))]

def BGP_MESSAGE_TYPES : Table :=
  [(1, "OPEN"), (2, "UPDATE"), (3, "NOTIFICATION"), (4, "KEEPALIVE"), (5, "ROUTE-REFRESH")]

def decode_bgp (payload : Bytes) : Fields :=
  if payload.length < 19 ∨ payload.take 16 ≠ List.replicate 16 0xFF then []
  else
    let kind := BGP_MESSAGE_TYPES.nameOrCode "type" (payload.byte 18)
    [("bgp_message", .str kind), ("summary", .str ("BGP " ++ kind))]

def KERBEROS_MESSAGE_TYPES : Table :=
  [(10, "AS-REQ"), (11, "AS-REP"), (12, "TGS-REQ"), (13, "TGS-REP"), (14, "AP-REQ"),
    (15, "AP-REP"), (30, "KRB-ERROR")]

def decode_kerberos (payload : Bytes) : Fields :=
  let kind := KERBEROS_MESSAGE_TYPES.name (payload.byte 0 % 0x20)
  if payload = [] ∨ payload.byte 0 / 0x20 ≠ 3 ∨ kind = "" then []
  else [("kerberos_message", .str kind), ("summary", .str ("Kerberos " ++ kind))]

def LDAP_OPERATIONS : Table :=
  [(0, "bind-request"), (1, "bind-response"), (2, "unbind-request"), (3, "search-request"),
    (4, "search-entry"), (5, "search-done"), (6, "modify-request"), (8, "add-request"),
    (10, "delete-request"), (16, "abandon-request"), (23, "extended-request")]

def decode_ldap (payload : Bytes) : Fields :=
  if payload.length < 7 ∨ payload.byte 0 ≠ 0x30 then []
  else
    let offset := if 0x80 ≤ payload.byte 1 then 2 + payload.byte 1 % 0x80 else 2
    if payload.length < offset + 2 ∨ payload.byte offset ≠ 0x02 then []
    else
      let inner := offset + 2 + payload.byte (offset + 1)
      let operation := LDAP_OPERATIONS.name (payload.byte inner % 0x20)
      if payload.length ≤ inner ∨ operation = "" then []
      else [("ldap_operation", .str operation), ("summary", .str ("LDAP " ++ operation))]

def SMB2_COMMANDS : Table :=
  [(0, "NEGOTIATE"), (1, "SESSION_SETUP"), (2, "LOGOFF"), (3, "TREE_CONNECT"),
    (4, "TREE_DISCONNECT"), (5, "CREATE"), (6, "CLOSE"), (8, "READ"), (9, "WRITE"),
    (14, "QUERY_DIRECTORY"), (16, "QUERY_INFO")]

def decodeSmbAt (payload : Bytes) (start : Nat) : Fields :=
  let head : Bytes := payload.slice start (start + 4)
  if head = 0xFE :: Bytes.ofText "SMB" ∧ start + 16 ≤ payload.length then
    let command := (payload.slice (start + 12) (start + 14)).little
    let name := SMB2_COMMANDS.nameOrCode "command" command
    [("smb_version", .str "SMB2"), ("smb_command", .str name),
      ("summary", .str ("SMB2 " ++ name))]
  else if head = 0xFF :: Bytes.ofText "SMB" then
    [("smb_version", .str "SMB1"), ("summary", .str "SMB1 (legacy dialect)")]
  else []

def decode_smb (payload : Bytes) : Fields :=
  let direct := decodeSmbAt payload 0
  if direct.isEmpty then decodeSmbAt payload 4 else direct

def decode_quic (payload : Bytes) : Fields :=
  if payload.length < 5 ∨ payload.byte 0 < 0x80 then []
  else
    let version := payload.num 1 5
    if version = 0 then
      [("quic_version", .str "negotiation"), ("summary", .str "QUIC version negotiation")]
    else
      let kind := partOr ["initial", "0-RTT", "handshake", "retry"] (payload.byte 0 / 0x10 % 4)
      [("quic_version", .str (hexText 8 version)), ("quic_packet", .str kind),
        ("summary", .str ("QUIC " ++ kind))]

def STUN_METHODS : Table :=
  [(0x0001, "binding-request"), (0x0101, "binding-response"), (0x0111, "binding-error")]

def decode_stun (payload : Bytes) : Fields :=
  if payload.length < 20 ∨ payload.slice 4 8 ≠ [0x21, 0x12, 0xA4, 0x42] then []
  else
    let method := STUN_METHODS.nameOr (payload.num 0 2) "message"
    [("stun_method", .str method), ("summary", .str ("STUN " ++ method))]

def ISAKMP_EXCHANGES : Table :=
  [(2, "identity-protection"), (4, "aggressive"), (5, "informational"), (34, "IKE_SA_INIT"),
    (35, "IKE_AUTH"), (36, "CREATE_CHILD_SA"), (37, "INFORMATIONAL")]

def decode_isakmp (payload : Bytes) : Fields :=
  if payload.length < 28 then []
  else
    let exchange := ISAKMP_EXCHANGES.nameOrCode "exchange" (payload.byte 18)
    let major := toString (payload.byte 17 / 0x10)
    [("isakmp_exchange", .str exchange),
      ("isakmp_version", .str (major ++ "." ++ toString (payload.byte 17 % 0x10))),
      ("summary", .str ("ISAKMP/IKEv" ++ major ++ " " ++ exchange))]

def WIREGUARD_TYPES : Table :=
  [(1, "handshake-initiation"), (2, "handshake-response"), (3, "cookie-reply"),
    (4, "transport-data")]

def decode_wireguard (payload : Bytes) : Fields :=
  let kind := WIREGUARD_TYPES.name (payload.byte 0)
  if payload.length < 4 ∨ payload.slice 1 4 ≠ [0, 0, 0] ∨ kind = "" then []
  else [("wireguard_message", .str kind), ("summary", .str ("WireGuard " ++ kind))]

def decode_vxlan (payload : Bytes) : Fields :=
  if payload.length < 8 ∨ payload.byte 0 / 8 % 2 = 0 then []
  else
    let vni := payload.num 4 7
    [("vxlan_vni", .int vni), ("summary", .str ("VXLAN VNI " ++ toString vni))]

/-! ## Link-layer discovery -/

/-- The loop of `decode_lldp` over the type-length-value entries. -/
def lldpEntries (payload : Bytes) : Nat → Nat → Fields → Fields
  | 0, _, fields => fields
  | fuel + 1, offset, fields =>
    if payload.length < offset + 2 then fields
    else
      let tlv_type := payload.num offset (offset + 2) / 0x200
      let length := payload.num offset (offset + 2) % 0x200
      let start := offset + 2
      if tlv_type = 0 ∨ payload.length < start + length then fields
      else
        let value := payload.slice start (start + length)
        let more : Fields :=
          if tlv_type = 5 then
            Dict.set fields "lldp_system_name" (.str (bytes_to_text_preview value 80))
          else if tlv_type = 4 then
            Dict.set fields "lldp_port_description" (.str (bytes_to_text_preview value 80))
          else if tlv_type = 2 ∧ 1 < value.length then
            Dict.set fields "lldp_port_id" (.str (bytes_to_text_preview (value.drop 1) 60))
          else fields
        lldpEntries payload fuel (start + length) more

/-- `fields.get(key) or default`. -/
def fieldOr (fields : Fields) (key default : String) : String :=
  match fields.lookup key with
  | some (.str s) => if s = "" then default else s
  | _ => default

def decode_lldp (payload : Bytes) : Fields :=
  let fields := lldpEntries payload payload.length 0 []
  if fields.isEmpty then []
  else
    let label := fieldOr fields "lldp_system_name" "neighbour"
    let port := fieldOr fields "lldp_port_id" ""
    Dict.set fields "summary"
      (.str ("LLDP " ++ label ++ if port = "" then "" else " port " ++ port))

def EAPOL_TYPES : Table :=
  [(0, "EAP-packet"), (1, "start"), (2, "logoff"), (3, "key"), (4, "encapsulated-ASF-alert")]

def decode_eapol (payload : Bytes) : Fields :=
  if payload.length < 4 then []
  else
    let kind := EAPOL_TYPES.nameOrCode "type" (payload.byte 1)
    [("eapol_type", .str kind), ("summary", .str ("802.1X EAPOL " ++ kind))]

/-- The loop of `decode_cdp`; a length counts its own four bytes. -/
def cdpEntries (payload : Bytes) : Nat → Nat → Fields → Fields
  | 0, _, fields => fields
  | fuel + 1, offset, fields =>
    if payload.length < offset + 4 then fields
    else
      let tlv_type := payload.num offset (offset + 2)
      let length := payload.num (offset + 2) (offset + 4)
      if length < 4 ∨ payload.length < offset + length then fields
      else
        let value := payload.slice (offset + 4) (offset + length)
        let more : Fields :=
          if tlv_type = 1 then
            Dict.set fields "cdp_device_id" (.str (bytes_to_text_preview value 80))
          else if tlv_type = 3 then
            Dict.set fields "cdp_port_id" (.str (bytes_to_text_preview value 60))
          else if tlv_type = 5 then
            Dict.set fields "cdp_software" (.str (bytes_to_text_preview value 100))
          else fields
        cdpEntries payload fuel (offset + length) more

def decode_cdp (payload : Bytes) : Fields :=
  let fields := cdpEntries payload payload.length 4 []
  if payload.length < 4 ∨ fields.isEmpty then []
  else Dict.set fields "summary" (.str ("CDP " ++ fieldOr fields "cdp_device_id" "advertisement"))

/-! ## Dispatch -/

def DECODERS : List (String × (Bytes → Fields)) :=
  [("tls", decode_tls), ("ssh", decode_ssh), ("http", decode_http),
    ("http-proxy", decode_http), ("ntp", decode_ntp), ("ftp", decode_ftp),
    ("smtp", decode_smtp), ("pop3", decode_pop3), ("imap", decode_imap),
    ("irc", decode_irc), ("nntp", decode_nntp), ("redis", decode_redis),
    ("sip", decode_sip), ("ssdp", decode_ssdp), ("bgp", decode_bgp),
    ("kerberos", decode_kerberos), ("ldap", decode_ldap), ("smb", decode_smb),
    ("quic", decode_quic), ("stun", decode_stun), ("isakmp", decode_isakmp),
    ("wireguard", decode_wireguard), ("vxlan", decode_vxlan), ("lldp", decode_lldp),
    ("eapol", decode_eapol), ("cdp", decode_cdp)]

/-- `decode`; the names of the tables are in lower case already. -/
def decode_app_payload (proto : String) (payload : Bytes) : Fields :=
  if payload = [] then []
  else match DECODERS.lookup proto with
    | some decoder => decoder payload
    | none => []

end Sniff4Hound
