import Sniff4Hound.Capture.Messages
import Sniff4Hound.Honeypot.Replies

/-!
# Replies of the TCP services

The ports of `honeypot_ports.py`, the banners, and what each service of `honeypot.py` answers to a line
or to a chunk of bytes.
-/

namespace Sniff4Hound.Honeypot

/-! ## Ports -/

def HTTP_TCP_PORTS : List Nat :=
  [80, 81, 82, 280, 591, 593, 631, 777, 800, 801, 808, 880, 888, 898, 981, 2082, 3000, 3001, 3128, 3333,
    5000, 5002, 5601, 5800, 5984, 5985, 7000, 7001, 7080, 7474, 7777, 8000, 8001, 8008, 8010, 8069, 8080,
    8081, 8082, 8088, 8090, 8091, 8098, 8100, 8180, 8181, 8222, 8280, 8500, 8880, 8888, 8983, 9000, 9001,
    9080, 9090, 9091, 9200, 9999, 10000, 10255, 11371, 15672, 50070, 50075, 50090]
def HTTPS_TCP_PORTS : List Nat :=
  [443, 2083, 2376, 4443, 5001, 5986, 6443, 6984, 7002, 7443, 8443, 8501, 8834, 9043, 9443, 9444, 10443,
    10250, 12443]
def FTP_PORTS : List Nat := [20, 21, 115, 2121]
def FTPS_PORTS : List Nat := [989, 990]
def SMTP_PORTS : List Nat := [25, 587, 2525]
def SMTPS_PORTS : List Nat := [465]
def POP3_PORTS : List Nat := [110]
def POP3S_PORTS : List Nat := [995]
def IMAP_PORTS : List Nat := [143]
def IMAPS_PORTS : List Nat := [993]
def TELNET_PORTS : List Nat := [23, 2323]
def SSH_PORTS : List Nat := [22, 2222, 8022]
def MYSQL_PORTS : List Nat := [3306, 3307]
def POSTGRES_PORTS : List Nat := [5432, 5433]
def LDAP_PORTS : List Nat := [389, 3268]
def LDAPS_PORTS : List Nat := [636, 3269]
def REDIS_PORTS : List Nat := [6379, 6380]
def MEMCACHED_TCP_PORTS : List Nat := [11211]
def VNC_PORTS : List Nat := [5900, 5901, 5902, 5903, 5904, 5905]
def RDP_PORTS : List Nat := [3389, 3390]
def SMB_PORTS : List Nat := [135, 139, 445]
def DNS_TCP_PORTS : List Nat := [53]
def MONGODB_PORTS : List Nat := [27017, 27018, 27019, 28017]
def MQTT_PORTS : List Nat := [1883, 1884]
def MQTTS_PORTS : List Nat := [8883]
def AMQP_PORTS : List Nat := [5672]
def AMQPS_PORTS : List Nat := [5671]
def RTSP_PORTS : List Nat := [554]
def ICS_OT_TCP_PORTS : List Nat :=
  [102, 502, 1089, 1091, 1911, 1962, 2000, 2404, 4000, 4840, 9600, 18245, 20000, 20547, 34962, 34963,
    34964, 34980, 44818, 47808, 55000]

/-! ## What the system answers -/

structure TcpEnv where
  rt : Runtime
  lower_colon : ∀ s : String, ':' ∈ (rt.lower s).toList → ':' ∈ s.toList
  /-- `str(data)` -/
  bytes_repr : Bytes → String
  getservbyport : Nat → Option String
  inet_aton : String → Option Bytes
  inet_aton_length : ∀ ip address, inet_aton ip = some address → address.length = 4

/-! ## Banners -/

def TCP_BANNERS : List (Nat × Banner) :=
  [(21, .text "220 ProFTPD 1.3.5 Server ready\r\n"),
    (22, .text "SSH-2.0-OpenSSH_8.2p1 Ubuntu-4ubuntu0.3\r\n"),
    (23, .text "Debian GNU/Linux 12 ttyS0\r\nlogin: "),
    (25, .text "220 mx01.local ESMTP Postfix\r\n"),
    (53, .text "DNS service ready\r\n"),
    (110, .text "+OK Dovecot ready.\r\n"),
    (139, .bytes ([0, 0, 0, 0x85, 0xff] ++ Bytes.ofText "SMBr" ++ [0, 0, 0, 0, 0x18, 0x01, 0x28, 0])),
    (143, .text
      "* OK [CAPABILITY IMAP4rev1 LITERAL+ SASL-IR IDLE AUTH=PLAIN] Dovecot ready.\r\n"),
    (389, .text "LDAP service ready\r\n"),
    (445, .bytes ([0, 0, 0, 0x90, 0xff] ++ Bytes.ofText "SMBr" ++ [0, 0, 0, 0, 0x18, 0x53, 0xc8])),
    (554, .text "RTSP/1.0 200 OK\r\nServer: Live555 Streaming Media v2018.08.28\r\n\r\n"),
    (587, .text "220 mx01.local ESMTP Postfix\r\n"),
    (990, .text "220 ProFTPD 1.3.5 Server ready\r\n"),
    (993, .text
      "* OK [CAPABILITY IMAP4rev1 LITERAL+ SASL-IR IDLE AUTH=PLAIN] Dovecot ready.\r\n"),
    (995, .text "+OK Dovecot ready.\r\n"),
    (2049, .text "NFS service ready\r\n"),
    (2121, .text "220 ProFTPD 1.3.5 Server ready\r\n"),
    (3306, .bytes ([0x19, 0, 0, 0, 0x0a] ++ Bytes.ofText "8.0.30-0ubuntu0.20.04.2" ++
      [0, 1, 0, 0, 0] ++ Bytes.ofText "abcdefgh" ++ [0])),
    (3389, .bytes [3, 0, 0, 0x13, 0x0e, 0xd0, 0, 0, 0x12, 0x34, 0, 2, 0, 8, 0, 2, 0, 0, 0]),
    (5432, .text "PostgreSQL 13.0\r\n"),
    (5671, .bytes (Bytes.ofText "AMQP" ++ [0, 0, 9, 1])),
    (5672, .bytes (Bytes.ofText "AMQP" ++ [0, 0, 9, 1])),
    (5900, .bytes (Bytes.ofText "RFB 003.008\n")),
    (6379, .bytes (Bytes.ofText "-NOAUTH Authentication required.\r\n")),
    (8000, .text "HTTP/1.1 200 OK\r\nServer: nginx/1.18.0\r\n\r\n"),
    (8080, .text "HTTP/1.1 200 OK\r\nServer: Apache/2.4.46 (Ubuntu)\r\n\r\n"),
    (8888, .text "HTTP/1.1 200 OK\r\nServer: Caddy/2.7.0\r\n\r\n"),
    (9200, .text "HTTP/1.1 200 OK\r\ncontent-type: application/json\r\n\r\n"),
    (9443, .text "HTTP/1.1 200 OK\r\nServer: nginx/1.18.0\r\n\r\n"),
    (11211, .text "STAT pid 2134\r\nEND\r\n"),
    (27017, .text
      "It looks like you are trying to access MongoDB over HTTP on the native driver port.\n")]

/-- `TCP_BANNERS.get(port, default)`. -/
def tcpBanner (port : Nat) (default : Banner) : Banner := (TCP_BANNERS.lookup port).getD default

/-- `str(banner)`. -/
def Banner.str (env : TcpEnv) : Banner → String
  | .text s => s
  | .bytes data => env.bytes_repr data

/-- `service_label` of a TCP port. -/
def service_label (env : TcpEnv) (port : Nat) : String :=
  if port ∈ HTTP_TCP_PORTS then "HTTP web service"
  else if port ∈ HTTPS_TCP_PORTS then "HTTPS web service"
  else if port ∈ SSH_PORTS then "SSH remote shell"
  else if port ∈ FTP_PORTS ∨ port ∈ FTPS_PORTS then "FTP file transfer"
  else if port ∈ SMTP_PORTS ∨ port ∈ SMTPS_PORTS then "SMTP mail service"
  else if port ∈ MYSQL_PORTS then "MySQL database"
  else if port ∈ POSTGRES_PORTS then "PostgreSQL database"
  else if port ∈ SMB_PORTS then "SMB file sharing"
  else if port ∈ RDP_PORTS then "RDP remote desktop"
  else if port ∈ ICS_OT_TCP_PORTS then "Industrial/OT service"
  else
    match env.getservbyport port with
    | some name => if name = "" then join "" ["TCP service ", toString port]
        else join "" [env.rt.upper name, " service"]
    | none => join "" ["TCP service ", toString port]

def generic_tcp_banner (env : TcpEnv) (port : Nat) : String :=
  let flat : String := String.ofList ((service_label env port).toList.map fun c =>
    if c = '\r' ∨ c = '\n' then ' ' else c)
  join "" ["220 ", strip flat, " ready\r\n"]

/-! ## Lines -/

structure Turn (σ : Type) where
  replies : List Bytes
  next : Option σ

def Turn.goOn (replies : List Bytes) : Turn Unit := ⟨replies, some ()⟩

def Turn.quit (replies : List Bytes) : Turn Unit := ⟨replies, none⟩

def decode_line (data : Bytes) : String := strip data.utf8Replace

/-- `line.split(" ", 1)[0].upper()`. -/
def commandOf (rt : Runtime) (line : String) : String :=
  rt.upper ((splitAtMost ' ' 1 line.toList).headD "")

def ftp_turn (rt : Runtime) (line : Bytes) : Turn Unit :=
  let command := commandOf rt (decode_line line)
  if command = "USER" then .goOn [Bytes.ofText "331 Password required\r\n"]
  else if command = "PASS" then .goOn [Bytes.ofText "230 Login successful\r\n"]
  else if command = "SYST" then .goOn [Bytes.ofText "215 UNIX Type: L8\r\n"]
  else if command ∈ ["PWD", "XPWD"] then .goOn [Bytes.ofText "257 \"/\" is current directory\r\n"]
  else if command = "QUIT" then .quit [Bytes.ofText "221 Goodbye\r\n"]
  else .goOn [Bytes.ofText "502 Command not implemented\r\n"]

/-- The session goes on with `in_data_mode`. -/
def smtp_turn (rt : Runtime) (in_data_mode : Bool) (line_bytes : Bytes) : Turn Bool :=
  let line := decode_line line_bytes
  if in_data_mode then
    if line = "." then ⟨[Bytes.ofText "250 2.0.0 Message queued as A1B2C3D4E5\r\n"], some false⟩
    else ⟨[], some true⟩
  else
    let command := if line = "" then "" else commandOf rt line
    if command ∈ ["EHLO", "HELO"] then
      ⟨[Bytes.ofText ("250-mx01.local Hello\r\n250-PIPELINING\r\n250-SIZE 10240000\r\n" ++
        "250-8BITMIME\r\n250 HELP\r\n")], some false⟩
    else if command ∈ ["MAIL", "RCPT", "RSET", "NOOP"] then
      ⟨[Bytes.ofText "250 2.1.0 Ok\r\n"], some false⟩
    else if command = "DATA" then
      ⟨[Bytes.ofText "354 End data with <CR><LF>.<CR><LF>\r\n"], some true⟩
    else if command = "STARTTLS" then
      ⟨[Bytes.ofText "454 4.7.0 TLS not available in this session\r\n"], some false⟩
    else if command = "QUIT" then ⟨[Bytes.ofText "221 2.0.0 Bye\r\n"], none⟩
    else ⟨[Bytes.ofText "500 5.5.2 Error: command not recognized\r\n"], some false⟩

def pop3_turn (rt : Runtime) (line : Bytes) : Turn Unit :=
  let command := commandOf rt (decode_line line)
  if command = "USER" then .goOn [Bytes.ofText "+OK user accepted\r\n"]
  else if command = "PASS" then .goOn [Bytes.ofText "+OK mailbox has 2 messages (320 octets)\r\n"]
  else if command = "STAT" then .goOn [Bytes.ofText "+OK 2 320\r\n"]
  else if command = "LIST" then .goOn [Bytes.ofText "+OK 2 messages\r\n1 120\r\n2 200\r\n.\r\n"]
  else if command = "QUIT" then .quit [Bytes.ofText "+OK Goodbye\r\n"]
  else .goOn [Bytes.ofText "-ERR Unknown command\r\n"]

def imap_turn (rt : Runtime) (line : Bytes) : Turn Unit :=
  let parts := wordsOf (decode_line line)
  let tag := parts.headD "A000"
  let command := rt.upper ((parts[1]?).getD "")
  let tagged (text : String) : Bytes := encode (join "" [tag, text])
  if command = "CAPABILITY" then
    .goOn [Bytes.ofText "* CAPABILITY IMAP4rev1 AUTH=PLAIN IDLE\r\n",
      tagged " OK CAPABILITY completed\r\n"]
  else if command = "LOGIN" then .goOn [tagged " OK LOGIN completed\r\n"]
  else if command = "LOGOUT" then
    .quit [Bytes.ofText "* BYE Logging out\r\n", tagged " OK LOGOUT completed\r\n"]
  else .goOn [tagged " BAD Command not supported\r\n"]

def memcached_turn (rt : Runtime) (line : Bytes) : Turn Unit :=
  let command := rt.lower ((wordsOf (decode_line line)).headD "")
  if command = "version" then .goOn [Bytes.ofText "VERSION 1.6.9\r\n"]
  else if command = "stats" then
    .goOn [Bytes.ofText "STAT version 1.6.9\r\nSTAT uptime 86400\r\nEND\r\n"]
  else if command = "get" then .goOn [Bytes.ofText "END\r\n"]
  else if command ∈ ["set", "add", "replace"] then .goOn [Bytes.ofText "STORED\r\n"]
  else if command = "quit" then .quit []
  else .goOn [Bytes.ofText "ERROR\r\n"]

/-! ## Chunks -/

/-- `data.upper()`: ASCII letters only. -/
def upperBytes (data : Bytes) : Bytes :=
  data.map fun b => if 97 ≤ b.toNat ∧ b.toNat ≤ 122 then b - 32 else b

def redis_turn (chunk : Bytes) : Turn Unit :=
  let upper_data := upperBytes chunk
  if upper_data.containsBytes (Bytes.ofText "PING") then .goOn [Bytes.ofText "+PONG\r\n"]
  else if upper_data.containsBytes (Bytes.ofText "INFO") then
    let body := Bytes.ofText "# Server\r\nredis_version:7.0.11\r\nrole:master"
    .goOn [Bytes.ofText "$" ++ encode (toString body.length) ++ Bytes.ofText "\r\n" ++ body ++
      Bytes.ofText "\r\n"]
  else if upper_data.containsBytes (Bytes.ofText "SET") then .goOn [Bytes.ofText "+OK\r\n"]
  else if upper_data.containsBytes (Bytes.ofText "GET") then .goOn [Bytes.ofText "$-1\r\n"]
  else if upper_data.containsBytes (Bytes.ofText "QUIT") then .quit [Bytes.ofText "+OK\r\n"]
  else .goOn [Bytes.ofText "-ERR unknown command\r\n"]

def mqtt_turn (packet : Bytes) : Turn Unit :=
  let packet_type := packet.byte 0 >>> 4
  if packet_type = 1 then .goOn [[0x20, 2, 0, 0]]
  else if packet_type = 8 then .goOn [[0x90, 3, 0, 1, 0]]
  else if packet_type = 12 then .goOn [[0xd0, 0]]
  else if packet_type = 14 then .quit []
  else .goOn [[0xd0, 0]]

/-! ## Messages -/

/-- `n.to_bytes(width, "little")` of a number that fits. -/
def littleEndian (width n : Nat) : Bytes := (bigEndian width n).reverse

/-- `_build_http_response`, at `date`. -/
def build_http_response (date : String) (status_code : Nat) (reason : String) (body : Bytes)
    (content_type : String) : Bytes :=
  let headers := [
    join "" ["HTTP/1.1 ", toString status_code, " ", reason],
    "Server: nginx/1.18.0",
    join "" ["Date: ", date],
    join "" ["Content-Type: ", content_type],
    join "" ["Content-Length: ", toString body.length],
    "Connection: close"]
  encode (join "" [join "\r\n" headers, "\r\n\r\n"]) ++ body

def FAVICON_ICO : Bytes :=
  [0, 0, 1, 0, 1, 0, 1, 1, 0, 0, 1, 0, 0x20, 0, 0x30, 0, 0, 0, 0x16, 0, 0, 0,
    0x28, 0, 0, 0, 1, 0, 0, 0, 2, 0, 0, 0, 1, 0, 0x20, 0, 0, 0, 0, 0, 8, 0, 0, 0,
    0x13, 0x0B, 0, 0, 0x13, 0x0B, 0, 0, 0, 0, 0, 0, 0, 0, 0, 0, 0, 0, 0xFF, 0xFF, 0, 0, 0, 0, 0, 0]

def HTTP_BODY : Bytes := encode (join "" [
  "<html><head><title>It works</title>",
  "<link rel=\"icon\" type=\"image/x-icon\" href=\"/favicon.ico\"></head>",
  "<body><h1>It works</h1><p>Default server page.</p></body></html>"])

/-- `data.split(b"\r\n", 1)[0]`. -/
def firstLine (data : Bytes) : Bytes := data.take ((data.find [13, 10] 0).getD data.length)

/-- The answer of `_handle_http_service`. -/
def http_response (date : String) (request_data : Bytes) : Bytes :=
  let request_line := (firstLine request_data).utf8Replace
  let path := ((wordsOf request_line)[1]?).getD "/"
  if request_data ≠ [] ∧ path = "/favicon.ico" then
    build_http_response date 200 "OK" FAVICON_ICO "image/x-icon"
  else build_http_response date 200 "OK" HTTP_BODY "text/html; charset=utf-8"

/-- `_build_rtsp_response`; `none` is an `IndexError`. -/
def build_rtsp_response (env : TcpEnv) (request_text : String) : Option Bytes := do
  let lines := (splitLines request_text.toList).map String.ofList
  let cseq ← (match lines.find? fun line => startswith (env.rt.lower line) "cseq:" with
    | none => some "1"
    | some line => (splitAtMost ':' 1 line.toList)[1]?.map strip)
  return encode (join "" [
    "RTSP/1.0 200 OK\r\n",
    "CSeq: ", cseq, "\r\n",
    "Server: Live555 Streaming Media v2018.08.28\r\n",
    "Public: OPTIONS, DESCRIBE, SETUP, TEARDOWN, PLAY, PAUSE\r\n",
    "Content-Length: 0\r\n\r\n"])

def build_ldap_bind_response (request_data : Bytes) : Bytes :=
  let message_id : UInt8 :=
    if request_data.length ≥ 5 ∧ request_data.byte 0 = 0x30 ∧ request_data.byte 2 = 2 ∧
        request_data.byte 3 = 1 then request_data.getD 4 0
    else 1
  [0x30, 0x0C, 2, 1, message_id, 0x61, 7, 0x0A, 1, 0x31, 4, 0, 4, 0]

def build_postgres_error_packet : Bytes :=
  let payload := Bytes.ofText "SERROR" ++ [0] ++ Bytes.ofText "C28000" ++ [0] ++
    Bytes.ofText "Mpassword authentication failed" ++ [0, 0]
  Bytes.ofText "E" ++ bigEndian 4 (payload.length + 4) ++ payload ++ (Bytes.ofText "Z" ++
    [0, 0, 0, 5] ++ Bytes.ofText "I")

/-- The greeting of `_handle_mysql_service`. -/
def mysql_greeting : Bytes :=
  let protocol_payload := [0x0a] ++ Bytes.ofText "8.0.30-0ubuntu0.20.04.2" ++ [0] ++ [1, 0, 0, 0] ++
    Bytes.ofText "abcdefgh" ++ [0] ++ [0xff, 0xf7] ++ [0x21] ++ [2, 0] ++ [0xff, 0xdf] ++ [0x15] ++
    List.replicate 10 0 ++ Bytes.ofText "ijklmnopqrstuvwx" ++ [0] ++
    Bytes.ofText "mysql_native_password" ++ [0]
  littleEndian 3 protocol_payload.length ++ [0] ++ protocol_payload

/-- The refusal of `_handle_mysql_service`. -/
def mysql_refusal : Bytes :=
  let payload := [0xff, 0x15, 4] ++ Bytes.ofText "#28000Access denied"
  littleEndian 3 payload.length ++ [2] ++ payload

def SMB2_SERVER_GUID : Bytes := [1, 2, 3, 4, 5, 6, 7, 8, 9, 0x0a, 0x0b, 0x0c, 0x0d, 0x0e, 0x0f, 0x10]

/-- `_build_smb2_negotiate_response`, with the clock in units of 100 ns since 1601. -/
def build_smb2_negotiate_response (filetime : UInt64) : Bytes :=
  let header := [0xfe] ++ Bytes.ofText "SMB" ++ littleEndian 2 64 ++ [0, 0] ++ [0, 0, 0, 0] ++
    littleEndian 2 0 ++ littleEndian 2 1 ++ littleEndian 4 1 ++ [0, 0, 0, 0] ++
    List.replicate 8 0 ++ List.replicate 4 0 ++ List.replicate 4 0 ++ List.replicate 8 0 ++
    List.replicate 16 0
  let body := littleEndian 2 65 ++ littleEndian 2 1 ++ littleEndian 2 0x0202 ++ [0, 0] ++
    SMB2_SERVER_GUID ++ [0, 0, 0, 0] ++ littleEndian 4 0x10000 ++ littleEndian 4 0x10000 ++
    littleEndian 4 0x10000 ++ littleEndian 8 filetime.toNat ++ List.replicate 8 0 ++
    littleEndian 2 128 ++ littleEndian 2 0 ++ [0, 0, 0, 0]
  let message := header ++ body
  bigEndian 4 message.length ++ message

def build_rdp_connection_confirm : Bytes :=
  let rdp_neg_rsp := [2] ++ [0] ++ littleEndian 2 8 ++ littleEndian 4 0
  let x224_body := [0xd0] ++ [0, 0] ++ [0, 0] ++ [0] ++ rdp_neg_rsp
  let x224 := UInt8.ofNat x224_body.length :: x224_body
  [3, 0] ++ bigEndian 2 (4 + x224.length) ++ x224

end Sniff4Hound.Honeypot
