import Sniff4Hound.Honeypot.ServiceReplies
import Sniff4Hound.Honeypot.UdpListener
import Sniff4Hound.Library.Dialogue

/-!
# The TCP services of the honeypot

`_handle_tcp` and the handlers of the services, as programs in dialogue with the client's socket. The
socket answers every `recv` with bytes (none of them when the client has closed), a time-out or another
error, and every `sendall` with success or an error. The store, the clock and the system's own addresses
answer as they like.
-/

namespace Sniff4Hound.Honeypot

def MAX_HTTP_REQUEST_SIZE : Nat := 16384
def MAX_COMMAND_ROUNDS : Nat := 20

/-! ## The client's socket -/

inductive SocketCall
  | recv (n : Nat)
  | sendall (payload : Bytes)

/-- What a call of `recv` comes to; `ssl` is set where the error is an `SSLError`. -/
inductive RecvOutcome
  | data (bytes : Bytes)
  | timeout
  | failed (ssl : Bool)
deriving DecidableEq

inductive Outcome
  | received (outcome : RecvOutcome)
  | sent (ok : Bool)
deriving DecidableEq

def fits : SocketCall → Outcome → Bool
  | .recv n, .received (.data bytes) => decide (bytes.length ≤ n)
  | .recv _, .received _ => true
  | .sendall _, .sent _ => true
  | _, _ => false

inductive TcpError
  | timeout
  | socket (ssl : Bool)
  | indexError
  | raised (e : Raised)
deriving DecidableEq

abbrev Talk (α : Type) := Dialogue SocketCall Outcome TcpError α

def recv (n : Nat) : Talk Bytes :=
  .call (.recv n) fun
    | .received (.data bytes) => .ret bytes
    | .received .timeout => .raise .timeout
    | .received (.failed ssl) => .raise (.socket ssl)
    -- not an answer to this call
    | .sent _ => .raise (.socket false)

/-- `_safe_send`: what `sendall` raises is dropped. -/
def safe_send (payload : Bytes) : Talk Unit := .call (.sendall payload) fun _ => .ret ()

def send_all : List Bytes → Talk Unit
  | [] => pure ()
  | reply :: replies => do
    safe_send reply
    send_all replies

/-- `recv` where a time-out is caught: nothing is received then. -/
def recv_or_nothing (n : Nat) : Talk Bytes :=
  (recv n).tryCatch fun
    | .timeout => .ret []
    | e => .raise e

/-- The loop of `_recv_line`, with the bytes that are left. -/
def recvLineFrom : Nat → Bytes → Talk Bytes
  | 0, data => pure data
  | left + 1, data => do
    let chunk ← recv_or_nothing 1
    if chunk = [] then pure data
    else if (data ++ chunk).getLast? = some 10 then pure (data ++ chunk)
    else recvLineFrom left (data ++ chunk)

def recv_line : Talk Bytes := recvLineFrom MAX_PACKET_SIZE []

/-- The loop of `_read_http_request`. -/
def readRequestFrom (data : Bytes) : Talk Bytes :=
  if _ : data.containsBytes [13, 10, 13, 10] = false ∧ data.length < MAX_HTTP_REQUEST_SIZE then do
    let chunk ← recv MAX_PACKET_SIZE
    if _ : chunk = [] then pure data else readRequestFrom (data ++ chunk)
  else pure data
termination_by MAX_HTTP_REQUEST_SIZE - data.length
decreasing_by
  have hPos := List.length_pos_of_ne_nil ‹¬chunk = []›
  rw [List.length_append]
  omega

def read_http_request : Talk Bytes := readRequestFrom []

/-! ## Packets -/

structure TlsSocket where
  cipher : Option (String × String × Option Nat)
  version : String
  alpn : String
  peer_cert : Bytes
  sni : String

structure TlsSession where
  tls_version : String
  cipher_name : String
  cipher_protocol : String
  cipher_bits : Option Nat
  alpn : String
  sni : String
  peer_cert : Bytes
  summary : String

def capture_tls_session (tls_sock : TlsSocket) : TlsSession :=
  let (name, protocol, bits) := tls_sock.cipher.getD ("", "", none)
  let orDash (s : String) : String := if s = "" then "-" else s
  { tls_version := tls_sock.version
    cipher_name := name
    cipher_protocol := protocol
    cipher_bits := bits
    alpn := tls_sock.alpn
    sni := tls_sock.sni
    peer_cert := tls_sock.peer_cert
    summary := join "" ["TLS session version=", orDash tls_sock.version, " cipher=", name,
      " protocol=", protocol, " bits=", (bits.map toString).getD "None", " sni=", orDash tls_sock.sni,
      " alpn=", orDash tls_sock.alpn] }

structure TcpMoment where
  store : StoreAnswers
  /-- `session_id` of the state -/
  session : Int
  /-- `formatdate(usegmt=True)` -/
  date : String
  filetime : UInt64
  /-- `_socket_listener_ip` -/
  listener_ip : String

structure Connection where
  env : TcpEnv
  moment : TcpMoment
  port : Nat
  addr : Address
  use_tls : Bool
  /-- `meta["tls"]` -/
  tls : Option TlsSession

/-- The packet of `_emit_packet`, with the `tls` entry of its `meta`. -/
structure TcpPacket extends HoneypotPacket where
  tls : Option TlsSession

def NO_DATA : Bytes := Bytes.ofText "(sin datos)"

/-- `data or b"(sin datos)"` -/
def orNoData (data : Bytes) : Bytes := if data = [] then NO_DATA else data

/-- `_build_packet` of a service. -/
def build_packet (conn : Connection) (data : Bytes) (banner_text summary : String)
    (dns : Option DnsMeta) : Except Raised TcpPacket := do
  let session ← session_id conn.env.rt conn.moment.store conn.moment.session
  return {
    session_id := session
    protocol := "tcp"
    port := conn.port
    addr := conn.addr
    data := orNoData data
    banner_text := banner_text
    summary := summary
    dns := dns
    tls := conn.tls }

def emit (conn : Connection) (data : Bytes) (banner_text summary : String) (dns : Option DnsMeta) :
    Talk (Option TcpPacket) :=
  .lift (((build_packet conn data banner_text summary dns).map some).mapError .raised)

/-! ## Kinds of sessions -/

/-- A session in rounds: what is received is kept and answered, until nothing is received, the turn ends
the session, or no round is left. -/
def rounds {σ : Type} (receive : Talk Bytes) (turn : σ → Bytes → Turn σ) :
    Nat → σ → Bytes → Talk Bytes
  | 0, _, data => pure data
  | left + 1, state, data => do
    let chunk ← receive
    if chunk = [] then pure data
    else do
      send_all (turn state chunk).replies
      match (turn state chunk).next with
      | none => pure (data ++ chunk)
      | some state => rounds receive turn left state (data ++ chunk)

def line_session (turn : Bytes → Turn Unit) : Talk Bytes :=
  rounds recv_line (fun _ line => turn line) MAX_COMMAND_ROUNDS () []

def chunk_session (turn : Bytes → Turn Unit) : Talk Bytes :=
  rounds (recv_or_nothing MAX_PACKET_SIZE) (fun _ chunk => turn chunk) MAX_COMMAND_ROUNDS () []

/-- A session of one `recv`, and the replies to it if it brings bytes. -/
def one_recv (replies : Bytes → List Bytes) : Talk Bytes := do
  let data ← recv_or_nothing MAX_PACKET_SIZE
  (if data = [] then pure () else send_all (replies data))
  return data

/-- A handler that first sends its banner, if it has one, and then records what it has gathered. -/
def serve (conn : Connection) (banner : Option Banner) (gather : Talk Bytes)
    (banner_text summary : String) : Talk (Option TcpPacket) := do
  send_all (banner.map Banner.encode).toList
  let data ← gather
  emit conn data banner_text summary none

/-! ## Services -/

def handle_http_service (conn : Connection) : Talk (Option TcpPacket) :=
  let scheme := if conn.use_tls then "HTTPS" else "HTTP"
  serve conn none
    (do
      -- every exception is caught
      let request_data ← read_http_request.tryCatch fun _ => .ret []
      safe_send (http_response conn.moment.date request_data)
      return request_data)
    (join "" [scheme, " response"]) (join "" [scheme, " response"])

def handle_ftp_service (conn : Connection) : Talk (Option TcpPacket) :=
  serve conn (some (tcpBanner conn.port (.text "220 ProFTPD 1.3.5 Server ready\r\n")))
    (line_session (ftp_turn conn.env.rt)) "FTP banner" "FTP session"

def handle_smtp_service (conn : Connection) : Talk (Option TcpPacket) :=
  serve conn (some (tcpBanner conn.port (.text "220 mx01.local ESMTP Postfix\r\n")))
    (rounds recv_line (smtp_turn conn.env.rt) (MAX_COMMAND_ROUNDS * 2) false [])
    "SMTP banner" "SMTP session"

def handle_pop3_service (conn : Connection) : Talk (Option TcpPacket) :=
  serve conn (some (tcpBanner conn.port (.text "+OK Dovecot ready.\r\n")))
    (line_session (pop3_turn conn.env.rt)) "POP3 banner" "POP3 session"

def handle_imap_service (conn : Connection) : Talk (Option TcpPacket) :=
  serve conn (some (tcpBanner conn.port (.text
      "* OK [CAPABILITY IMAP4rev1 LITERAL+ SASL-IR IDLE AUTH=PLAIN] Dovecot ready.\r\n")))
    (line_session (imap_turn conn.env.rt)) "IMAP banner" "IMAP session"

def handle_telnet_service (conn : Connection) : Talk (Option TcpPacket) :=
  serve conn (some (tcpBanner conn.port (.text "Debian GNU/Linux 12 ttyS0\r\nlogin: ")))
    (do
      let username ← recv_line
      let buffer ← (if username = [] then pure []
        else do
          safe_send (Bytes.ofText "Password: ")
          let password ← recv_line
          return username ++ password : Talk Bytes)
      safe_send (Bytes.ofText "\r\nLogin incorrect\r\nConnection closed by foreign host.\r\n")
      return buffer)
    "Telnet banner" "Telnet login"

def handle_ssh_service (conn : Connection) : Talk (Option TcpPacket) :=
  serve conn (some (tcpBanner conn.port (.text "SSH-2.0-OpenSSH_8.2p1 Ubuntu-4ubuntu0.3\r\n")))
    (one_recv fun _ => []) "SSH banner" "SSH handshake"

def handle_mysql_service (conn : Connection) : Talk (Option TcpPacket) :=
  serve conn (some (.bytes mysql_greeting)) (one_recv fun _ => [mysql_refusal])
    "MySQL banner" "MySQL handshake"

/-- The bytes of an `SSLRequest`. -/
def SSL_REQUEST : Bytes := [0, 0, 0, 8, 4, 0xd2, 0x16, 0x2f]

/-- A time-out of the second `recv` leaves what the first one brought. -/
def handle_postgres_service (conn : Connection) : Talk (Option TcpPacket) :=
  serve conn none
    (do
      let data ← recv_or_nothing MAX_PACKET_SIZE
      if data = [] then pure []
      else if data.take 8 = SSL_REQUEST then do
        safe_send (Bytes.ofText "N")
        (do
          let more ← recv MAX_PACKET_SIZE
          safe_send build_postgres_error_packet
          return data ++ more : Talk Bytes).tryCatch fun
            | .timeout => .ret data
            | e => .raise e
      else do
        safe_send build_postgres_error_packet
        return data)
    "PostgreSQL banner" "Postgres handshake"

def handle_redis_service (conn : Connection) : Talk (Option TcpPacket) :=
  serve conn
    (some (tcpBanner conn.port (.bytes (Bytes.ofText "-NOAUTH Authentication required.\r\n"))))
    (chunk_session redis_turn) "Redis banner" "Redis session"

def handle_memcached_service (conn : Connection) : Talk (Option TcpPacket) :=
  serve conn (some (.bytes (Bytes.ofText "STAT pid 2134\r\nEND\r\n")))
    (line_session (memcached_turn conn.env.rt)) "Memcached banner" "Memcached session"

def handle_vnc_service (conn : Connection) : Talk (Option TcpPacket) :=
  serve conn (some (tcpBanner conn.port (.bytes (Bytes.ofText "RFB 003.008\n"))))
    (one_recv fun _ => [[1, 1]]) "VNC banner" "VNC handshake"

def handle_mqtt_service (conn : Connection) : Talk (Option TcpPacket) :=
  serve conn none (chunk_session mqtt_turn) "MQTT banner" "MQTT session"

def handle_amqp_service (conn : Connection) : Talk (Option TcpPacket) :=
  serve conn (some (tcpBanner conn.port (.bytes (Bytes.ofText "AMQP" ++ [0, 0, 9, 1]))))
    (one_recv fun _ => [Bytes.ofText "AMQP" ++ [0, 0, 9, 1]]) "AMQP banner" "AMQP session"

def handle_ldap_service (conn : Connection) : Talk (Option TcpPacket) :=
  serve conn none (one_recv fun data => [build_ldap_bind_response data]) "LDAP banner" "LDAP session"

def handle_rtsp_service (conn : Connection) : Talk (Option TcpPacket) :=
  serve conn none
    (do
      -- no exception is caught
      let request ← read_http_request
      if request = [] then pure []
      else
        match build_rtsp_response conn.env request.utf8Replace with
        | none => .raise .indexError
        | some response => do
          safe_send response
          return request)
    "RTSP banner" "RTSP session"

def handle_mongodb_service (conn : Connection) : Talk (Option TcpPacket) :=
  serve conn (some (tcpBanner conn.port (.text
      "It looks like you are trying to access MongoDB over HTTP on the native driver port.\n")))
    (one_recv fun _ => []) "MongoDB banner" "MongoDB session"

def handle_smb_service (conn : Connection) : Talk (Option TcpPacket) :=
  serve conn none (one_recv fun _ => [build_smb2_negotiate_response conn.moment.filetime])
    "SMB2 negotiate response" "SMB negotiate"

def handle_rdp_service (conn : Connection) : Talk (Option TcpPacket) :=
  serve conn none (one_recv fun _ => [build_rdp_connection_confirm])
    "RDP connection confirm" "RDP negotiate"

def handle_generic_tcp (conn : Connection) : Talk (Option TcpPacket) :=
  let banner := tcpBanner conn.port (.text (generic_tcp_banner conn.env conn.port))
  serve conn (some banner) (chunk_session fun _ => .goOn []) (banner.str conn.env)
    "Generic TCP session"

/-! ## Names over TCP -/

/-- The loop of `_handle_dns_tcp_service`. -/
def readQuery (query_length : Nat) (query : Bytes) : Talk Bytes :=
  if _ : query.length < query_length then do
    let chunk ← recv MAX_PACKET_SIZE
    if _ : chunk = [] then pure query else readQuery query_length (query ++ chunk)
  else pure query
termination_by query_length - query.length
decreasing_by
  have hPos := List.length_pos_of_ne_nil ‹¬chunk = []›
  rw [List.length_append]
  omega

/-- The answer to a query: the reply with its length in front, and the `dns` entry. -/
def dns_answer (conn : Connection) (query : Bytes) : Except Raised (Bytes × Option DnsMeta) := do
  let (response_body, questions) ←
    build_dns_response conn.env.inet_aton query conn.moment.listener_ip
  let length ← to_bytes 2 response_body.length
  return (length ++ response_body,
    if questions = [] then none else some ⟨questions, conn.moment.listener_ip⟩)

/-- The `try` block of `_handle_dns_tcp_service`, from its second test on. -/
def answer_query (conn : Connection) (packet : Bytes) : Talk (Option DnsMeta) := do
  let query_length := packet.num 0 2
  let query ← readQuery query_length (packet.drop 2)
  let (reply, dns) ← .lift ((dns_answer conn (query.take query_length)).mapError .raised)
  safe_send reply
  return dns

def handle_dns_tcp_service (conn : Connection) : Talk (Option TcpPacket) := do
  let packet ← (do
    let packet ← recv MAX_PACKET_SIZE
    return some packet : Talk (Option Bytes)).tryCatch fun
      | .timeout => .ret none
      | e => .raise e
  match packet with
  | none => emit conn [] "DNS query" "DNS query" none
  | some packet =>
    if packet.length < 2 then pure none
    else do
      let dns ← (answer_query conn packet).tryCatch fun
        | .timeout => .ret none
        | e => .raise e
      emit conn packet "DNS query" "DNS query" dns

/-! ## Dispatch -/

/-- The handler that `_handle_tcp` chooses. -/
def handlerOf (port : Nat) : Connection → Talk (Option TcpPacket) :=
  if port ∈ HTTP_TCP_PORTS ∨ port ∈ HTTPS_TCP_PORTS then handle_http_service
  else if port ∈ FTP_PORTS ∨ port ∈ FTPS_PORTS then handle_ftp_service
  else if port ∈ SMTP_PORTS ∨ port ∈ SMTPS_PORTS then handle_smtp_service
  else if port ∈ POP3_PORTS ∨ port ∈ POP3S_PORTS then handle_pop3_service
  else if port ∈ IMAP_PORTS ∨ port ∈ IMAPS_PORTS then handle_imap_service
  else if port ∈ TELNET_PORTS then handle_telnet_service
  else if port ∈ SSH_PORTS then handle_ssh_service
  else if port ∈ MYSQL_PORTS then handle_mysql_service
  else if port ∈ POSTGRES_PORTS then handle_postgres_service
  else if port ∈ REDIS_PORTS then handle_redis_service
  else if port ∈ MEMCACHED_TCP_PORTS then handle_memcached_service
  else if port ∈ VNC_PORTS then handle_vnc_service
  else if port ∈ MQTT_PORTS ∨ port ∈ MQTTS_PORTS then handle_mqtt_service
  else if port ∈ AMQP_PORTS ∨ port ∈ AMQPS_PORTS then handle_amqp_service
  else if port ∈ LDAP_PORTS ∨ port ∈ LDAPS_PORTS then handle_ldap_service
  else if port ∈ RTSP_PORTS then handle_rtsp_service
  else if port ∈ DNS_TCP_PORTS then handle_dns_tcp_service
  else if port ∈ MONGODB_PORTS then handle_mongodb_service
  else if port ∈ SMB_PORTS then handle_smb_service
  else if port ∈ RDP_PORTS then handle_rdp_service
  else handle_generic_tcp

inductive Handshake
  | none
  | refused (ssl : Bool)
  | established (tls_sock : TlsSocket)

/-- What is left of a connection: the events and the errors of `_set_error`, with their keys. -/
structure TcpEnd where
  events : List TcpPacket
  errors : List (String × TcpError)

/-- The two `except` clauses of `_handle_tcp`. -/
def errorKey (port : Nat) : TcpError → String
  | .socket true => join "" ["tls/", toString port]
  | _ => join "" ["tcp/", toString port]

def handle_tcp (env : TcpEnv) (moment : TcpMoment) (addr : Address) (port : Nat)
    (handshake : Handshake) : Talk TcpEnd :=
  (do
    let tls ← (match handshake with
      | .none => .ret none
      | .refused ssl => .raise (.socket ssl)
      | .established tls_sock => .ret (some (capture_tls_session tls_sock)) :
        Talk (Option TlsSession))
    let packet ← handlerOf port ⟨env, moment, port, addr, tls.isSome, tls⟩
    return ⟨packet.toList, []⟩ : Talk TcpEnd).tryCatch fun e => .ret ⟨[], [(errorKey port e, e)]⟩

end Sniff4Hound.Honeypot
