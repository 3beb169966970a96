import Sniff4Hound.Capture.AppDecoders

/-!
# The packet under construction

`sniffer.py` fills one dictionary per frame and remembers TLS flows from frame to frame.
This file holds that state, the reading of payloads as text, and the pieces that every
parser uses. `raw_packet`, a copy of the frame that no parser reads, is left out.
-/

namespace Sniff4Hound

structure Sniffer extends Runtime where
  PAYLOAD_TEXT_MAX_CHARS : Nat
  local_ips : List String

def Sniffer.ascii : Sniffer :=
  { Runtime.ascii with PAYLOAD_TEXT_MAX_CHARS := 4096, local_ips := ["127.0.0.1", "::1"] }

/-- The packet and the flow keys of `_tls_flows`. -/
structure Capture where
  packet : Packet
  tls_flows : List String

def Capture.set (c : Capture) (key : String) (value : Value) : Capture :=
  { c with packet := fun k => if k = key then value else c.packet k }

/-- `if text: packet[key] = text`. -/
def Capture.setText (c : Capture) (key text : String) : Capture :=
  if text = "" then c else c.set key (.str text)

/-- `packet[key] = packet[key] or value`. -/
def Capture.orSet (c : Capture) (key : String) (value : Value) : Capture :=
  c.set key ((c.packet key).orElse value)

def Capture.summarize (c : Capture) (summary : String) : Capture :=
  (c.set "summary" (.str summary)).set "banner_text" (.str summary)

def Capture.describe (c : Capture) (summary : String) : Capture :=
  (c.summarize summary).set "payload_text" (.str summary)

/-! ## Keys that stay as they are -/

def HEADER_KEYS : List String :=
  ["eth_src", "eth_dst", "eth_type", "ip_version", "src_ip", "dst_ip", "transport", "src_port",
    "dst_port", "tcp_flags", "proto"]

def CORE_KEYS : List String := "dhcp_msg_type" :: HEADER_KEYS

def FRAME_KEYS : List String := "interface" :: "length" :: HEADER_KEYS

def KEPT_KEYS : List String := "dhcp_msg_type" :: FRAME_KEYS

theorem core_subset_kept : CORE_KEYS ⊆ KEPT_KEYS := by decide

def Agree (keys : List String) (c c' : Capture) : Prop :=
  ∀ k ∈ keys, c'.packet k = c.packet k

section Agree

variable {keys keys' : List String} {c c' c'' : Capture}

theorem Agree.refl (keys : List String) (c : Capture) : Agree keys c c := fun _ _ => rfl

theorem Agree.trans (h : Agree keys c c') (h' : Agree keys c' c'') : Agree keys c c'' :=
  fun k hk => (h' k hk).trans (h k hk)

theorem Agree.mono (h : Agree keys c c') (hKeys : keys' ⊆ keys) : Agree keys' c c' :=
  fun k hk => h k (hKeys hk)

theorem set_packet (c : Capture) (key k : String) (value : Value) :
    (c.set key value).packet k = if k = key then value else c.packet k := rfl

theorem set_packet_same (c : Capture) (key : String) (value : Value) :
    (c.set key value).packet key = value := if_pos rfl

theorem set_packet_other (c : Capture) {key k : String} (value : Value) (h : k ≠ key) :
    (c.set key value).packet k = c.packet k := if_neg h

theorem agree_set {key : String} (value : Value) (hKey : key ∉ keys) :
    Agree keys c (c'.set key value) ↔ Agree keys c c' := by
  have hOther : ∀ k ∈ keys, (c'.set key value).packet k = c'.packet k := by
    intro k hk
    apply set_packet_other
    rintro rfl
    exact hKey hk
  constructor
  · intro h k hk
    rw [← hOther k hk]
    exact h k hk
  · intro h k hk
    rw [hOther k hk]
    exact h k hk

theorem agree_setText {key : String} (text : String) (hKey : key ∉ keys) :
    Agree keys c (c'.setText key text) ↔ Agree keys c c' := by
  rw [Capture.setText]
  split
  · exact Iff.rfl
  · exact agree_set _ hKey

theorem agree_summarize (summary : String) (hSummary : "summary" ∉ keys)
    (hBanner : "banner_text" ∉ keys) : Agree keys c (c'.summarize summary) ↔ Agree keys c c' := by
  rw [Capture.summarize, agree_set _ hBanner, agree_set _ hSummary]

theorem agree_describe (summary : String) (hSummary : "summary" ∉ keys)
    (hBanner : "banner_text" ∉ keys) (hText : "payload_text" ∉ keys) :
    Agree keys c (c'.describe summary) ↔ Agree keys c c' := by
  rw [Capture.describe, agree_set _ hText, agree_summarize summary hSummary hBanner]

theorem Agree.set_both (h : Agree keys c c') (key : String) (value : Value) :
    Agree keys (c.set key value) (c'.set key value) := by
  intro k hk
  rw [set_packet, set_packet, h k hk]

end Agree

/-! ## The base packet -/

def HEX_PREVIEW_LIMIT : Nat := 256

def build_base_packet (now interface : String) (data payload : Bytes) (eth_src eth_dst : String)
    (eth_type : Nat) : Packet :=
  Value.get
    [("session_id", .int 0), ("interface", .str (strip interface)), ("eth_src", .str eth_src),
      ("eth_dst", .str eth_dst), ("eth_type", .int eth_type), ("ip_version", .int 0),
      ("src_ip", .str ""), ("dst_ip", .str ""), ("proto", .str "unknown"),
      ("transport", .str ""), ("src_port", .int 0), ("dst_port", .int 0), ("ttl", .int 0),
      ("hop_limit", .int 0), ("length", .int data.length), ("payload_len", .int 0),
      ("state", .str "unknown"), ("scan_state", .str "active"), ("tcp_flags", .str ""),
      ("icmp_type", .int 0), ("icmp_code", .int 0), ("arp_opcode", .int 0),
      ("summary", .str ""), ("payload_text", .str ""),
      ("payload_hex", .str (bytes_to_hex_preview payload HEX_PREVIEW_LIMIT)),
      ("banner_text", .str ""), ("direction", .str "unknown"), ("domain", .str ""),
      ("domain_source", .str ""), ("http_method", .str ""), ("http_path", .str ""),
      ("http_host", .str ""), ("created_at", .str now), ("updated_at", .str now)]

/-! ## Endpoints -/

/-- `stable_flow_key`: the two ends in the order of their texts. -/
def stable_flow_key (rt : Runtime) (proto src_ip src_port dst_ip dst_port : Value) : String :=
  let left := src_ip.toText rt ++ ":" ++ src_port.toText rt
  let right := dst_ip.toText rt ++ ":" ++ dst_port.toText rt
  let ends := if left ≤ right then left ++ "|" ++ right else right ++ "|" ++ left
  normalize_protocol_name rt proto ++ "|" ++ ends

def Table.has (table : Table) (key : Int) : Bool := table.any fun entry => (entry.1 : Int) = key

/-- `service_endpoint`: the server's address and port. -/
def service_endpoint (rt : Runtime) (packet : Packet) : String × Int :=
  let src := (packet "src_port").safe_int rt 0
  let dst := (packet "dst_port").safe_int rt 0
  let transport := rt.lower (((packet "transport").orElse (packet "proto")).text rt)
  if transport ∉ ["tcp", "udp", "sctp"] ∨ src = 0 ∨ dst = 0 then ("", 0)
  else
    let flags := rt.upper ((packet "tcp_flags").text rt)
    let known := if transport = "tcp" then TCP_PORT_PROTOCOLS else UDP_PORT_PROTOCOLS
    let server_src := if transport = "tcp" && contains flags "SYN" then contains flags "ACK"
      else if known.has src != known.has dst then known.has src
      else decide (src < dst)
    if server_src then ((packet "src_ip").text rt, src) else ((packet "dst_ip").text rt, dst)

/-! ## Payloads as text -/

def TLS_FLOW_MEMORY_CAP : Nat := 20000

def rememberFlow (flows : List String) (key : String) : List String :=
  let kept := if TLS_FLOW_MEMORY_CAP ≤ flows.length then [] else flows
  if key ∈ kept then kept else key :: kept

/-- `packet["proto"] == "tcp"`. -/
def Capture.isTcp (c : Capture) : Bool :=
  match c.packet "proto" with
  | .str proto => proto = "tcp"
  | _ => false

namespace Sniffer

def shown (sn : Sniffer) (c : Capture) (key : String) : String :=
  (c.packet key).toText sn.toRuntime

def flowKey (sn : Sniffer) (c : Capture) : String :=
  stable_flow_key sn.toRuntime (.str "tcp") (c.packet "src_ip") (c.packet "src_port")
    (c.packet "dst_ip") (c.packet "dst_port")

def is_tls_payload (sn : Sniffer) (c : Capture) (payload : Bytes) : Bool × Capture :=
  if looks_like_tls payload then
    (true, if c.isTcp then { c with tls_flows := rememberFlow c.tls_flows (sn.flowKey c) } else c)
  else (c.isTcp && decide (sn.flowKey c ∈ c.tls_flows), c)

def interpret_payload (sn : Sniffer) (c : Capture) (payload : Bytes) : String × Capture :=
  if payload = [] then ("", c)
  else
    let (is_tls, c) := sn.is_tls_payload c payload
    if is_tls || !is_printable_payload payload then ("", c)
    else
      let text := bytes_to_text_preview payload sn.PAYLOAD_TEXT_MAX_CHARS
      (text, if text = "" then c else c.set "state" (.str "open"))

/-- `packet["payload_text"] = self._interpret_payload(packet, payload)`. -/
def readPayload (sn : Sniffer) (c : Capture) (payload : Bytes) : Capture :=
  let (text, c) := sn.interpret_payload c payload
  c.set "payload_text" (.str text)

def bannerPayload (sn : Sniffer) (c : Capture) (payload : Bytes) : Capture :=
  let c := sn.readPayload c payload
  c.set "banner_text" (c.packet "payload_text")

theorem is_tls_payload_agree (keys : List String) (sn : Sniffer) (c : Capture)
    (payload : Bytes) : Agree keys c (sn.is_tls_payload c payload).2 := by
  intro k _
  rw [is_tls_payload]
  split_ifs <;> rfl

theorem interpret_payload_agree {keys : List String} (sn : Sniffer) (c : Capture)
    (payload : Bytes) (hState : "state" ∉ keys) :
    Agree keys c (sn.interpret_payload c payload).2 := by
  have hTls := is_tls_payload_agree keys sn c payload
  rw [interpret_payload]
  split_ifs
  · exact Agree.refl keys c
  · dsimp only
    split_ifs
    · exact hTls
    · exact hTls
    · exact (agree_set _ hState).mpr hTls

theorem readPayload_agree {keys : List String} (sn : Sniffer) (c : Capture) (payload : Bytes)
    (hState : "state" ∉ keys) (hText : "payload_text" ∉ keys) :
    Agree keys c (sn.readPayload c payload) :=
  (agree_set _ hText).mpr (interpret_payload_agree sn c payload hState)

theorem bannerPayload_agree {keys : List String} (sn : Sniffer) (c : Capture) (payload : Bytes)
    (hState : "state" ∉ keys) (hText : "payload_text" ∉ keys) (hBanner : "banner_text" ∉ keys) :
    Agree keys c (sn.bannerPayload c payload) :=
  (agree_set _ hBanner).mpr (readPayload_agree sn c payload hState hText)

end Sniffer

end Sniff4Hound
