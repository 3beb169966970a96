import Sniff4Hound.Capture.Carriers

/-!
# What the parsers do not read

The length of a capture, its hexadecimal preview and its timestamps are written into the packet
before anything is parsed, and no parser reads them: two packets that differ in nothing else still
differ in nothing else after the same parser.
-/

namespace Sniff4Hound

def CAPTURE_KEYS : List String := ["length", "payload_hex", "created_at", "updated_at"]

theorem merge_text (c : Capture) (key : String) {text : String} (hText : text ≠ "")
    (rest : Fields) :
    c.merge ((key, .str text) :: rest) = (c.set key (.str text)).merge rest := by
  rw [Capture.merge.eq_def]
  split
  · rename_i hEq
    cases hEq
  · rename_i hEq
    cases hEq
    exact absurd rfl hText
  · rename_i hEq
    cases hEq
  · rename_i hEq
    cases hEq
    rfl

theorem merge_cons (key : String) (value : Value) (rest : Fields) :
    (∀ c : Capture, c.merge ((key, value) :: rest) = c.merge rest) ∨
      ∀ c : Capture, c.merge ((key, value) :: rest) = (c.set key value).merge rest := by
  cases value with
  | null => exact Or.inl fun c => rfl
  | str text =>
    by_cases hText : text = ""
    · rw [hText]
      exact Or.inl fun c => rfl
    · exact Or.inr fun c => merge_text c key hText rest
  | bool b => exact Or.inr fun c => rfl
  | int i => exact Or.inr fun c => rfl
  | float q text => exact Or.inr fun c => rfl
  | list items => exact Or.inr fun c => rfl
  | dict entries => exact Or.inr fun c => rfl

theorem merge_related {r : Capture → Capture → Prop}
    (hSet : ∀ {c c' : Capture} key value, r c c' → r (c.set key value) (c'.set key value))
    (fields : Fields) : ∀ {c c' : Capture}, r c c' → r (c.merge fields) (c'.merge fields) := by
  induction fields with
  | nil => exact fun h => h
  | cons entry rest ih =>
    intro c c' h
    obtain ⟨key, value⟩ := entry
    rcases merge_cons key value rest with hSkip | hMerged
    · rw [hSkip, hSkip]
      exact ih h
    · rw [hMerged, hMerged]
      exact ih (hSet key value h)

/-! ## Captures that differ in some keys -/

/-- The captures agree but for what they hold under `keys`. -/
structure SameBut (keys : List String) (c c' : Capture) : Prop where
  tls_flows : c'.tls_flows = c.tls_flows
  packet : ∀ k, k ∉ keys → c'.packet k = c.packet k

abbrev Alike (c c' : Capture) : Prop := SameBut CAPTURE_KEYS c c'

/-- What the last touches read of a packet. -/
def FINISH_KEYS : List String :=
  ["proto", "src_ip", "eth_src", "src_port", "dst_ip", "eth_dst", "dst_port", "state",
    "payload_text", "summary"]

namespace SameBut

variable {keys : List String} {c c' c'' : Capture}

theorem refl (c : Capture) : SameBut keys c c := ⟨rfl, fun _ _ => rfl⟩

theorem ite {p : Prop} [Decidable p] {a a' b b' : Capture} (ha : SameBut keys a a')
    (hb : SameBut keys b b') : SameBut keys (if p then a else b) (if p then a' else b') := by
  split
  · exact ha
  · exact hb

section Keys

variable (h : SameBut keys c c')

include h

theorem symm : SameBut keys c' c :=
  ⟨h.tls_flows.symm, fun k hk => (h.packet k hk).symm⟩

theorem set (key : String) (value : Value) : SameBut keys (c.set key value) (c'.set key value) := by
  refine ⟨h.tls_flows, fun k hk => ?_⟩
  rw [set_packet, set_packet, h.packet k hk]

theorem set_hidden {key : String} (hKey : key ∈ keys) (value value' : Value) :
    SameBut keys (c.set key value) (c'.set key value') := by
  refine ⟨h.tls_flows, fun k hk => ?_⟩
  have hNe : k ≠ key := by
    rintro rfl
    exact hk hKey
  rw [set_packet_other _ _ hNe, set_packet_other _ _ hNe, h.packet k hk]

theorem set_read {key : String} {value value' : Value} (hValue : key ∉ keys → value' = value) :
    SameBut keys (c.set key value) (c'.set key value') := by
  by_cases hKey : key ∈ keys
  · exact h.set_hidden hKey _ _
  · rw [hValue hKey]
    exact h.set _ _

theorem setText (key text : String) : SameBut keys (c.setText key text) (c'.setText key text) := by
  rw [Capture.setText, Capture.setText]
  split
  · exact h
  · exact h.set _ _

theorem summarize (summary : String) :
    SameBut keys (c.summarize summary) (c'.summarize summary) := (h.set _ _).set _ _

theorem describe (summary : String) :
    SameBut keys (c.describe summary) (c'.describe summary) := (h.summarize summary).set _ _

theorem orSet {key : String} (hKey : key ∉ keys) (value : Value) :
    SameBut keys (c.orSet key value) (c'.orSet key value) := by
  rw [Capture.orSet, Capture.orSet, h.packet key hKey]
  exact h.set _ _

theorem merge (fields : Fields) : SameBut keys (c.merge fields) (c'.merge fields) :=
  merge_related (fun key value h => h.set key value) fields h

theorem applyName (app_proto : String) {payload payload' : Bytes}
    (hFields : decode_app_payload app_proto payload' = decode_app_payload app_proto payload) :
    SameBut keys (Sniff4Hound.applyName c app_proto payload)
      (Sniff4Hound.applyName c' app_proto payload') := by
  rw [Sniff4Hound.applyName, Sniff4Hound.applyName, apply_app_decoder, apply_app_decoder, hFields]
  split
  · exact h
  · exact (h.set _ _).merge _

theorem hopDefault (hHop : "hop_limit" ∉ keys) (ip_version : Nat) :
    SameBut keys (c.hopDefault ip_version) (c'.hopDefault ip_version) := by
  rw [Capture.hopDefault, Capture.hopDefault, h.packet "hop_limit" hHop]
  split
  · exact h.set _ _
  · exact h

theorem applyRequest (text : String) :
    SameBut keys (Sniff4Hound.applyRequest c text) (Sniff4Hound.applyRequest c' text) := by
  unfold Sniff4Hound.applyRequest
  dsimp only
  split
  · exact h
  split
  · exact ((h.set _ _).set _ _).set _ _
  · exact ((((h.set _ _).set _ _).set _ _).set _ _).set _ _

variable (sn : Sniffer)

theorem shown {key : String} (hKey : key ∉ keys) : sn.shown c' key = sn.shown c key := by
  rw [Sniffer.shown, Sniffer.shown, h.packet key hKey]

theorem endpointLine (hKeys : ∀ k ∈ ["src_ip", "src_port", "dst_ip", "dst_port"], k ∉ keys)
    (label : String) : sn.endpointLine c' label = sn.endpointLine c label := by
  rw [Sniffer.endpointLine, Sniffer.endpointLine, h.shown sn (hKeys "src_ip" (by decide)),
    h.shown sn (hKeys "src_port" (by decide)), h.shown sn (hKeys "dst_ip" (by decide)),
    h.shown sn (hKeys "dst_port" (by decide))]

section Finish

variable (hRead : ∀ k ∈ FINISH_KEYS, k ∉ keys)

include hRead

theorem summaryOrFallback : SameBut keys (sn.summaryOrFallback c) (sn.summaryOrFallback c') := by
  have hFallback : sn.fallback_summary c' = sn.fallback_summary c := by
    rw [Sniffer.fallback_summary, Sniffer.fallback_summary]
    rw [h.packet "src_ip" (hRead _ (by decide)), h.packet "eth_src" (hRead _ (by decide)),
      h.packet "dst_ip" (hRead _ (by decide)), h.packet "eth_dst" (hRead _ (by decide)),
      h.packet "src_port" (hRead _ (by decide)), h.packet "dst_port" (hRead _ (by decide)),
      h.packet "proto" (hRead _ (by decide))]
  rw [Sniffer.summaryOrFallback, Sniffer.summaryOrFallback, hFallback]
  exact h.orSet (hRead _ (by decide)) _

theorem finalize_packet (hCapture : CAPTURE_KEYS ⊆ keys) :
    SameBut keys (sn.finalize_packet c) (sn.finalize_packet c') := by
  rw [Sniffer.finalize_packet, Sniffer.finalize_packet]
  dsimp only
  rw [h.packet "proto" (hRead _ (by decide)), h.packet "src_ip" (hRead _ (by decide)),
    h.packet "eth_src" (hRead _ (by decide)), h.packet "src_port" (hRead _ (by decide)),
    h.packet "dst_ip" (hRead _ (by decide)), h.packet "eth_dst" (hRead _ (by decide)),
    h.packet "dst_port" (hRead _ (by decide))]
  generalize Value.str (stable_flow_key _ _ _ _ _ _) = flow_key
  have hKey := h.set "flow_key" flow_key
  have hSame : sn.direction_for (c'.set "flow_key" flow_key) =
      sn.direction_for (c.set "flow_key" flow_key) := by
    rw [Sniffer.direction_for, Sniffer.direction_for, hKey.packet "src_ip" (hRead _ (by decide)),
      hKey.packet "dst_ip" (hRead _ (by decide))]
  rw [hSame]
  have hDirection := hKey.set "direction" (.str (sn.direction_for (c.set "flow_key" flow_key)))
  refine ((((hDirection.set_read fun hBanner => ?_).orSet (hRead _ (by decide)) _).orSet
    (hRead _ (by decide)) _).set_hidden (hCapture (by decide)) _ _).summaryOrFallback sn hRead
  rw [hDirection.packet "banner_text" hBanner,
    hDirection.packet "payload_text" (hRead _ (by decide))]

end Finish

end Keys

variable (h : SameBut CAPTURE_KEYS c c')

include h

/-! ## Decoders -/

theorem apply_dns_result (rt : Runtime) (payload : Bytes)
    (label source : String) : Alike (Sniff4Hound.apply_dns_result rt c payload label source)
      (Sniff4Hound.apply_dns_result rt c' payload label source) := by
  have hQuestion : ∀ {c c' : Capture} questions, Alike c c' →
      Alike (applyQuestion c source questions) (applyQuestion c' source questions) := by
    intro c c' questions h
    cases questions with
    | nil => exact h
    | cons question rest => exact ((h.set _ _).set _ _).set _ _
  have hAnswer : ∀ {c c' : Capture} answers, Alike c c' →
      Alike (applyAnswer rt c answers) (applyAnswer rt c' answers) := by
    intro c c' answers h
    cases answers with
    | nil => exact h
    | cons answer rest =>
      rw [applyAnswer, applyAnswer, h.packet "domain" (by decide)]
      dsimp only
      split
      · exact h
      · exact ((h.set _ _).set _ _).set _ _
  rw [Sniff4Hound.apply_dns_result, Sniff4Hound.apply_dns_result]
  split
  · exact hAnswer _ ((((hQuestion _ h).set _ _).set _ _).set _ _)
  · exact ((hAnswer _ ((((hQuestion _ h).set _ _).set _ _).set _ _)).summarize _).orSet
      (by decide) _

theorem parse_dhcp (payload : Bytes) :
    Alike (Sniff4Hound.parse_dhcp c payload) (Sniff4Hound.parse_dhcp c' payload) := by
  have hType : ∀ (found : DhcpOptions) {c c' : Capture}, Alike c c' →
      Alike (found.applyType c) (found.applyType c') := by
    intro found c c' h
    rw [DhcpOptions.applyType, DhcpOptions.applyType]
    split
    · exact h.set _ _
    · exact h
  rw [Sniff4Hound.parse_dhcp, Sniff4Hound.parse_dhcp]
  cases dhcp_options payload with
  | none => exact (h.set _ _).summarize _
  | some found =>
    exact ((((hType found (h.set _ _)).setText _ _).setText _ _).setText _ _).describe _

theorem parse_nbns (payload : Bytes) :
    Alike (Sniff4Hound.parse_nbns c payload) (Sniff4Hound.parse_nbns c' payload) := by
  rw [Sniff4Hound.parse_nbns, Sniff4Hound.parse_nbns]
  split
  · exact (h.set _ _).summarize _
  · exact (h.set _ _).describe _

theorem parse_modbus (payload : Bytes) :
    Alike (Sniff4Hound.parse_modbus c payload) (Sniff4Hound.parse_modbus c' payload) := by
  rw [Sniff4Hound.parse_modbus, Sniff4Hound.parse_modbus]
  split
  · exact (h.set _ _).summarize _
  · exact ((((h.set _ _).set _ _).set _ _).set _ _).describe _

theorem parse_dnp3 (payload : Bytes) :
    Alike (Sniff4Hound.parse_dnp3 c payload) (Sniff4Hound.parse_dnp3 c' payload) := by
  rw [Sniff4Hound.parse_dnp3, Sniff4Hound.parse_dnp3]
  split
  · exact (h.set _ _).summarize _
  · exact ((((h.set _ _).set _ _).set _ _).set _ _).describe _

theorem parse_snmp (payload : Bytes) :
    Alike (Sniff4Hound.parse_snmp c payload) (Sniff4Hound.parse_snmp c' payload) := by
  unfold Sniff4Hound.parse_snmp
  dsimp only
  split
  · exact (h.set _ _).summarize _
  split
  · have hSummary := (h.set "proto" (.str "snmp")).orSet
      (by decide : "summary" ∉ CAPTURE_KEYS) (.str "SNMP packet")
    rw [hSummary.packet "summary" (by decide)]
    exact hSummary.set _ _
  · exact (((h.set _ _).set _ _).set _ _).describe _

theorem parse_syslog (payload : Bytes) :
    Alike (Sniff4Hound.parse_syslog c payload) (Sniff4Hound.parse_syslog c' payload) := by
  unfold Sniff4Hound.parse_syslog
  dsimp only
  split
  · exact ((((h.set _ _).set _ _).set _ _).summarize _).set _ _
  · exact ((h.set _ _).summarize _).set _ _

theorem parse_tftp (payload : Bytes) :
    Alike (Sniff4Hound.parse_tftp c payload) (Sniff4Hound.parse_tftp c' payload) := by
  unfold Sniff4Hound.parse_tftp
  dsimp only
  split
  · exact (h.set _ _).summarize _
  split
  · exact (((h.set _ _).setText _ _).setText _ _).describe _
  · exact (h.set _ _).describe _

theorem parse_radius (payload : Bytes) :
    Alike (Sniff4Hound.parse_radius c payload) (Sniff4Hound.parse_radius c' payload) := by
  unfold Sniff4Hound.parse_radius
  dsimp only
  split
  · exact (h.set _ _).summarize _
  · exact (((h.set _ _).setText _ _).setText _ _).describe _

theorem parse_mqtt (payload : Bytes) :
    Alike (Sniff4Hound.parse_mqtt c payload) (Sniff4Hound.parse_mqtt c' payload) := by
  unfold Sniff4Hound.parse_mqtt
  dsimp only
  split
  · exact (((h.set _ _).setText _ _).setText _ _).describe _
  · exact (h.set _ _).describe _

/-! ## Payloads -/

variable (sn : Sniffer)

theorem isTcp : c'.isTcp = c.isTcp := by
  rw [Capture.isTcp, Capture.isTcp, h.packet "proto" (by decide)]

theorem flowKey : sn.flowKey c' = sn.flowKey c := by
  rw [Sniffer.flowKey, Sniffer.flowKey, h.packet "src_ip" (by decide),
    h.packet "src_port" (by decide), h.packet "dst_ip" (by decide), h.packet "dst_port" (by decide)]

theorem usesPort (port : Int) : sn.usesPort c' port = sn.usesPort c port := by
  rw [Sniffer.usesPort, Sniffer.usesPort, h.packet "src_port" (by decide),
    h.packet "dst_port" (by decide)]

theorem is_tls_payload (payload : Bytes) :
    (sn.is_tls_payload c' payload).1 = (sn.is_tls_payload c payload).1 ∧
      Alike (sn.is_tls_payload c payload).2 (sn.is_tls_payload c' payload).2 := by
  rw [Sniffer.is_tls_payload, Sniffer.is_tls_payload, h.isTcp, h.flowKey sn, h.tls_flows]
  split
  · refine ⟨rfl, ?_⟩
    dsimp only
    split
    · exact ⟨rfl, h.packet⟩
    · exact h
  · exact ⟨rfl, h⟩

theorem interpret_payload (payload : Bytes) :
    (sn.interpret_payload c' payload).1 = (sn.interpret_payload c payload).1 ∧
      Alike (sn.interpret_payload c payload).2 (sn.interpret_payload c' payload).2 := by
  obtain ⟨hTls, hNext⟩ := h.is_tls_payload sn payload
  rw [Sniffer.interpret_payload, Sniffer.interpret_payload]
  split
  · exact ⟨rfl, h⟩
  dsimp only
  rw [hTls]
  split
  · exact ⟨rfl, hNext⟩
  · refine ⟨rfl, ?_⟩
    dsimp only
    split
    · exact hNext
    · exact hNext.set _ _

theorem readPayload (payload : Bytes) :
    Alike (sn.readPayload c payload) (sn.readPayload c' payload) := by
  obtain ⟨hText, hNext⟩ := h.interpret_payload sn payload
  rw [Sniffer.readPayload, Sniffer.readPayload]
  dsimp only
  rw [hText]
  exact hNext.set _ _

theorem bannerPayload (payload : Bytes) :
    Alike (sn.bannerPayload c payload) (sn.bannerPayload c' payload) := by
  have hRead := h.readPayload sn payload
  rw [Sniffer.bannerPayload, Sniffer.bannerPayload]
  rw [hRead.packet "payload_text" (by decide)]
  exact hRead.set _ _

theorem shortBody (summary : String) (body : Bytes) :
    Alike (sn.shortBody c summary body) (sn.shortBody c' summary body) :=
  (h.set _ _).bannerPayload sn body

theorem summaryOrLine (label : String) :
    Alike (sn.summaryOrLine c label) (sn.summaryOrLine c' label) := by
  rw [Sniffer.summaryOrLine, Sniffer.summaryOrLine, h.endpointLine sn (by decide),
    h.packet "banner_text" (by decide)]
  exact h.set _ _

/-! ## TCP -/

theorem classify_tcp_banner (payload : Bytes) :
    (sn.classify_tcp_banner c' payload).1 = (sn.classify_tcp_banner c payload).1 ∧
      Alike (sn.classify_tcp_banner c payload).2 (sn.classify_tcp_banner c' payload).2 := by
  obtain ⟨hTls, hNext⟩ := h.is_tls_payload sn payload
  rw [Sniffer.classify_tcp_banner, Sniffer.classify_tcp_banner]
  by_cases hNil : payload = []
  · rw [if_pos hNil, if_pos hNil]
    exact ⟨rfl, h⟩
  rw [if_neg hNil, if_neg hNil]
  by_cases hStart : payload.startswith [0x16, 0x03] = true
  · rw [if_pos hStart, if_pos hStart]
    exact ⟨rfl, h⟩
  rw [if_neg hStart, if_neg hStart]
  dsimp only
  rw [hTls]
  cases (sn.is_tls_payload c payload).1 with
  | true => exact ⟨rfl, hNext⟩
  | false =>
    rw [if_neg Bool.false_ne_true, if_neg Bool.false_ne_true]
    refine ⟨?_, hNext⟩
    dsimp only
    rw [hNext.usesPort sn, hNext.usesPort sn, hNext.usesPort sn, hNext.usesPort sn]

theorem tcpBanner (payload : Bytes) :
    Alike (sn.tcpBanner c payload) (sn.tcpBanner c' payload) := by
  have hRead := h.readPayload sn payload
  obtain ⟨hText, hNext⟩ := hRead.classify_tcp_banner sn payload
  rw [Sniffer.tcpBanner, Sniffer.tcpBanner]
  dsimp only
  rw [hRead.packet "payload_text" (by decide), hText]
  split
  · exact hRead.set _ _
  · exact hNext.set _ _

theorem applySni (rt : Runtime) (payload : Bytes) :
    Alike (Sniff4Hound.applySni rt c payload) (Sniff4Hound.applySni rt c' payload) := by
  have hBanner := h.orSet (by decide : "banner_text" ∉ CAPTURE_KEYS) (.str "TLS handshake")
  rw [Sniff4Hound.applySni, Sniff4Hound.applySni]
  split
  · dsimp only
    split
    · exact hBanner
    · exact (hBanner.set _ _).set _ _
  · exact h

variable (body : Bytes)

theorem parse_tcp (ip_version : Nat) :
    Alike (sn.parse_tcp c body ip_version) (sn.parse_tcp c' body ip_version) := by
  have hHeader : Alike (tcpHeader (c.set "proto" (.str "tcp")) body)
      (tcpHeader (c'.set "proto" (.str "tcp")) body) :=
    (((((((h.set _ _).set _ _).set _ _).set _ _).set _ _).set _ _).set _ _).set _ _
  rw [Sniffer.parse_tcp, Sniffer.parse_tcp]
  split
  · exact ((h.set _ _).set _ _).shortBody sn _ _
  dsimp only
  cases tcpClaim sn.toRuntime (body.num 0 2) (body.num 2 4) (tcpPayload body) with
  | some decoder =>
    cases decoder with
    | dns => exact ((hHeader.set _ _).apply_dns_result _ _ _ _).hopDefault (by decide) _
    | modbus => exact (hHeader.parse_modbus _).hopDefault (by decide) _
    | dnp3 => exact (hHeader.parse_dnp3 _).hopDefault (by decide) _
    | mqtt => exact (hHeader.parse_mqtt _).hopDefault (by decide) _
  | none =>
    have hNamed := ((((hHeader.tcpBanner sn (tcpPayload body)).summaryOrLine sn
      "TCP").hopDefault (by decide) ip_version).applySni sn.toRuntime (tcpPayload body)).applyName
        (classify_tcp (body.num 0 2) (body.num 2 4) (tcpPayload body))
          (rfl : decode_app_payload _ (tcpPayload body) = _)
    dsimp only
    rw [Sniffer.parseTcpPayload, Sniffer.parseTcpPayload]
    rw [hNamed.shown sn (by decide)]
    exact hNamed.applyRequest _

/-! ## UDP -/

theorem service_endpoint (rt : Runtime) :
    Sniff4Hound.service_endpoint rt c'.packet = Sniff4Hound.service_endpoint rt c.packet := by
  rw [Sniff4Hound.service_endpoint, Sniff4Hound.service_endpoint,
    h.packet "src_port" (by decide), h.packet "dst_port" (by decide),
    h.packet "transport" (by decide), h.packet "proto" (by decide),
    h.packet "tcp_flags" (by decide), h.packet "src_ip" (by decide),
    h.packet "dst_ip" (by decide)]

theorem udpHeader (rt : Runtime) (body : Bytes) :
    Alike (Sniff4Hound.udpHeader rt c body) (Sniff4Hound.udpHeader rt c' body) := by
  have hFields : Alike (((udpFields c body).set "payload_len" (.int (udpPayload body).length)).set
      "payload_hex" (.str (bytes_to_hex_preview (udpPayload body) HEX_PREVIEW_LIMIT)))
      (((udpFields c' body).set "payload_len" (.int (udpPayload body).length)).set
        "payload_hex" (.str (bytes_to_hex_preview (udpPayload body) HEX_PREVIEW_LIMIT))) :=
    ((((h.set _ _).set _ _).set _ _).set _ _).set _ _
  rw [Sniff4Hound.udpHeader, Sniff4Hound.udpHeader]
  rw [hFields.service_endpoint rt, hFields.packet "src_ip" (by decide)]
  split
  · exact hFields.set _ _
  · exact hFields

theorem udpBanner (payload : Bytes) :
    Alike (sn.udpBanner c payload) (sn.udpBanner c' payload) := by
  have hRead := h.readPayload sn payload
  have hBanner : sn.classify_udp_banner (sn.readPayload c' payload) payload =
      sn.classify_udp_banner (sn.readPayload c payload) payload := by
    rw [Sniffer.classify_udp_banner, Sniffer.classify_udp_banner, hRead.usesPort sn,
      hRead.usesPort sn, hRead.usesPort sn, hRead.usesPort sn, hRead.usesPort sn]
  rw [Sniffer.udpBanner, Sniffer.udpBanner]
  rw [hRead.packet "payload_text" (by decide), hBanner]
  exact (hRead.set _ _).summaryOrLine sn _

theorem parse_udp (ip_version : Nat) :
    Alike (sn.parse_udp c body ip_version) (sn.parse_udp c' body ip_version) := by
  rw [Sniffer.parse_udp, Sniffer.parse_udp]
  split
  · exact ((h.set _ _).set _ _).shortBody sn _ _
  have hReady := (((h.set "proto" (.str "udp")).udpHeader sn.toRuntime body).udpBanner sn
    (udpPayload body)).hopDefault (by decide) ip_version
  dsimp only
  rw [parseUdpPayload, parseUdpPayload]
  split
  · exact (hReady.set _ _).apply_dns_result _ _ _ _
  · exact hReady.parse_dhcp _
  · exact (hReady.set _ _).apply_dns_result _ _ _ _
  · exact (hReady.set _ _).apply_dns_result _ _ _ _
  · exact hReady.parse_nbns _
  · exact hReady.parse_snmp _
  · exact hReady.parse_syslog _
  · exact hReady.parse_tftp _
  · exact hReady.parse_radius _
  · exact hReady.parse_dnp3 _
  · exact hReady.applyName _ rfl

/-! ## The other transports -/

theorem parse_sctp (ip_version : Nat) :
    Alike (sn.parse_sctp c body ip_version) (sn.parse_sctp c' body ip_version) := by
  rw [Sniffer.parse_sctp, Sniffer.parse_sctp]
  split
  · exact ((h.set _ _).set _ _).shortBody sn _ _
  · exact (((((h.set _ _).set _ _).set _ _).bannerPayload sn _).summaryOrLine sn _).hopDefault (by decide) _

theorem parse_icmp (ipv6 : Bool) :
    Alike (sn.parse_icmp c body ipv6) (sn.parse_icmp c' body ipv6) := by
  have hRead := (((h.set "proto" (.str (if ipv6 then "icmpv6" else "icmp"))).set "icmp_type"
    (.int (body.byte 0))).set "icmp_code" (.int (body.byte 1))).readPayload sn (body.drop 4)
  have hBanner := hRead.set "banner_text" (((sn.readPayload (((c.set "proto" (.str (if ipv6 then
    "icmpv6" else "icmp"))).set "icmp_type" (.int (body.byte 0))).set "icmp_code"
      (.int (body.byte 1))) (body.drop 4)).packet "payload_text").orElse
        (.str (Sniffer.classify_icmp_banner (body.byte 0) (body.byte 1))))
  rw [Sniffer.parse_icmp, Sniffer.parse_icmp]
  dsimp only
  split
  · exact (h.set _ _).shortBody sn _ _
  · rw [hRead.packet "payload_text" (by decide), hBanner.packet "banner_text" (by decide)]
    exact hBanner.set _ _

theorem parse_igmp : Alike (sn.parse_igmp c body) (sn.parse_igmp c' body) := by
  rw [Sniffer.parse_igmp, Sniffer.parse_igmp]
  dsimp only
  split
  · exact ((h.set _ _).summarize _).readPayload sn _
  split
  · exact (h.set _ _).describe _
  · exact ((h.set _ _).set _ _).describe _

theorem parse_gre : Alike (Sniff4Hound.parse_gre c body) (Sniff4Hound.parse_gre c' body) := by
  rw [Sniff4Hound.parse_gre, Sniff4Hound.parse_gre]
  split
  · exact (h.set _ _).summarize _
  · exact (h.set _ _).describe _

theorem parse_esp : Alike (Sniff4Hound.parse_esp c body) (Sniff4Hound.parse_esp c' body) := by
  rw [Sniff4Hound.parse_esp, Sniff4Hound.parse_esp]
  split
  · exact (h.set _ _).summarize _
  · exact (h.set _ _).summarize _

theorem parse_ah (ip_version : Nat) :
    Alike (sn.parse_ah c body ip_version) (sn.parse_ah c' body ip_version) := by
  have hInner : Alike (sn.parseAhInner c body ip_version) (sn.parseAhInner c' body ip_version) := by
    rw [Sniffer.parseAhInner, Sniffer.parseAhInner]
    split
    · exact h.parse_tcp sn _ _
    split
    · exact h.parse_udp sn _ _
    split
    · exact h.parse_icmp sn _ _
    · exact (h.set _ _).summarize _
  rw [Sniffer.parse_ah, Sniffer.parse_ah]
  split
  · exact (h.set _ _).summarize _
  · dsimp only
    rw [hInner.packet "summary" (by decide)]
    exact hInner.summarize _

theorem nameIpProtocol (proto label : String) (body : Bytes) :
    Alike (sn.nameIpProtocol c proto label body) (sn.nameIpProtocol c' proto label body) := by
  have hNamed := h.set "proto" (.str (if proto = "" then "unknown" else proto))
  rw [Sniffer.nameIpProtocol, Sniffer.nameIpProtocol]
  rw [hNamed.shown sn (by decide), hNamed.shown sn (by decide)]
  exact (hNamed.set _ _).bannerPayload sn _

/-! ## The network layer -/

theorem parseIpv4Body (proto : Nat) (body : Bytes) :
    Alike (sn.parseIpv4Body c proto body) (sn.parseIpv4Body c' proto body) := by
  rw [Sniffer.parseIpv4Body, Sniffer.parseIpv4Body]
  refine .ite (h.parse_tcp sn _ _) ?_
  refine .ite (h.parse_udp sn _ _) ?_
  refine .ite (h.parse_sctp sn _ _) ?_
  refine .ite (h.parse_icmp sn _ _) ?_
  refine .ite (h.parse_igmp sn _) ?_
  refine .ite (h.parse_gre _) ?_
  refine .ite (h.parse_esp _) ?_
  exact .ite (h.parse_ah sn _ _) (h.nameIpProtocol sn _ _ _)

theorem parseIpv6Body (next_header : Option Nat) (body : Bytes)
    (detail : String) :
    Alike (sn.parseIpv6Body c next_header body detail)
      (sn.parseIpv6Body c' next_header body detail) := by
  unfold Sniffer.parseIpv6Body
  refine .ite (h.parse_tcp sn _ _) ?_
  refine .ite (h.parse_udp sn _ _) ?_
  refine .ite (h.parse_sctp sn _ _) ?_
  refine .ite (h.parse_icmp sn _ _) ?_
  refine .ite (h.parse_esp _) ?_
  exact .ite (h.parse_ah sn _ _) (h.nameIpProtocol sn _ _ _)

theorem parse_arp (payload : Bytes) :
    Alike (sn.parse_arp c payload) (sn.parse_arp c' payload) := by
  have hFields : Alike (arpFields (c.set "proto" (.str "arp")) payload)
      (arpFields (c'.set "proto" (.str "arp")) payload) :=
    (((((((((h.set _ _).set _ _).set _ _).set _ _).set _ _).set _ _).set _ _).set _ _).set
      _ _).set _ _
  have hMismatch : ∀ sender_mac, Alike
      (arpMismatch sn.toRuntime (arpFields (c.set "proto" (.str "arp")) payload) sender_mac)
      (arpMismatch sn.toRuntime (arpFields (c'.set "proto" (.str "arp")) payload) sender_mac) := by
    intro sender_mac
    rw [arpMismatch, arpMismatch, hFields.packet "eth_src" (by decide)]
    split
    · exact hFields.set _ _
    · exact hFields
  have hBanner : ∀ {c c' : Capture}, Alike c c' →
      Alike (sn.bannerOrSummary c payload) (sn.bannerOrSummary c' payload) := by
    intro c c' h
    have hRead := h.readPayload sn payload
    rw [Sniffer.bannerOrSummary, Sniffer.bannerOrSummary]
    rw [hRead.packet "payload_text" (by decide), hRead.packet "summary" (by decide)]
    exact hRead.set _ _
  rw [Sniffer.parse_arp, Sniffer.parse_arp]
  split
  · exact (h.set _ _).shortBody sn _ _
  · have hSender := hMismatch (format_mac (payload.slice 8 14))
    dsimp only
    rw [hSender.shown sn (by decide), hSender.shown sn (by decide), hSender.shown sn (by decide)]
    exact hBanner (hSender.set _ _)

theorem parseNetwork (kind : EtherKind) (packet : Bytes) :
    Alike (sn.parseNetwork c kind packet) (sn.parseNetwork c' kind packet) := by
  cases kind with
  | ipv4 =>
    rw [Sniffer.parseNetwork, Sniffer.parseNetwork, Sniffer.parse_ipv4, Sniffer.parse_ipv4]
    split
    · exact h.shortBody sn _ _
    · exact (((((h.set _ _).set _ _).set _ _).set _ _).parseIpv4Body sn _ _).summaryOrFallback sn
        (by decide)
  | ipv6 =>
    rw [Sniffer.parseNetwork, Sniffer.parseNetwork, Sniffer.parse_ipv6, Sniffer.parse_ipv6]
    split
    · exact h.shortBody sn _ _
    · exact (((((h.set _ _).set _ _).set _ _).set _ _).parseIpv6Body sn _ _ _).summaryOrFallback
        sn (by decide)
  | arp => exact h.parse_arp sn packet

end SameBut

end Sniff4Hound
