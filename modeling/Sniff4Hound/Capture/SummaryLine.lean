import Sniff4Hound.Capture.FlowMemory

/-!
# The line that a payload leaves in the summary

The summary of a segment is written by the decoder that takes it over, or else by the decoder of
the application, or else it is the text of the payload, a banner or the line of the endpoints. Here
it is given as a function of the headers and the payload (`Shot.line`), next to what else is known
of the parsed packet.
-/

namespace Sniff4Hound

/-! ## Lines -/

def said (text : String) : Capture where
  packet k := if k = "summary" then .str text else .null
  tls_flows := []

namespace Sniffer

def payloadText (sn : Sniffer) (known : Bool) (payload : Bytes) : String :=
  if payload = [] then ""
  else if looks_like_tls payload || known || !is_printable_payload payload then ""
  else bytes_to_text_preview payload sn.PAYLOAD_TEXT_MAX_CHARS

def tcpBannerText (sn : Sniffer) (known : Bool) (src_port dst_port : Nat) (payload : Bytes) :
    String :=
  if payload = [] then ""
  else if payload.startswith [0x16, 0x03] then "TLS handshake"
  else if looks_like_tls payload || known then "TLS application data"
  else
    let text := bytes_to_text_preview payload sn.PAYLOAD_TEXT_MAX_CHARS
    if startswith text "HTTP/1." then "HTTP response"
    else if startswith text "GET " || startswith text "POST " || startswith text "HEAD " then
      "HTTP request"
    else if src_port = 22 ∨ dst_port = 22 then "SSH session"
    else if src_port = 25 ∨ dst_port = 25 then "SMTP session"
    else if src_port = 445 ∨ dst_port = 445 then "SMB session"
    else if src_port = 3389 ∨ dst_port = 3389 then "RDP session"
    else text

def udpBannerText (sn : Sniffer) (src_port dst_port : Nat) (payload : Bytes) : String :=
  if src_port = 53 ∨ dst_port = 53 then "DNS message"
  else if (src_port = 67 ∨ dst_port = 67) ∨ src_port = 68 ∨ dst_port = 68 then "DHCP message"
  else if src_port = 123 ∨ dst_port = 123 then "NTP message"
  else if src_port = 5353 ∨ dst_port = 5353 then "mDNS message"
  else bytes_to_text_preview payload sn.PAYLOAD_TEXT_MAX_CHARS

def firstText (text banner endpoints : String) : String :=
  if text ≠ "" then text else if banner ≠ "" then banner else endpoints

def tcpLine (sn : Sniffer) (known : Bool) (endpoints : String) (src_port dst_port : Nat)
    (payload : Bytes) : Value :=
  let rt := sn.toRuntime
  let decoded := match tcpClaim rt src_port dst_port payload with
    | some .dns => apply_dns_result rt (said "") (dnsOverTcp payload) "DNS" "dns"
    | some .modbus => parse_modbus (said "") payload
    | some .dnp3 => parse_dnp3 (said "") payload
    | some .mqtt => parse_mqtt (said "") payload
    | none => applyName (said (firstText (sn.payloadText known payload)
        (sn.tcpBannerText known src_port dst_port payload) endpoints))
        (classify_tcp src_port dst_port payload) payload
  decoded.packet "summary"

def udpLine (sn : Sniffer) (endpoints : String) (src_port dst_port : Nat) (payload : Bytes) :
    Value :=
  let banner := firstText (sn.payloadText false payload)
    (sn.udpBannerText src_port dst_port payload) endpoints
  (parseUdpPayload sn.toRuntime (said banner) src_port dst_port payload).packet "summary"

end Sniffer

/-! ## Decoders and the summary -/

def SameSummary (c c' : Capture) : Prop := c'.packet "summary" = c.packet "summary"

namespace SameSummary

variable {c c' : Capture}

theorem set (h : SameSummary c c') {key : String} (hKey : "summary" ≠ key) (value value' : Value) :
    SameSummary (c.set key value) (c'.set key value') := by
  rw [SameSummary, set_packet_other _ _ hKey, set_packet_other _ _ hKey]
  exact h

theorem summarize (c c' : Capture) (summary : String) :
    SameSummary (c.summarize summary) (c'.summarize summary) := rfl

theorem describe (c c' : Capture) (summary : String) :
    SameSummary (c.describe summary) (c'.describe summary) := rfl

theorem merge (fields : Fields) (h : SameSummary c c') :
    SameSummary (c.merge fields) (c'.merge fields) := by
  refine merge_related (fun key value h => ?_) fields h
  rw [SameSummary, set_packet, set_packet, h]

theorem applyName (h : SameSummary c c') (app_proto : String) (payload : Bytes) :
    SameSummary (Sniff4Hound.applyName c app_proto payload)
      (Sniff4Hound.applyName c' app_proto payload) := by
  rw [Sniff4Hound.applyName, Sniff4Hound.applyName]
  split
  · exact h
  · exact merge _ (h.set (by decide) _ _)

theorem apply_dns_result (h : SameSummary c c') (rt : Runtime) (payload : Bytes)
    (label source : String) :
    SameSummary (Sniff4Hound.apply_dns_result rt c payload label source)
      (Sniff4Hound.apply_dns_result rt c' payload label source) := by
  have hQuestion : ∀ questions, SameSummary (applyQuestion c source questions)
      (applyQuestion c' source questions) := by
    intro questions
    cases questions with
    | nil => exact h
    | cons question rest =>
      exact ((h.set (by decide) _ _).set (by decide) _ _).set (by decide) _ _
  have hAnswer : ∀ {c c' : Capture} answers, SameSummary c c' →
      SameSummary (applyAnswer rt c answers) (applyAnswer rt c' answers) := by
    intro c c' answers h
    cases answers with
    | nil => exact h
    | cons answer rest =>
      rw [applyAnswer, applyAnswer]
      dsimp only
      split
      · exact h
      · exact ((h.set (by decide) _ _).set (by decide) _ _).set (by decide) _ _
  rw [Sniff4Hound.apply_dns_result, Sniff4Hound.apply_dns_result]
  split
  · exact hAnswer _ ((((hQuestion _).set (by decide) _ _).set (by decide) _ _).set (by decide) _ _)
  · exact (summarize _ _ _).set (by decide) _ _

theorem choice {p : Prop} [Decidable p] {d d' : Capture} (hThen : SameSummary c c')
    (hElse : SameSummary d d') : SameSummary (if p then c else d) (if p then c' else d') := by
  split
  · exact hThen
  · exact hElse

theorem parse_dhcp (c c' : Capture) (payload : Bytes) :
    SameSummary (Sniff4Hound.parse_dhcp c payload) (Sniff4Hound.parse_dhcp c' payload) := by
  rw [Sniff4Hound.parse_dhcp, Sniff4Hound.parse_dhcp]
  dsimp only
  split
  · exact summarize _ _ _
  · exact describe _ _ _

theorem parse_nbns (c c' : Capture) (payload : Bytes) :
    SameSummary (Sniff4Hound.parse_nbns c payload) (Sniff4Hound.parse_nbns c' payload) := by
  rw [Sniff4Hound.parse_nbns, Sniff4Hound.parse_nbns]
  dsimp only
  exact choice (summarize _ _ _) (describe _ _ _)

theorem parse_modbus (c c' : Capture) (payload : Bytes) :
    SameSummary (Sniff4Hound.parse_modbus c payload) (Sniff4Hound.parse_modbus c' payload) := by
  rw [Sniff4Hound.parse_modbus, Sniff4Hound.parse_modbus]
  dsimp only
  exact choice (summarize _ _ _) (describe _ _ _)

theorem parse_dnp3 (c c' : Capture) (payload : Bytes) :
    SameSummary (Sniff4Hound.parse_dnp3 c payload) (Sniff4Hound.parse_dnp3 c' payload) := by
  rw [Sniff4Hound.parse_dnp3, Sniff4Hound.parse_dnp3]
  dsimp only
  exact choice (summarize _ _ _) (describe _ _ _)

theorem parse_snmp (h : SameSummary c c') (payload : Bytes) :
    SameSummary (Sniff4Hound.parse_snmp c payload) (Sniff4Hound.parse_snmp c' payload) := by
  have hProto : SameSummary (c.set "proto" (.str "snmp")) (c'.set "proto" (.str "snmp")) :=
    h.set (by decide) _ _
  rw [Sniff4Hound.parse_snmp, Sniff4Hound.parse_snmp]
  dsimp only
  split
  · exact summarize _ _ _
  split
  · refine SameSummary.set ?_ (by decide) _ _
    rw [SameSummary, Capture.orSet, Capture.orSet, set_packet_same, set_packet_same, hProto]
  · exact describe _ _ _

theorem parse_syslog (c c' : Capture) (payload : Bytes) :
    SameSummary (Sniff4Hound.parse_syslog c payload) (Sniff4Hound.parse_syslog c' payload) := by
  rw [Sniff4Hound.parse_syslog, Sniff4Hound.parse_syslog]
  dsimp only
  split
  · exact (summarize _ _ _).set (by decide) _ _
  · exact (summarize _ _ _).set (by decide) _ _

theorem parse_tftp (c c' : Capture) (payload : Bytes) :
    SameSummary (Sniff4Hound.parse_tftp c payload) (Sniff4Hound.parse_tftp c' payload) := by
  rw [Sniff4Hound.parse_tftp, Sniff4Hound.parse_tftp]
  dsimp only
  exact choice (summarize _ _ _) (choice (describe _ _ _) (describe _ _ _))

theorem parse_radius (c c' : Capture) (payload : Bytes) :
    SameSummary (Sniff4Hound.parse_radius c payload) (Sniff4Hound.parse_radius c' payload) := by
  rw [Sniff4Hound.parse_radius, Sniff4Hound.parse_radius]
  dsimp only
  exact choice (summarize _ _ _) (describe _ _ _)

theorem parse_mqtt (c c' : Capture) (payload : Bytes) :
    SameSummary (Sniff4Hound.parse_mqtt c payload) (Sniff4Hound.parse_mqtt c' payload) := by
  rw [Sniff4Hound.parse_mqtt, Sniff4Hound.parse_mqtt]
  dsimp only
  exact choice (describe _ _ _) (describe _ _ _)

theorem parseUdpPayload (h : SameSummary c c') (rt : Runtime) (src_port dst_port : Nat)
    (payload : Bytes) :
    SameSummary (Sniff4Hound.parseUdpPayload rt c src_port dst_port payload)
      (Sniff4Hound.parseUdpPayload rt c' src_port dst_port payload) := by
  have hProto : ∀ name, SameSummary (c.set "proto" (.str name)) (c'.set "proto" (.str name)) :=
    fun name => h.set (by decide) _ _
  rw [Sniff4Hound.parseUdpPayload, Sniff4Hound.parseUdpPayload]
  cases udpClaim src_port dst_port payload with
  | none => exact h.applyName _ _
  | some decoder =>
    cases decoder with
    | dns => exact (hProto _).apply_dns_result rt _ _ _
    | dhcp => exact parse_dhcp _ _ _
    | mdns => exact (hProto _).apply_dns_result rt _ _ _
    | llmnr => exact (hProto _).apply_dns_result rt _ _ _
    | nbns => exact parse_nbns _ _ _
    | snmp => exact h.parse_snmp _
    | syslog => exact parse_syslog _ _ _
    | tftp => exact parse_tftp _ _ _
    | radius => exact parse_radius _ _ _
    | dnp3 => exact parse_dnp3 _ _ _

theorem hopDefault (c : Capture) (ip_version : Nat) : SameSummary c (c.hopDefault ip_version) := by
  rw [Capture.hopDefault]
  split <;> rfl

theorem applySni (c : Capture) (rt : Runtime) (payload : Bytes) :
    SameSummary c (Sniff4Hound.applySni rt c payload) := by
  rw [Sniff4Hound.applySni]
  dsimp only
  split_ifs <;> rfl

theorem applyRequest (c : Capture) (text : String) :
    SameSummary c (Sniff4Hound.applyRequest c text) := by
  rw [Sniff4Hound.applyRequest]
  dsimp only
  split_ifs <;> rfl

end SameSummary

/-! ## The summary of a segment -/

section Parsed

variable (sn : Sniffer) (c : Capture) {src_port dst_port : Nat} (payload : Bytes)

theorem readPayload_text : (sn.readPayload c payload).packet "payload_text" =
    .str (sn.payloadText (c.isTcp && decide (sn.flowKey c ∈ c.tls_flows)) payload) := by
  have hValue : (sn.readPayload c payload).packet "payload_text" =
      .str (sn.interpret_payload c payload).1 := rfl
  rw [hValue, Sniffer.interpret_payload, Sniffer.payloadText]
  split
  · rfl
  rw [Sniffer.is_tls_payload]
  cases looks_like_tls payload with
  | true => rfl
  | false =>
    dsimp only
    rw [if_neg Bool.false_ne_true, Bool.false_or]
    split
    · rfl
    · rfl

theorem usesPort_eq (hSrc : c.packet "src_port" = .int src_port)
    (hDst : c.packet "dst_port" = .int dst_port) (port : Nat) :
    sn.usesPort c port = decide (src_port = port ∨ dst_port = port) := by
  rw [Sniffer.usesPort, hSrc, hDst, Bool.decide_or]
  congr 1
  · exact decide_eq_decide.mpr Nat.cast_inj
  · exact decide_eq_decide.mpr Nat.cast_inj

theorem classify_tcp_banner_text {known : Bool} (hSrc : c.packet "src_port" = .int src_port)
    (hDst : c.packet "dst_port" = .int dst_port)
    (hKnown : (looks_like_tls payload || (c.isTcp && decide (sn.flowKey c ∈ c.tls_flows))) =
      (looks_like_tls payload || known)) :
    (sn.classify_tcp_banner c payload).1 = sn.tcpBannerText known src_port dst_port payload := by
  have hTls : (sn.is_tls_payload c payload).1 = (looks_like_tls payload || known) := by
    rw [← hKnown, Sniffer.is_tls_payload]
    split
    · rename_i hRecord
      rw [hRecord, Bool.true_or]
    · rename_i hRecord
      rw [Bool.not_eq_true] at hRecord
      rw [hRecord, Bool.false_or]
  have hAgree := sn.is_tls_payload_agree ["src_port", "dst_port"] c payload
  have hUses := usesPort_eq sn (sn.is_tls_payload c payload).2
    ((hAgree "src_port" (by decide)).trans hSrc) ((hAgree "dst_port" (by decide)).trans hDst)
  rw [Sniffer.classify_tcp_banner, Sniffer.tcpBannerText]
  by_cases hSome : payload = []
  · rw [if_pos hSome, if_pos hSome]
  rw [if_neg hSome, if_neg hSome]
  by_cases hStart : payload.startswith [0x16, 0x03] = true
  · rw [if_pos hStart, if_pos hStart]
  rw [if_neg hStart, if_neg hStart]
  dsimp only
  rw [hTls]
  by_cases hHidden : (looks_like_tls payload || known) = true
  · rw [if_pos hHidden, if_pos hHidden]
  rw [if_neg hHidden, if_neg hHidden]
  have h22 := hUses 22
  have h25 := hUses 25
  have h445 := hUses 445
  have h3389 := hUses 3389
  dsimp only [Nat.cast_ofNat] at h22 h25 h445 h3389
  rw [h22, h25, h445, h3389]
  simp only [decide_eq_true_iff]

theorem tcpBanner_text (hTcp : c.isTcp = true) (hSrc : c.packet "src_port" = .int src_port)
    (hDst : c.packet "dst_port" = .int dst_port) {known : Bool}
    (hKnown : decide (sn.flowKey c ∈ c.tls_flows) = known) :
    (sn.tcpBanner c payload).packet "banner_text" = .str
      (if sn.payloadText known payload ≠ "" then sn.payloadText known payload
      else sn.tcpBannerText known src_port dst_port payload) := by
  have hRead : Agree CORE_KEYS c (sn.readPayload c payload) :=
    sn.readPayload_agree c payload (by decide) (by decide)
  have hText := readPayload_text sn c payload
  rw [hTcp, hKnown, Bool.true_and] at hText
  -- the memory has grown by the flow of a TLS record only
  have hAgain : (looks_like_tls payload || ((sn.readPayload c payload).isTcp &&
      decide (sn.flowKey (sn.readPayload c payload) ∈ (sn.readPayload c payload).tls_flows))) =
      (looks_like_tls payload || known) := by
    cases hRecord : looks_like_tls payload with
    | true => rfl
    | false =>
      have hFlows : (sn.readPayload c payload).tls_flows = c.tls_flows := by
        refine (flows_interpret_payload sn c payload).trans ?_
        rw [flows_is_tls_payload sn c payload hTcp, noted, hRecord, if_neg Bool.false_ne_true]
      rw [isTcp_agree hRead, hTcp, flowKey_agree sn hRead, hFlows, hKnown]
      rfl
  rw [Sniffer.tcpBanner]
  dsimp only
  rw [hText]
  split
  · rename_i hShown
    rw [if_pos (bne_iff_ne.mp hShown)]
    rfl
  · rename_i hNone
    rw [if_neg (not_not.mpr (by simpa [Value.truthy] using hNone))]
    refine (set_packet_same _ _ _).trans (congrArg Value.str ?_)
    exact classify_tcp_banner_text sn _ payload ((hRead "src_port" (by decide)).trans hSrc)
      ((hRead "dst_port" (by decide)).trans hDst) hAgain

theorem endpointLine_agree {c c' : Capture}
    (h : Agree ["src_ip", "src_port", "dst_ip", "dst_port"] c c') (label : String) :
    sn.endpointLine c' label = sn.endpointLine c label := by
  rw [Sniffer.endpointLine, Sniffer.endpointLine, Sniffer.shown, Sniffer.shown, Sniffer.shown,
    Sniffer.shown, Sniffer.shown, Sniffer.shown, Sniffer.shown, Sniffer.shown,
    h "src_ip" (by decide), h "src_port" (by decide), h "dst_ip" (by decide),
    h "dst_port" (by decide)]

theorem orElse_text (text other : String) :
    (Value.str text).orElse (.str other) = .str (if text ≠ "" then text else other) := by
  rw [Value.orElse, Value.truthy, apply_ite Value.str]
  simp only [bne_iff_ne]

theorem summaryOrLine_text {text banner : String} (label : String)
    (hBanner : c.packet "banner_text" = .str (if text ≠ "" then text else banner)) :
    (sn.summaryOrLine c label).packet "summary" =
      .str (Sniffer.firstText text banner (sn.endpointLine c label)) := by
  rw [Sniffer.summaryOrLine, set_packet_same, hBanner, orElse_text, Sniffer.firstText]
  by_cases hText : text = ""
  · rw [if_neg (not_not.mpr hText), if_neg (not_not.mpr hText)]
  · rw [if_pos hText, if_pos hText, if_pos hText]

variable {payload}

theorem tcpFields_append {header : Bytes} (hLong : 20 ≤ header.length) :
    tcpFields c (header ++ payload) = tcpFields c header := by
  rw [tcpFields, tcpFields, num_append_left header payload (by omega),
    num_append_left header payload (by omega), byte_append_left header payload (by omega)]

theorem udpFields_append {header : Bytes} (hLong : 8 ≤ header.length) :
    udpFields c (header ++ payload) = udpFields c header := by
  rw [udpFields, udpFields, num_append_left header payload (by omega),
    num_append_left header payload (by omega)]

theorem parse_tcp_summary {header : Bytes} (ip_version : Nat)
    (hFits : (SegmentHeader.tcp header).Fits payload.length)
    (hBlank : c.packet "summary" = .str "") :
    (sn.parse_tcp c (header ++ payload) ip_version).packet "summary" =
      sn.tcpLine (decide (stable_flow_key sn.toRuntime (.str "tcp") (c.packet "src_ip")
          (.int (header.num 0 2)) (c.packet "dst_ip") (.int (header.num 2 4)) ∈ c.tls_flows))
        (sn.endpointLine (tcpFields c header) "TCP") (header.num 0 2) (header.num 2 4) payload := by
  have hPayload := tcpPayload_around hFits
  obtain ⟨hLong, -⟩ := hFits
  have hSrc : (header ++ payload).num 0 2 = header.num 0 2 :=
    num_append_left header payload (by omega)
  have hDst : (header ++ payload).num 2 4 = header.num 2 4 :=
    num_append_left header payload (by omega)
  have hFields : tcpFields c (header ++ payload) = tcpFields c header :=
    tcpFields_append c hLong
  rw [Sniffer.parse_tcp, if_neg (by rw [List.length_append]; omega), hSrc, hDst, hPayload,
    Sniffer.tcpLine]
  dsimp only
  generalize hHeader : tcpHeader (c.set "proto" (.str "tcp")) (header ++ payload) = start
  have hSame : SameSummary (said "") start := by
    rw [← hHeader]
    exact hBlank
  cases tcpClaim sn.toRuntime (header.num 0 2) (header.num 2 4) payload with
  | some decoder =>
    cases decoder with
    | dns =>
      have hProto : SameSummary (said "") (start.set "proto" (.str "dns")) := hSame
      exact (SameSummary.hopDefault _ _).trans (hProto.apply_dns_result _ _ _ _)
    | modbus => exact (SameSummary.hopDefault _ _).trans (SameSummary.parse_modbus _ _ _)
    | dnp3 => exact (SameSummary.hopDefault _ _).trans (SameSummary.parse_dnp3 _ _ _)
    | mqtt => exact (SameSummary.hopDefault _ _).trans (SameSummary.parse_mqtt _ _ _)
  | none =>
    have hStart : start.isTcp = true ∧ start.packet "src_port" = .int (header.num 0 2) ∧
        start.packet "dst_port" = .int (header.num 2 4) ∧ start.tls_flows = c.tls_flows ∧
        sn.flowKey start = stable_flow_key sn.toRuntime (.str "tcp") (c.packet "src_ip")
          (.int (header.num 0 2)) (c.packet "dst_ip") (.int (header.num 2 4)) := by
      rw [← hHeader, ← hSrc, ← hDst]
      exact ⟨rfl, rfl, rfl, rfl, rfl⟩
    obtain ⟨hTcp, hStartSrc, hStartDst, hFlows, hKey⟩ := hStart
    have hBanner := tcpBanner_text sn start payload hTcp hStartSrc hStartDst
      (congrArg₂ (fun key (flows : List String) => decide (key ∈ flows)) hKey hFlows)
    have hLine := summaryOrLine_text sn _ "TCP" hBanner
    have hEnds : sn.endpointLine (sn.tcpBanner start payload) "TCP" =
        sn.endpointLine (tcpFields c header) "TCP" := by
      refine (endpointLine_agree sn ((tcpBanner_keeps sn start payload).mono (by decide))
        "TCP").trans ?_
      rw [← hHeader, ← hFields]
      rfl
    rw [hEnds] at hLine
    have hNamed : SameSummary (said _) (applySni sn.toRuntime ((sn.summaryOrLine
        (sn.tcpBanner start payload) "TCP").hopDefault ip_version) payload) :=
      (SameSummary.applySni _ _ _).trans ((SameSummary.hopDefault _ _).trans hLine)
    dsimp only
    rw [Sniffer.parseTcpPayload]
    refine Eq.trans ?_ (hNamed.applyName _ _)
    exact SameSummary.applyRequest _ _

theorem parse_udp_summary {header rest : Bytes} (ip_version : Nat)
    (hFits : (SegmentHeader.udp header rest).Fits payload.length) :
    (sn.parse_udp c (header ++ (payload ++ rest)) ip_version).packet "summary" =
      sn.udpLine (sn.endpointLine (udpFields c header) "UDP") (header.num 0 2) (header.num 2 4)
        payload := by
  have hPayload := udpPayload_around hFits
  obtain ⟨hLong, -⟩ := hFits
  have hSrc : (header ++ (payload ++ rest)).num 0 2 = header.num 0 2 :=
    num_append_left header _ (by omega)
  have hDst : (header ++ (payload ++ rest)).num 2 4 = header.num 2 4 :=
    num_append_left header _ (by omega)
  have hFields : udpFields c (header ++ (payload ++ rest)) = udpFields c header :=
    udpFields_append c (by omega)
  rw [Sniffer.parse_udp, if_neg (by rw [List.length_append]; omega), hSrc, hDst, hPayload,
    Sniffer.udpLine]
  dsimp only
  generalize hHeader : udpHeader sn.toRuntime (c.set "proto" (.str "udp"))
    (header ++ (payload ++ rest)) = start
  have hStart := udpHeader_agree sn.toRuntime (c.set "proto" (.str "udp"))
    (header ++ (payload ++ rest))
  rw [hHeader] at hStart
  have hOther : start.isTcp = false := by
    rw [isTcp_agree hStart]
    rfl
  have hStartSrc : start.packet "src_port" = .int (header.num 0 2) := by
    rw [hStart "src_port" (by decide), ← hSrc]
    rfl
  have hStartDst : start.packet "dst_port" = .int (header.num 2 4) := by
    rw [hStart "dst_port" (by decide), ← hDst]
    rfl
  have hRead : Agree CORE_KEYS start (sn.readPayload start payload) :=
    sn.readPayload_agree start payload (by decide) (by decide)
  have hUses := usesPort_eq sn (sn.readPayload start payload)
    ((hRead "src_port" (by decide)).trans hStartSrc)
    ((hRead "dst_port" (by decide)).trans hStartDst)
  have hText := readPayload_text sn start payload
  rw [hOther, Bool.false_and] at hText
  have hBannerText : sn.classify_udp_banner (sn.readPayload start payload) payload =
      sn.udpBannerText (header.num 0 2) (header.num 2 4) payload := by
    have h53 := hUses 53
    have h67 := hUses 67
    have h68 := hUses 68
    have h123 := hUses 123
    have h5353 := hUses 5353
    dsimp only [Nat.cast_ofNat] at h53 h67 h68 h123 h5353
    rw [Sniffer.classify_udp_banner, Sniffer.udpBannerText, h53, h67, h68, h123, h5353]
    simp only [decide_eq_true_iff, Bool.or_eq_true]
  have hBanner : ((sn.readPayload start payload).set "banner_text"
      (((sn.readPayload start payload).packet "payload_text").orElse
        (.str (sn.classify_udp_banner (sn.readPayload start payload) payload)))).packet
          "banner_text" = .str (if sn.payloadText false payload ≠ "" then
            sn.payloadText false payload
          else sn.udpBannerText (header.num 0 2) (header.num 2 4) payload) := by
    rw [set_packet_same, hText, hBannerText, orElse_text]
  have hLine := summaryOrLine_text sn _ "UDP" hBanner
  have hEnds : sn.endpointLine ((sn.readPayload start payload).set "banner_text"
      (((sn.readPayload start payload).packet "payload_text").orElse
        (.str (sn.classify_udp_banner (sn.readPayload start payload) payload)))) "UDP" =
          sn.endpointLine (udpFields c header) "UDP" := by
    have hShown : Agree CORE_KEYS (udpFields (c.set "proto" (.str "udp"))
        (header ++ (payload ++ rest))) ((sn.readPayload start payload).set "banner_text"
          (((sn.readPayload start payload).packet "payload_text").orElse
            (.str (sn.classify_udp_banner (sn.readPayload start payload) payload)))) :=
      (agree_set _ (by decide)).mpr (hStart.trans hRead)
    refine (endpointLine_agree sn (hShown.mono (by decide)) "UDP").trans ?_
    rw [← hFields]
    rfl
  rw [hEnds] at hLine
  have hNamed : SameSummary (said _) ((sn.udpBanner start payload).hopDefault ip_version) :=
    (SameSummary.hopDefault _ _).trans hLine
  exact hNamed.parseUdpPayload _ _ _ _

end Parsed

/-! ## The parsed packet -/

section Finished

variable (sn : Sniffer) (c : Capture)

theorem summaryOrFallback_keeps : Agree FRAME_KEYS c (sn.summaryOrFallback c) := by
  rw [Sniffer.summaryOrFallback, Capture.orSet, agree_set _ (by decide)]
  exact Agree.refl _ c

theorem finalize_packet_keeps : Agree FRAME_KEYS c (sn.finalize_packet c) := by
  refine Agree.trans ?_ (summaryOrFallback_keeps sn _)
  simp (disch := decide) only [Capture.orSet, agree_set, Agree.refl]

theorem fallback_summary_ne_empty : sn.fallback_summary c ≠ "" := by
  intro hEmpty
  have hList := congrArg String.toList hEmpty
  rw [Sniffer.fallback_summary] at hList
  simp at hList

theorem fallback_summary_agree {c c' : Capture} (h : Agree FRAME_KEYS c c') :
    sn.fallback_summary c' = sn.fallback_summary c := by
  rw [Sniffer.fallback_summary, Sniffer.fallback_summary, h "src_ip" (by decide),
    h "eth_src" (by decide), h "dst_ip" (by decide), h "eth_dst" (by decide),
    h "src_port" (by decide), h "dst_port" (by decide), h "proto" (by decide)]

theorem finished_summary {headers : Capture} (h : Agree FRAME_KEYS headers c) :
    (sn.finalize_packet (sn.summaryOrFallback c)).packet "summary" =
      (c.packet "summary").orElse (.str (sn.fallback_summary headers)) := by
  have hFallback := fallback_summary_agree sn h
  have hFirst : (sn.summaryOrFallback c).packet "summary" =
      (c.packet "summary").orElse (.str (sn.fallback_summary headers)) := by
    rw [Sniffer.summaryOrFallback, Capture.orSet, set_packet_same, hFallback]
  have hTruthy : ((sn.summaryOrFallback c).packet "summary").truthy = true := by
    rw [hFirst, Value.orElse]
    split
    · assumption
    · exact bne_iff_ne.mpr (fallback_summary_ne_empty sn headers)
  have hSecond : ∃ other, (sn.finalize_packet (sn.summaryOrFallback c)).packet "summary" =
      ((sn.summaryOrFallback c).packet "summary").orElse other := ⟨_, rfl⟩
  obtain ⟨other, hOther⟩ := hSecond
  rw [hOther, Value.orElse, if_pos hTruthy, hFirst]

end Finished

namespace Shot

variable (s : Shot) (sn : Sniffer) (flows : List String)

def proto (rt : Runtime) : String :=
  match s.envelope.segment with
  | .tcp header => tcp_proto rt (header.num 0 2) (header.num 2 4) s.payload
  | .udp header _ => udp_proto (header.num 0 2) (header.num 2 4) s.payload

def networkFields : Capture :=
  s.envelope.network.fields (s.carrier.base flows s.now s.interface)

def transportFields : Capture :=
  match s.envelope.segment with
  | .tcp header => tcpFields (s.networkFields flows) header
  | .udp header _ => udpFields (s.networkFields flows) header

def headers : Capture :=
  (s.transportFields flows).set "proto" (.str (s.proto sn.toRuntime))

def segmentLine : Value :=
  match s.envelope.segment with
  | .tcp header => sn.tcpLine (decide (s.key sn ∈ flows))
      (sn.endpointLine (s.transportFields flows) "TCP") (header.num 0 2) (header.num 2 4) s.payload
  | .udp header _ => sn.udpLine (sn.endpointLine (s.transportFields flows) "UDP")
      (header.num 0 2) (header.num 2 4) s.payload

/-- The summary of the packet: the line of the segment, behind that of an authentication header. -/
def line : Value :=
  match s.envelope.authentication with
  | none => (s.segmentLine sn flows).orElse (.str (sn.fallback_summary (s.headers sn flows)))
  | some header => .str ("AH SPI=" ++ hexText 8 (header.num 4 8) ++ " seq=" ++
      toString (header.num 8 12) ++ " | " ++ (s.segmentLine sn flows).text sn.toRuntime)

theorem networkFields_blank : (s.networkFields flows).packet "summary" = .str "" := by
  have hFields : ∀ c, (s.envelope.network.fields c).packet "summary" = c.packet "summary" := by
    intro c
    cases s.envelope.network <;> rfl
  rw [networkFields, hFields]
  cases s.carrier with
  | plain frame => cases frame <;> rfl
  | snap frame => rfl

theorem parseSegment_line :
    Agree FRAME_KEYS (s.headers sn flows)
        (sn.parseSegment (s.networkFields flows) s.envelope s.payload) ∧
      (sn.parseSegment (s.networkFields flows) s.envelope s.payload).packet "summary" =
        s.segmentLine sn flows := by
  have hFits := s.fits.segment
  obtain ⟨hSrcIp, hDstIp⟩ := s.addresses_fields (s.carrier.base flows s.now s.interface)
  have hFlows := s.flows_fields flows
  have hBlank := s.networkFields_blank flows
  rw [source] at hSrcIp
  rw [destination] at hDstIp
  rw [← networkFields] at hSrcIp hDstIp hFlows
  rw [headers, segmentLine, transportFields, proto, key, source, destination,
    Sniffer.parseSegment]
  generalize s.networkFields flows = c at hSrcIp hDstIp hFlows hBlank
  cases hSegment : s.envelope.segment with
  | tcp header =>
    rw [hSegment] at hFits
    have hSummary := parse_tcp_summary sn c s.envelope.network.version hFits hBlank
    rw [hSrcIp, hDstIp, hFlows] at hSummary
    have hKeeps := parse_tcp_keeps sn c (header ++ s.payload) s.envelope.network.version
      (by rw [List.length_append]; exact Nat.le_add_right_of_le hFits.1)
    rw [tcpPayload_around hFits, tcpFields_append c hFits.1,
      num_append_left header s.payload (by have := hFits.1; omega),
      num_append_left header s.payload (by have := hFits.1; omega)] at hKeeps
    rw [hSegment] at hSummary
    exact ⟨hKeeps.mono (List.subset_cons_self _ _), hSummary⟩
  | udp header rest =>
    rw [hSegment] at hFits
    have hLong : 8 ≤ header.length := Nat.le_of_eq hFits.1.symm
    have hSummary := parse_udp_summary sn c s.envelope.network.version hFits
    have hKeeps := parse_udp_keeps sn c (header ++ (s.payload ++ rest))
      s.envelope.network.version (by rw [List.length_append]; exact Nat.le_add_right_of_le hLong)
    rw [udpPayload_around hFits, udpFields_append c hLong,
      num_append_left header _ (by omega), num_append_left header _ (by omega)] at hKeeps
    exact ⟨hKeeps, hSummary⟩

theorem parsed_line (hRead : ¬s.carrier.Misread) :
    ∃ c, sn.parse_packet flows s.captured = some c ∧ Agree FRAME_KEYS (s.headers sn flows) c ∧
      c.packet "summary" = s.line sn flows := by
  obtain ⟨hKeeps, hSummary⟩ := s.parseSegment_line sn flows
  have hBody : Agree FRAME_KEYS (s.headers sn flows)
      (sn.parseBody (s.networkFields flows) s.envelope s.payload) := by
    rw [Sniffer.parseBody]
    cases s.envelope.authentication with
    | none => exact hKeeps
    | some header => exact (agree_summarize _ (by decide) (by decide)).mpr hKeeps
  refine ⟨_, s.parse_packet sn flows hRead, ?_, ?_⟩
  · exact (hBody.trans (summaryOrFallback_keeps sn _)).trans (finalize_packet_keeps sn _)
  · rw [← networkFields, finished_summary sn _ hBody, Sniffer.parseBody, line]
    cases s.envelope.authentication with
    | none => exact congrArg (fun line : Value => line.orElse _) hSummary
    | some header =>
      dsimp only
      rw [hSummary, Capture.summarize, set_packet_other _ _ (by decide), set_packet_same]
      refine if_pos (bne_iff_ne.mpr ?_)
      intro hEmpty
      have hList := congrArg String.toList hEmpty
      simp at hList

end Shot

end Sniff4Hound
