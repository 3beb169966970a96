import Sniff4Hound.Capture.FlowMemory
import Sniff4Hound.Detection.PacketText

/-!
# What monitors read of ciphertext

Content and regex monitors inspect `build_packet_text`. The payload text of a packet leaves out what
is binary or belongs to a TLS flow, but two more ways lead from a payload to the summary: the banner
of a segment falls back to whatever is printable in it, and the decoders of line protocols show the
first line. `same_texts` says for which payloads neither of them shows anything: two runs whose
opaque payloads differ only in such ways give the monitors the same texts.
-/

namespace Sniff4Hound

/-! ## What is not shown -/

def UNSHOWN_KEYS : List String := "banner_text" :: CAPTURE_KEYS

namespace SameBut

variable {keys : List String} {c c' c'' : Capture}

theorem of_alike (h : Alike c c') (hKeys : CAPTURE_KEYS ⊆ keys) : SameBut keys c c' :=
  ⟨h.tls_flows, fun k hk => h.packet k fun hMem => hk (hKeys hMem)⟩

theorem trans (h : SameBut keys c c') (h' : SameBut keys c' c'') : SameBut keys c c'' :=
  ⟨h'.tls_flows.trans h.tls_flows, fun k hk => (h'.packet k hk).trans (h.packet k hk)⟩

theorem reveal {key : String} (h : SameBut (key :: keys) c c') (value : Value) :
    SameBut keys (c.set key value) (c'.set key value) := by
  refine ⟨h.tls_flows, fun k hk => ?_⟩
  rw [set_packet, set_packet]
  split
  · rfl
  · rename_i hNe
    exact h.packet k fun hMem => (List.mem_cons.mp hMem).elim hNe hk

def sniFields (c : Capture) (sni : String) : Capture :=
  if sni = "" then c else (c.set "domain" (.str sni)).set "domain_source" (.str "tls_sni")

theorem sniFields_both (h : SameBut keys c c') (sni : String) :
    SameBut keys (sniFields c sni) (sniFields c' sni) := by
  rw [sniFields, sniFields]
  split
  · exact h
  · exact (h.set _ _).set _ _

theorem applySni_fields (c : Capture) (rt : Runtime) (hBanner : "banner_text" ∈ keys)
    (payload : Bytes) :
    SameBut keys (sniFields c (extract_tls_sni rt payload)) (Sniff4Hound.applySni rt c payload) := by
  have hSet : ∀ value, SameBut keys c (c.set "banner_text" value) := by
    intro value
    refine ⟨rfl, fun k hk => set_packet_other _ _ ?_⟩
    rintro rfl
    exact hk hBanner
  rw [Sniff4Hound.applySni]
  split
  · exact sniFields_both (hSet _) _
  · rename_i hOther
    have hNone : extract_tls_sni rt payload = "" := by
      rw [extract_tls_sni]
      by_cases hHead : payload.length < 44 ∨ payload.byte 0 ≠ 0x16 ∨ payload.byte 5 ≠ 0x01
      · rw [if_pos hHead]
      · obtain ⟨hLong, hFirst⟩ := not_or.mp hHead
        obtain ⟨hFirst, -⟩ := not_or.mp hFirst
        cases payload with
        | nil => exact absurd (by decide) hLong
        | cons b rest =>
          have hByte : b.toNat = 0x16 := not_not.mp hFirst
          exact absurd (congrArg (fun b => [b]) (UInt8.toNat_inj.mp hByte)) hOther
    rw [hNone]
    exact ⟨rfl, fun k hk => rfl⟩

theorem applySni_both (h : SameBut keys c c') (rt : Runtime) (hBanner : "banner_text" ∈ keys)
    {payload payload' : Bytes} (hName : extract_tls_sni rt payload' = extract_tls_sni rt payload) :
    SameBut keys (Sniff4Hound.applySni rt c payload) (Sniff4Hound.applySni rt c' payload') := by
  have hBoth := sniFields_both h (extract_tls_sni rt payload)
  have hLast := applySni_fields c' rt hBanner payload'
  rw [hName] at hLast
  exact ((applySni_fields c rt hBanner payload).symm.trans hBoth).trans hLast

theorem build_packet_text (env : Env) (h : SameBut UNSHOWN_KEYS c c') :
    Sniff4Hound.build_packet_text env c'.packet = Sniff4Hound.build_packet_text env c.packet := by
  have hFields : PACKET_TEXT_FIELDS.map c'.packet = PACKET_TEXT_FIELDS.map c.packet := by
    refine List.map_congr_left fun k hk => h.packet k ?_
    exact (by decide : ∀ k ∈ PACKET_TEXT_FIELDS, k ∉ UNSHOWN_KEYS) k hk
  rw [Sniff4Hound.build_packet_text, Sniff4Hound.build_packet_text, hFields]

end SameBut

/-! ## Opaque payloads -/

def LINE_PROTOCOLS : List String := ["ftp", "smtp", "pop3", "imap", "irc", "nntp"]

def BANNER_PORTS : List Nat := [22, 25, 445, 3389]

def HTTP_STARTS : List String := ["HTTP/1.", "GET ", "POST ", "HEAD "]

section Opaque

variable (sn : Sniffer) {c c' : Capture} {payload payload' : Bytes}

theorem readPayload_unread (hRecord : looks_like_tls payload = false)
    (hHidden : (c.isTcp = true ∧ sn.flowKey c ∈ c.tls_flows) ∨
      is_printable_payload payload = false) :
    sn.readPayload c payload = c.set "payload_text" (.str "") := by
  have hInterpret : sn.interpret_payload c payload = ("", c) := by
    rw [Sniffer.interpret_payload, Sniffer.is_tls_payload, hRecord]
    split
    · rfl
    · dsimp only
      rcases hHidden with ⟨hTcp, hKey⟩ | hBinary
      · rw [hTcp, decide_eq_true hKey]
        rfl
      · rw [hBinary, Bool.not_false, Bool.or_true]
        rfl
  rw [Sniffer.readPayload, hInterpret]

/-- The banners of two segments are the same: both begin like a handshake, or neither does and the
banner is that of a remembered flow or of a port, or the same text is left of both. -/
def SameBanner (limit : Nat) (remembered : Prop) (src_port dst_port : Nat)
    (payload payload' : Bytes) : Prop :=
  (payload.startswith [0x16, 0x03] = true ∧ payload'.startswith [0x16, 0x03] = true) ∨
    (payload.startswith [0x16, 0x03] = false ∧ payload'.startswith [0x16, 0x03] = false ∧
      (remembered ∨
        bytes_to_text_preview payload' limit = bytes_to_text_preview payload limit ∨
        ((src_port ∈ BANNER_PORTS ∨ dst_port ∈ BANNER_PORTS) ∧ ∀ start ∈ HTTP_STARTS,
          startswith (bytes_to_text_preview payload limit) start = false ∧
            startswith (bytes_to_text_preview payload' limit) start = false)))

def portBanner (sn : Sniffer) (c : Capture) (text : String) : String :=
  if sn.usesPort c 22 then "SSH session"
  else if sn.usesPort c 25 then "SMTP session"
  else if sn.usesPort c 445 then "SMB session"
  else if sn.usesPort c 3389 then "RDP session"
  else text

theorem portBanner_fixed {src_port dst_port : Nat}
    (hSrc : c.packet "src_port" = .int src_port) (hDst : c.packet "dst_port" = .int dst_port)
    (hPort : src_port ∈ BANNER_PORTS ∨ dst_port ∈ BANNER_PORTS) (text text' : String) :
    portBanner sn c text' = portBanner sn c text := by
  have hUses : ∀ port : Nat, src_port = port ∨ dst_port = port → sn.usesPort c port = true := by
    intro port hPort
    rw [Sniffer.usesPort, hSrc, hDst, Bool.or_eq_true, decide_eq_true_eq, decide_eq_true_eq]
    exact hPort.imp (congrArg Nat.cast) (congrArg Nat.cast)
  have hFour : ∃ port ∈ BANNER_PORTS, sn.usesPort c (port : Nat) = true := by
    rcases hPort with hMem | hMem
    · exact ⟨src_port, hMem, hUses _ (Or.inl rfl)⟩
    · exact ⟨dst_port, hMem, hUses _ (Or.inr rfl)⟩
  obtain ⟨port, hMem, hUsed⟩ := hFour
  rw [portBanner, portBanner]
  split
  · rfl
  split
  · rfl
  split
  · rfl
  split
  · rfl
  simp only [BANNER_PORTS, List.mem_cons, List.not_mem_nil, or_false] at hMem
  rcases hMem with rfl | rfl | rfl | rfl <;> contradiction

theorem classify_tcp_banner_unread (hSome : payload ≠ [])
    (hStart : payload.startswith [0x16, 0x03] = false) (hRecord : looks_like_tls payload = false) :
    sn.classify_tcp_banner c payload = (if c.isTcp = true ∧ sn.flowKey c ∈ c.tls_flows then
      "TLS application data"
    else
      let text := bytes_to_text_preview payload sn.PAYLOAD_TEXT_MAX_CHARS
      if startswith text "HTTP/1." then "HTTP response"
      else if startswith text "GET " || startswith text "POST " || startswith text "HEAD " then
        "HTTP request"
      else portBanner sn c text, c) := by
  rw [Sniffer.classify_tcp_banner, if_neg hSome, hStart, if_neg Bool.false_ne_true,
    Sniffer.is_tls_payload, hRecord, if_neg Bool.false_ne_true]
  dsimp only
  by_cases hTls : c.isTcp = true ∧ sn.flowKey c ∈ c.tls_flows
  · rw [if_pos hTls, hTls.1, decide_eq_true hTls.2]
    rfl
  · have hFlag : (c.isTcp && decide (sn.flowKey c ∈ c.tls_flows)) = false := by
      rw [← Bool.not_eq_true, Bool.and_eq_true, decide_eq_true_eq]
      exact hTls
    rw [if_neg hTls, hFlag, if_neg Bool.false_ne_true]
    rfl

theorem classify_tcp_banner_same {remembered : Prop} {src_port dst_port : Nat}
    (hLength : payload'.length = payload.length) (hRecord : looks_like_tls payload = false)
    (hRecord' : looks_like_tls payload' = false)
    (hSrc : c.packet "src_port" = .int src_port) (hDst : c.packet "dst_port" = .int dst_port)
    (hRemembered : remembered → c.isTcp = true ∧ sn.flowKey c ∈ c.tls_flows)
    (h : SameBanner sn.PAYLOAD_TEXT_MAX_CHARS remembered src_port dst_port payload payload') :
    sn.classify_tcp_banner c payload' = sn.classify_tcp_banner c payload ∧
      (sn.classify_tcp_banner c payload).2 = c := by
  by_cases hSome : payload = []
  · subst hSome
    rw [List.eq_nil_of_length_eq_zero hLength]
    exact ⟨rfl, rfl⟩
  have hSome' : payload' ≠ [] := by
    rintro rfl
    exact hSome (List.eq_nil_of_length_eq_zero hLength.symm)
  rcases h with ⟨hStart, hStart'⟩ | ⟨hStart, hStart', hShown⟩
  · rw [Sniffer.classify_tcp_banner, Sniffer.classify_tcp_banner, if_neg hSome, if_neg hSome',
      if_pos hStart, if_pos hStart']
    exact ⟨rfl, rfl⟩
  · rw [classify_tcp_banner_unread sn hSome hStart hRecord,
      classify_tcp_banner_unread sn hSome' hStart' hRecord']
    refine ⟨?_, rfl⟩
    by_cases hTls : c.isTcp = true ∧ sn.flowKey c ∈ c.tls_flows
    · rw [if_pos hTls, if_pos hTls]
    · rw [if_neg hTls, if_neg hTls]
      rcases hShown with hKnown | hSame | ⟨hPort, hPlain⟩
      · exact absurd (hRemembered hKnown) hTls
      · rw [hSame]
      · simp only [HTTP_STARTS, List.forall_mem_cons, List.not_mem_nil, false_imp_iff,
          implies_true, and_true] at hPlain
        obtain ⟨⟨hHttp, hHttp'⟩, ⟨hGet, hGet'⟩, ⟨hPost, hPost'⟩, ⟨hHead, hHead'⟩⟩ := hPlain
        dsimp only
        rw [hHttp, hHttp', hGet, hGet', hPost, hPost', hHead, hHead',
          portBanner_fixed sn hSrc hDst hPort]

theorem classify_tcp_banner_capture (hRecord : looks_like_tls payload = false) :
    (sn.classify_tcp_banner c payload).2 = c := by
  by_cases hSome : payload = []
  · rw [Sniffer.classify_tcp_banner, if_pos hSome]
  cases hStart : payload.startswith [0x16, 0x03] with
  | true => rw [Sniffer.classify_tcp_banner, if_neg hSome, if_pos hStart]
  | false => rw [classify_tcp_banner_unread sn hSome hStart hRecord]

theorem tcpBanner_unread (hRecord : looks_like_tls payload = false)
    (hHidden : (c.isTcp = true ∧ sn.flowKey c ∈ c.tls_flows) ∨
      is_printable_payload payload = false) :
    sn.tcpBanner c payload = (c.set "payload_text" (.str "")).set "banner_text"
      (.str (sn.classify_tcp_banner (c.set "payload_text" (.str "")) payload).1) := by
  have hCapture := classify_tcp_banner_capture sn (c := c.set "payload_text" (.str "")) hRecord
  rw [Sniffer.tcpBanner, readPayload_unread sn hRecord hHidden]
  dsimp only
  rw [set_packet_same, if_neg (by decide), hCapture]

end Opaque

/-! ## Lines -/

theorem decode_line {name : String} (hName : name ∈ LINE_PROTOCOLS) :
    ∃ label key, ∀ payload, payload ≠ [] →
      decode_app_payload name payload = decode_line_protocol label key payload := by
  have hDecoder : ∀ label key : String, DECODERS.lookup name =
      some (decode_line_protocol label key) → ∃ label key, ∀ payload, payload ≠ [] →
        decode_app_payload name payload = decode_line_protocol label key payload := by
    intro label key hLookup
    refine ⟨label, key, fun payload hSome => ?_⟩
    rw [decode_app_payload, if_neg hSome, hLookup]
  simp only [LINE_PROTOCOLS, List.mem_cons, List.not_mem_nil, or_false] at hName
  rcases hName with rfl | rfl | rfl | rfl | rfl | rfl
  · exact hDecoder "FTP" "ftp" rfl
  · exact hDecoder "SMTP" "smtp" rfl
  · exact hDecoder "POP3" "pop3" rfl
  · exact hDecoder "IMAP" "imap" rfl
  · exact hDecoder "IRC" "irc" rfl
  · exact hDecoder "NNTP" "nntp" rfl

theorem line_protocol_summary (label key : String) (payload : Bytes) :
    (ascii_line payload = "" → decode_line_protocol label key payload = []) ∧
      (ascii_line payload ≠ "" → ∃ rest, decode_line_protocol label key payload =
        ("summary", .str (label ++ " " ++ ascii_line payload)) :: rest) := by
  rw [decode_line_protocol]
  dsimp only
  constructor
  · intro hEmpty
    rw [if_pos hEmpty]
  · intro hLine
    rw [if_neg hLine]
    exact ⟨_, rfl⟩

theorem line_protocol_congr (label key : String) {payload payload' : Bytes}
    (h : ascii_line payload' = ascii_line payload) :
    decode_line_protocol label key payload' = decode_line_protocol label key payload := by
  rw [decode_line_protocol, decode_line_protocol, h]

/-! ## TCP -/

/-- The conditions under which two opaque payloads of a flow show nothing of themselves: neither is
printable, unless the flow is remembered; they have the same server name, if any, and the same first
line, where a line protocol shows it; otherwise they have the same banner. -/
structure UnseenTcp (sn : Sniffer) (remembered : Prop) (src_port dst_port : Nat)
    (payload payload' : Bytes) : Prop where
  hidden : remembered ∨
    (is_printable_payload payload = false ∧ is_printable_payload payload' = false)
  server_name : extract_tls_sni sn.toRuntime payload' = extract_tls_sni sn.toRuntime payload
  line : classify_tcp src_port dst_port payload ∈ LINE_PROTOCOLS →
    ascii_line payload' = ascii_line payload
  banner : (classify_tcp src_port dst_port payload ∈ LINE_PROTOCOLS → ascii_line payload = "") →
    SameBanner sn.PAYLOAD_TEXT_MAX_CHARS remembered src_port dst_port payload payload'

section Tcp

variable (sn : Sniffer) {c c' : Capture} {payload payload' : Bytes} {keys : List String}

theorem tcpSummary_unread (h : Alike c c') (ip_version : Nat)
    (hRecord : looks_like_tls payload = false) (hRecord' : looks_like_tls payload' = false)
    (hHidden : (c.isTcp = true ∧ sn.flowKey c ∈ c.tls_flows) ∨
      (is_printable_payload payload = false ∧ is_printable_payload payload' = false))
    (hName : extract_tls_sni sn.toRuntime payload' = extract_tls_sni sn.toRuntime payload)
    (hKeys : CAPTURE_KEYS ⊆ keys) (hBannerKey : "banner_text" ∈ keys)
    (hOther : ∀ k ∈ ["src_ip", "src_port", "dst_ip", "dst_port", "hop_limit"], k ∉ keys)
    (hBanner : "summary" ∉ keys →
      (sn.classify_tcp_banner (c.set "payload_text" (.str "")) payload').1 =
        (sn.classify_tcp_banner (c.set "payload_text" (.str "")) payload).1) :
    SameBut keys
      (applySni sn.toRuntime ((sn.summaryOrLine (sn.tcpBanner c payload) "TCP").hopDefault
        ip_version) payload)
      (applySni sn.toRuntime ((sn.summaryOrLine (sn.tcpBanner c' payload') "TCP").hopDefault
        ip_version) payload') := by
  have hHidden' : (c'.isTcp = true ∧ sn.flowKey c' ∈ c'.tls_flows) ∨
      is_printable_payload payload' = false := by
    rw [h.isTcp, h.flowKey sn, h.tls_flows]
    exact hHidden.imp_right And.right
  have hText := h.set "payload_text" (.str "")
  obtain ⟨hSame, -⟩ := hText.classify_tcp_banner sn payload'
  have hStart := SameBut.of_alike hText hKeys
  refine SameBut.applySni_both (SameBut.hopDefault ?_ (hOther "hop_limit" (by decide)) _) _
    hBannerKey hName
  rw [tcpBanner_unread sn hRecord (hHidden.imp_right And.left),
    tcpBanner_unread sn hRecord' hHidden', hSame]
  rw [Sniffer.summaryOrLine, Sniffer.summaryOrLine, set_packet_same, set_packet_same]
  have hBoth := hStart.set_hidden hBannerKey
    (.str (sn.classify_tcp_banner (c.set "payload_text" (.str "")) payload).1)
    (.str (sn.classify_tcp_banner (c.set "payload_text" (.str "")) payload').1)
  rw [hBoth.endpointLine sn fun k hk => hOther k (List.mem_append_left ["hop_limit"] hk)]
  by_cases hSummary : "summary" ∈ keys
  · exact hBoth.set_hidden hSummary _ _
  · rw [hBanner hSummary] at hBoth ⊢
    exact hBoth.set _ _

theorem parseTcpPayload_unread (h : Alike c c') {src_port dst_port : Nat} (ip_version : Nat)
    (hLength : payload'.length = payload.length)
    (hRecord : looks_like_tls payload = false) (hRecord' : looks_like_tls payload' = false)
    (hName : classify_tcp src_port dst_port payload' = classify_tcp src_port dst_port payload)
    (hPlain : classify_tcp src_port dst_port payload ∈ "" :: LINE_PROTOCOLS)
    (hSrc : c.packet "src_port" = .int src_port) (hDst : c.packet "dst_port" = .int dst_port)
    {remembered : Prop} (hRemembered : remembered → c.isTcp = true ∧ sn.flowKey c ∈ c.tls_flows)
    (hUnseen : UnseenTcp sn remembered src_port dst_port payload payload') :
    SameBut UNSHOWN_KEYS (sn.parseTcpPayload c src_port dst_port payload ip_version)
      (sn.parseTcpPayload c' src_port dst_port payload' ip_version) := by
  have hHidden := hUnseen.hidden.imp_left hRemembered
  have hSummary := fun {keys} => @tcpSummary_unread sn c c' payload payload' keys h ip_version
    hRecord hRecord' hHidden hUnseen.server_name
  have hBanner : (classify_tcp src_port dst_port payload ∈ LINE_PROTOCOLS →
      ascii_line payload = "") →
      (sn.classify_tcp_banner (c.set "payload_text" (.str "")) payload').1 =
        (sn.classify_tcp_banner (c.set "payload_text" (.str "")) payload).1 := by
    intro hLine
    obtain ⟨hSame, -⟩ := classify_tcp_banner_same sn (c := c.set "payload_text" (.str "")) hLength
      hRecord hRecord' hSrc hDst hRemembered (hUnseen.banner hLine)
    rw [hSame]
  suffices hNamed : SameBut UNSHOWN_KEYS
      (Sniff4Hound.applyName (applySni sn.toRuntime ((sn.summaryOrLine (sn.tcpBanner c payload)
        "TCP").hopDefault ip_version) payload) (classify_tcp src_port dst_port payload) payload)
      (Sniff4Hound.applyName (applySni sn.toRuntime ((sn.summaryOrLine (sn.tcpBanner c' payload')
        "TCP").hopDefault ip_version) payload') (classify_tcp src_port dst_port payload)
          payload') by
    rw [Sniffer.parseTcpPayload, Sniffer.parseTcpPayload, hName, hNamed.shown sn (by decide)]
    exact hNamed.applyRequest _
  have hLine := hUnseen.line
  generalize classify_tcp src_port dst_port payload = name at hPlain hBanner hLine
  have hSilent : (name ∈ LINE_PROTOCOLS → ascii_line payload = "") → SameBut UNSHOWN_KEYS
      (applySni sn.toRuntime ((sn.summaryOrLine (sn.tcpBanner c payload) "TCP").hopDefault
        ip_version) payload)
      (applySni sn.toRuntime ((sn.summaryOrLine (sn.tcpBanner c' payload') "TCP").hopDefault
        ip_version) payload') :=
    fun hNone => hSummary (List.subset_cons_self _ _) List.mem_cons_self (by decide)
      fun _ => hBanner hNone
  rcases List.mem_cons.mp hPlain with rfl | hMem
  · rw [Sniff4Hound.applyName, Sniff4Hound.applyName, if_pos rfl, if_pos rfl]
    exact hSilent fun hMem => absurd hMem (by decide)
  -- a payload of a line protocol
  obtain ⟨label, key, hDecode⟩ := decode_line hMem
  by_cases hSome : payload = []
  · subst hSome
    rw [List.eq_nil_of_length_eq_zero hLength] at hSilent ⊢
    exact (hSilent fun _ => rfl).applyName _ rfl
  have hSome' : payload' ≠ [] := by
    rintro rfl
    exact hSome (List.eq_nil_of_length_eq_zero hLength.symm)
  have hFields : decode_app_payload name payload' = decode_app_payload name payload := by
    rw [hDecode _ hSome, hDecode _ hSome', line_protocol_congr label key (hLine hMem)]
  by_cases hNone : ascii_line payload = ""
  · exact (hSilent fun _ => hNone).applyName _ hFields
  obtain ⟨-, hShown⟩ := line_protocol_summary label key payload
  obtain ⟨rest, hRest⟩ := hShown hNone
  have hNamed : name ≠ "" := by
    rintro rfl
    exact absurd hMem (by decide)
  have hSummaryText : label ++ " " ++ ascii_line payload ≠ "" := by
    intro hEmpty
    have hList := congrArg String.toList hEmpty
    rw [String.toList_append] at hList
    exact hNone (String.toList_inj.mp (List.append_eq_nil_iff.mp hList).2)
  rw [Sniff4Hound.applyName, Sniff4Hound.applyName, if_neg hNamed, if_neg hNamed,
    apply_app_decoder, apply_app_decoder, hFields, hDecode _ hSome, hRest,
    merge_text _ _ hSummaryText, merge_text _ _ hSummaryText]
  refine SameBut.merge (SameBut.reveal (SameBut.set ?_ _ _) _) rest
  exact hSummary (List.Subset.trans (List.subset_cons_self _ _) (List.subset_cons_self _ _))
    (List.mem_cons_of_mem _ List.mem_cons_self) (by decide) fun hOther =>
      absurd List.mem_cons_self hOther

end Tcp

/-! ## Segments with opaque payloads -/

theorem classify_tcp_plain {src_port dst_port : Nat} {payload : Bytes}
    (h : classify_tcp src_port dst_port payload ∈ "" :: LINE_PROTOCOLS) :
    classify_tcp src_port dst_port payload =
      port_protocol TCP_PORT_PROTOCOLS src_port dst_port := by
  rw [classify_tcp] at h ⊢
  by_cases hNone : tcp_signature payload = ""
  · rw [if_neg (not_not.mpr hNone)]
  rw [if_pos hNone] at h
  have hOther : ∀ name ∈ ["", "tls", "ssh", "sip", "http", "vnc", "telnet", "smb"],
      name ≠ "" → name ∉ "" :: LINE_PROTOCOLS := by decide
  exact absurd h (hOther _ (tcp_signature_names payload) hNone)

theorem classify_udp_plain {src_port dst_port : Nat} {payload : Bytes}
    (h : classify_udp src_port dst_port payload ∈ "" :: LINE_PROTOCOLS) :
    classify_udp src_port dst_port payload = "" := by
  by_contra hNamed
  refine absurd h ?_
  have hTable : ∀ name ∈ UDP_PORT_PROTOCOLS.map Prod.snd, name ∉ "" :: LINE_PROTOCOLS := by
    decide +kernel
  rw [classify_udp] at hNamed ⊢
  by_cases hNone : udp_signature payload = ""
  · rw [if_neg (not_not.mpr hNone)] at hNamed ⊢
    rw [port_protocol] at hNamed ⊢
    split
    · exact hTable _ (Table.name_mem ‹_›)
    · rename_i hDst
      rw [if_neg hDst] at hNamed
      exact hTable _ (Table.name_mem hNamed)
  · have hOther : ∀ name ∈ ["", "ssdp", "sip", "quic"],
        name ≠ "" → name ∉ "" :: LINE_PROTOCOLS := by decide
    rw [if_pos hNone]
    exact hOther _ (udp_signature_names payload) hNone

section Segment

variable (sn : Sniffer) {c c' : Capture} {payload payload' : Bytes}

theorem parse_tcp_unread (h : Alike c c') {header : Bytes} (ip_version : Nat)
    (hFits : (SegmentHeader.tcp header).Fits payload.length)
    (hLength : payload'.length = payload.length)
    (hFree : ¬(SegmentHeader.tcp header).Claimed sn.toRuntime payload)
    (hFree' : ¬(SegmentHeader.tcp header).Claimed sn.toRuntime payload')
    (hRecord : looks_like_tls payload = false) (hRecord' : looks_like_tls payload' = false)
    (hPlain : classify_tcp (header.num 0 2) (header.num 2 4) payload ∈ "" :: LINE_PROTOCOLS)
    (hPlain' : classify_tcp (header.num 0 2) (header.num 2 4) payload' ∈ "" :: LINE_PROTOCOLS)
    {remembered : Prop} (hRemembered : remembered → stable_flow_key sn.toRuntime (.str "tcp")
      (c.packet "src_ip") (.int (header.num 0 2)) (c.packet "dst_ip") (.int (header.num 2 4)) ∈
        c.tls_flows)
    (hUnseen : UnseenTcp sn remembered (header.num 0 2) (header.num 2 4) payload payload') :
    SameBut UNSHOWN_KEYS (sn.parse_tcp c (header ++ payload) ip_version)
      (sn.parse_tcp c' (header ++ payload') ip_version) := by
  have hPayload := tcpPayload_around hFits
  have hPayload' := tcpPayload_around (hLength ▸ hFits)
  obtain ⟨hLong, -⟩ := hFits
  have hNum : ∀ (payload : Bytes) {i j : Nat}, j ≤ 20 →
      (header ++ payload).num i j = header.num i j := by
    intro payload i j hj
    exact num_append_left header payload (by omega)
  have hHeader : Alike (tcpHeader (c.set "proto" (.str "tcp")) (header ++ payload))
      (tcpHeader (c'.set "proto" (.str "tcp")) (header ++ payload')) := by
    rw [tcpHeader, tcpHeader, tcpFields, tcpFields, hPayload, hPayload', hLength,
      hNum _ (by decide), hNum _ (by decide), hNum _ (by decide), hNum _ (by decide),
      byte_append_left header _ (by omega), byte_append_left header _ (by omega)]
    exact (((((((h.set _ _).set _ _).set _ _).set _ _).set _ _).set _ _).set_hidden (by decide)
      _ _).set _ _
  have hKey : sn.flowKey (tcpHeader (c.set "proto" (.str "tcp")) (header ++ payload)) =
      stable_flow_key sn.toRuntime (.str "tcp") (c.packet "src_ip") (.int (header.num 0 2))
        (c.packet "dst_ip") (.int (header.num 2 4)) := by
    rw [← hNum payload (by decide : 2 ≤ 20), ← hNum payload (by decide : 4 ≤ 20)]
    rfl
  have hSrc : (tcpHeader (c.set "proto" (.str "tcp")) (header ++ payload)).packet "src_port" =
      .int (header.num 0 2) := by
    rw [← hNum payload (by decide : 2 ≤ 20)]
    rfl
  have hDst : (tcpHeader (c.set "proto" (.str "tcp")) (header ++ payload)).packet "dst_port" =
      .int (header.num 2 4) := by
    rw [← hNum payload (by decide : 4 ≤ 20)]
    rfl
  have hClaim := not_not.mp hFree
  have hClaim' := not_not.mp hFree'
  rw [SegmentHeader.src_port, SegmentHeader.dst_port, SegmentHeader.header] at hClaim hClaim'
  rw [Sniffer.parse_tcp, Sniffer.parse_tcp, if_neg (by rw [List.length_append]; omega),
    if_neg (by rw [List.length_append]; omega), hPayload, hPayload', hNum _ (by decide),
    hNum _ (by decide), hNum _ (by decide), hNum _ (by decide)]
  dsimp only
  rw [hClaim, hClaim']
  refine parseTcpPayload_unread sn hHeader ip_version hLength hRecord hRecord' ?_ hPlain hSrc hDst
    (fun hKnown => ⟨rfl, hKey ▸ hRemembered hKnown⟩) hUnseen
  rw [classify_tcp_plain hPlain, classify_tcp_plain hPlain']

theorem parse_udp_unread (h : Alike c c') {header rest : Bytes} (ip_version : Nat)
    (hFits : (SegmentHeader.udp header rest).Fits payload.length)
    (hLength : payload'.length = payload.length)
    (hFree : ¬(SegmentHeader.udp header rest).Claimed sn.toRuntime payload)
    (hFree' : ¬(SegmentHeader.udp header rest).Claimed sn.toRuntime payload')
    (hRecord : looks_like_tls payload = false) (hRecord' : looks_like_tls payload' = false)
    (hPlain : classify_udp (header.num 0 2) (header.num 2 4) payload ∈ "" :: LINE_PROTOCOLS)
    (hPlain' : classify_udp (header.num 0 2) (header.num 2 4) payload' ∈ "" :: LINE_PROTOCOLS)
    (hBinary : is_printable_payload payload = false)
    (hBinary' : is_printable_payload payload' = false)
    (hText : bytes_to_text_preview payload' sn.PAYLOAD_TEXT_MAX_CHARS =
      bytes_to_text_preview payload sn.PAYLOAD_TEXT_MAX_CHARS) :
    SameBut UNSHOWN_KEYS (sn.parse_udp c (header ++ (payload ++ rest)) ip_version)
      (sn.parse_udp c' (header ++ (payload' ++ rest)) ip_version) := by
  have hPayload := udpPayload_around hFits
  have hPayload' := udpPayload_around (hLength ▸ hFits)
  obtain ⟨hLong, -⟩ := hFits
  have hNum : ∀ (more : Bytes) {i j : Nat}, j ≤ 8 → (header ++ more).num i j = header.num i j := by
    intro more i j hj
    exact num_append_left header more (by omega)
  have hEmpty : payload' = [] ↔ payload = [] := by
    rw [← List.length_eq_zero_iff, hLength, List.length_eq_zero_iff]
  have hHeader : Alike (udpHeader sn.toRuntime (c.set "proto" (.str "udp"))
      (header ++ (payload ++ rest))) (udpHeader sn.toRuntime (c'.set "proto" (.str "udp"))
        (header ++ (payload' ++ rest))) := by
    rw [udpHeader, udpHeader, udpFields, udpFields, hPayload, hPayload', hLength,
      hNum _ (by decide), hNum _ (by decide), hNum _ (by decide), hNum _ (by decide)]
    have hFields := ((((((h.set "proto" (.str "udp")).set "transport" (.str "udp")).set "src_port"
      (.int (header.num 0 2))).set "dst_port" (.int (header.num 2 4))).set "payload_len"
        (.int payload.length)).set_hidden (by decide : "payload_hex" ∈ CAPTURE_KEYS)
          (.str (bytes_to_hex_preview payload HEX_PREVIEW_LIMIT))
          (.str (bytes_to_hex_preview payload' HEX_PREVIEW_LIMIT)))
    rw [hFields.service_endpoint sn.toRuntime, hFields.packet "src_ip" (by decide)]
    simp only [ne_eq, hEmpty]
    split
    · exact hFields.set _ _
    · exact hFields
  have hBanner : ∀ {c c' : Capture}, Alike c c' →
      Alike (sn.udpBanner c payload) (sn.udpBanner c' payload') := by
    intro c c' h
    have hRead := h.set "payload_text" (.str "")
    have hSame : sn.classify_udp_banner (c'.set "payload_text" (.str "")) payload' =
        sn.classify_udp_banner (c.set "payload_text" (.str "")) payload := by
      rw [Sniffer.classify_udp_banner, Sniffer.classify_udp_banner, hRead.usesPort sn,
        hRead.usesPort sn, hRead.usesPort sn, hRead.usesPort sn, hRead.usesPort sn, hText]
    rw [Sniffer.udpBanner, Sniffer.udpBanner, readPayload_unread sn hRecord (Or.inr hBinary),
      readPayload_unread sn hRecord' (Or.inr hBinary'), set_packet_same, set_packet_same, hSame]
    exact (hRead.set _ _).summaryOrLine sn "UDP"
  have hClaim := not_not.mp hFree
  have hClaim' := not_not.mp hFree'
  rw [SegmentHeader.src_port, SegmentHeader.dst_port, SegmentHeader.header] at hClaim hClaim'
  rw [Sniffer.parse_udp, Sniffer.parse_udp, if_neg (by rw [List.length_append]; omega),
    if_neg (by rw [List.length_append]; omega), hPayload, hPayload', hNum _ (by decide),
    hNum _ (by decide), hNum _ (by decide), hNum _ (by decide)]
  rw [parseUdpPayload, parseUdpPayload, hClaim, hClaim']
  dsimp only
  rw [classify_udp_plain hPlain, classify_udp_plain hPlain', applyName, applyName, if_pos rfl,
    if_pos rfl]
  exact SameBut.of_alike ((hBanner hHeader).hopDefault (by decide) ip_version) (List.subset_cons_self _ _)

end Segment

/-! ## Two runs -/

/-- The packets differ in the bytes of the payload alone. -/
structure SameHeaders (a b : Shot) : Prop where
  link : a.carrier.SameLink b.carrier
  envelope : b.envelope = a.envelope
  length : b.payload.length = a.payload.length
  interface : b.interface = a.interface

namespace Shot

def name (s : Shot) : String :=
  match s.envelope.segment with
  | .tcp header => classify_tcp (header.num 0 2) (header.num 2 4) s.payload
  | .udp header _ => classify_udp (header.num 0 2) (header.num 2 4) s.payload

def Opaque (past : List Shot) (s : Shot) : Prop :=
  is_printable_payload s.payload = false ∨ (s.isTcp ∧ ∃ t ∈ past, t.StartsTls ∧ t.flow = s.flow)

/-- A payload that no decoder of the sniffer takes over, that is named after a line protocol at
most and that begins no TLS record. -/
structure Plain (rt : Runtime) (s : Shot) : Prop where
  unclaimed : ¬s.envelope.segment.Claimed rt s.payload
  named : s.name ∈ "" :: LINE_PROTOCOLS
  record : looks_like_tls s.payload = false

def Remembered (rt : Runtime) (past : List Shot) (s : Shot) : Prop :=
  ∃ t ∈ past, t.Noted rt ∧ t.flow = s.flow

end Shot

/-- Two packets whose payloads are not shown and that no decoder takes over. -/
def OpaquePair (rt : Runtime) (past : List Shot) (a b : Shot) : Prop :=
  (a.Opaque past ∧ b.Opaque past) ∧ a.Plain rt ∧ b.Plain rt

/-- The parsers that look into a payload see the same in both. -/
def Unseen (sn : Sniffer) (past : List Shot) (a b : Shot) : Prop :=
  match a.envelope.segment with
  | .tcp header => UnseenTcp sn (a.Remembered sn.toRuntime past) (header.num 0 2)
      (header.num 2 4) a.payload b.payload
  | .udp _ _ => bytes_to_text_preview b.payload sn.PAYLOAD_TEXT_MAX_CHARS =
      bytes_to_text_preview a.payload sn.PAYLOAD_TEXT_MAX_CHARS

/-- Two runs, frame by frame; payloads that are not equal differ in the given way, which may depend
on the frames before them. -/
def TwinRun (Differ : List Shot → Shot → Shot → Prop) : List Shot → List (Shot × Shot) → Prop
  | _, [] => True
  | past, (a, b) :: rest => SameHeaders a b ∧ (b.payload = a.payload ∨ Differ past a b) ∧
      TwinRun Differ (past ++ [a]) rest

def packetTextsOf (sn : Sniffer) (env : Env) : List String → List Shot → List (Option String)
  | _, [] => []
  | flows, s :: rest =>
    match sn.parse_packet flows s.captured with
    | none => none :: packetTextsOf sn env flows rest
    | some c => some (build_packet_text env c.packet) :: packetTextsOf sn env c.tls_flows rest

section Step

variable (sn : Sniffer) {flows : List String} {past : List Shot} {a b : Shot}

theorem SameHeaders.alike_fields (h : SameHeaders a b) (flows : List String) :
    Alike (a.envelope.network.fields (a.carrier.base flows a.now a.interface))
      (a.envelope.network.fields (b.carrier.base flows b.now b.interface)) := by
  have hBase := h.link.alike flows a.now b.now a.interface
  rw [h.interface]
  cases a.envelope.network with
  | ipv4 header => exact (((hBase.set _ _).set _ _).set _ _).set _ _
  | ipv6 header extensions => exact (((hBase.set _ _).set _ _).set _ _).set _ _

theorem parseBody_same {c c' : Capture} {envelope : Envelope} {payload payload' : Bytes}
    (h : SameBut UNSHOWN_KEYS (sn.parseSegment c envelope payload)
      (sn.parseSegment c' envelope payload')) :
    SameBut UNSHOWN_KEYS (sn.parseBody c envelope payload)
      (sn.parseBody c' envelope payload') := by
  rw [Sniffer.parseBody, Sniffer.parseBody]
  cases envelope.authentication with
  | none => exact h
  | some header =>
    dsimp only
    rw [h.packet "summary" (by decide)]
    exact (h.set _ _).set _ _

theorem parseSegment_same (hMemory : FlowMemory sn past flows) (h : SameHeaders a b)
    (hPayload : b.payload = a.payload ∨ (OpaquePair sn.toRuntime past a b ∧ Unseen sn past a b))
    {c c' : Capture} (hAlike : Alike c c') (hFlows : c.tls_flows = flows)
    (hSrc : c.packet "src_ip" = .str a.source.1) (hDst : c.packet "dst_ip" = .str a.destination.1) :
    SameBut UNSHOWN_KEYS (sn.parseSegment c a.envelope a.payload)
      (sn.parseSegment c' a.envelope b.payload) := by
  have hFits := a.fits.segment
  rcases hPayload with hSame | ⟨⟨⟨hOpaque, hOpaque'⟩, hPlain, hPlain'⟩, hUnseen⟩
  · rw [hSame, Sniffer.parseSegment, Sniffer.parseSegment]
    cases a.envelope.segment with
    | tcp header =>
      exact SameBut.of_alike (hAlike.parse_tcp sn _ _) (List.subset_cons_self _ _)
    | udp header rest =>
      exact SameBut.of_alike (hAlike.parse_udp sn _ _) (List.subset_cons_self _ _)
  obtain ⟨hFree, hNamed, hRecord⟩ := hPlain
  obtain ⟨hFree', hNamed', hRecord'⟩ := hPlain'
  have hHeld : a.Remembered sn.toRuntime past → a.key sn ∈ flows := by
    rintro ⟨t, ht, hNoted, hFlow⟩
    rw [← Shot.key_congr sn hFlow]
    exact hMemory.held t ht hNoted
  rw [Shot.key, Shot.source, Shot.destination] at hHeld
  rw [Shot.source] at hSrc
  rw [Shot.destination] at hDst
  rw [Shot.Opaque, Shot.isTcp] at hOpaque hOpaque'
  rw [Shot.name] at hNamed hNamed'
  rw [Unseen] at hUnseen
  rw [h.envelope] at hFree' hNamed' hOpaque'
  rw [Sniffer.parseSegment, Sniffer.parseSegment]
  cases hSegment : a.envelope.segment with
  | tcp header =>
    rw [hSegment] at hFits hFree hFree' hNamed hNamed' hUnseen hHeld
    refine parse_tcp_unread sn hAlike _ hFits h.length hFree hFree' hRecord hRecord' hNamed
      hNamed' (fun hKnown => ?_) hUnseen
    rw [hSrc, hDst, hFlows]
    exact hHeld hKnown
  | udp header rest =>
    rw [hSegment] at hFits hFree hFree' hNamed hNamed' hUnseen hOpaque hOpaque'
    have hUdp : (SegmentHeader.udp header rest).proto ≠ IP_PROTO_TCP :=
      (by decide : IP_PROTO_UDP ≠ IP_PROTO_TCP)
    exact parse_udp_unread sn hAlike _ hFits h.length hFree hFree' hRecord hRecord' hNamed
      hNamed' (hOpaque.resolve_right fun hTcp => hUdp hTcp.1)
      (hOpaque'.resolve_right fun hTcp => hUdp hTcp.1) hUnseen

theorem parse_packet_same (hMemory : FlowMemory sn past flows) (h : SameHeaders a b)
    (hRead : ¬a.carrier.Misread) (hRead' : ¬b.carrier.Misread)
    (hPayload : b.payload = a.payload ∨
      (OpaquePair sn.toRuntime past a b ∧ Unseen sn past a b)) :
    ∃ c c', sn.parse_packet flows a.captured = some c ∧
      sn.parse_packet flows b.captured = some c' ∧ SameBut UNSHOWN_KEYS c c' := by
  refine ⟨_, _, a.parse_packet sn flows hRead, b.parse_packet sn flows hRead', ?_⟩
  have hFields := h.alike_fields flows
  obtain ⟨hSrc, hDst⟩ := a.addresses_fields (a.carrier.base flows a.now a.interface)
  rw [h.envelope]
  exact ((parseBody_same sn (parseSegment_same sn hMemory h hPayload hFields
    (a.flows_fields flows) hSrc hDst)).summaryOrFallback sn (by decide)).finalize_packet sn (by decide)
      (List.subset_cons_self _ _)

theorem tlsFlows_mono {past past' : List Shot} (h : past ⊆ past') :
    tlsFlows past ⊆ tlsFlows past' := by
  intro flow hFlow
  obtain ⟨s, hs, hTls, hSame⟩ := mem_tlsFlows.mp hFlow
  exact mem_tlsFlows.mpr ⟨s, h hs, hTls, hSame⟩

theorem texts_same (env : Env) (pairs : List (Shot × Shot)) :
    ∀ {past : List Shot} {flows : List String}, FlowMemory sn past flows →
      (∀ pair ∈ pairs, ¬pair.1.carrier.Misread ∧ ¬pair.2.carrier.Misread) →
      (tlsFlows (past ++ pairs.map Prod.fst)).card < TLS_FLOW_MEMORY_CAP →
      TwinRun (fun past a b => OpaquePair sn.toRuntime past a b ∧ Unseen sn past a b) past pairs →
      packetTextsOf sn env flows (pairs.map Prod.fst) =
        packetTextsOf sn env flows (pairs.map Prod.snd) := by
  induction pairs with
  | nil => exact fun _ _ _ _ => rfl
  | cons pair rest ih =>
    intro past flows hMemory hRead hFew hRun
    obtain ⟨a, b⟩ := pair
    obtain ⟨hHeaders, hPayload, hRest⟩ := hRun
    obtain ⟨hReadA, hReadB⟩ := hRead (a, b) List.mem_cons_self
    obtain ⟨c, c', hParsed, hParsed', hSame⟩ :=
      parse_packet_same sn hMemory hHeaders hReadA hReadB hPayload
    have hPast : past ++ (a :: rest.map Prod.fst) = (past ++ [a]) ++ rest.map Prod.fst := by
      rw [List.append_assoc, List.singleton_append]
    rw [List.map_cons, hPast] at hFew
    have hFewNow := (Finset.card_le_card (tlsFlows_mono
      (List.subset_append_left (past ++ [a]) (rest.map Prod.fst)))).trans_lt hFew
    obtain ⟨found, hFound, hNext⟩ := hMemory.parse_packet a hReadA hFewNow
    rw [hParsed] at hFound
    cases hFound
    have hLast := ih hNext (fun pair hPair => hRead pair (List.mem_cons_of_mem _ hPair)) hFew
      hRest
    rw [List.map_cons, List.map_cons, packetTextsOf, packetTextsOf, hParsed, hParsed']
    dsimp only
    rw [hSame.build_packet_text env, hSame.tls_flows, hLast]

end Step

/-- Two runs from an empty memory, with fewer TLS flows than it holds, in which opaque payloads differ
only where they show nothing of themselves: the monitors read the same texts. -/
theorem same_texts (sn : Sniffer) (env : Env) (pairs : List (Shot × Shot))
    (hRead : ∀ pair ∈ pairs, ¬pair.1.carrier.Misread ∧ ¬pair.2.carrier.Misread)
    (hFew : (tlsFlows (pairs.map Prod.fst)).card < TLS_FLOW_MEMORY_CAP)
    (hRun : TwinRun (fun past a b => OpaquePair sn.toRuntime past a b ∧ Unseen sn past a b) []
      pairs) :
    packetTextsOf sn env [] (pairs.map Prod.fst) = packetTextsOf sn env [] (pairs.map Prod.snd) :=
  texts_same sn env pairs (FlowMemory.nil sn) hRead hFew hRun

/-! ## Twenty bytes of payload -/

def opaqueEnvelope : Envelope where
  network := .ipv4 [0x45, 0, 0, 60, 0, 0, 0, 0, 64, 6, 0, 0, 10, 0, 0, 1, 10, 0, 0, 2]
  authentication := none
  segment := .tcp [0x9C, 0x40, 0x27, 0x0F, 0, 0, 0, 0, 0, 0, 0, 0, 0x50, 0x18, 0, 0, 0, 0, 0, 0]
  padding := []

theorem opaqueEnvelope_fits : opaqueEnvelope.Fits 20 where
  announced := ⟨by decide, by decide, by decide, by decide, by decide⟩
  authenticated := nofun
  segment := ⟨by decide, by decide⟩
  padded := nofun

def opaqueShot (payload : Bytes) (h : payload.length = 20) : Shot where
  carrier := .plain (.ethernet {
    dst := [2, 0, 0, 0, 0, 2]
    src := [2, 0, 0, 0, 0, 1]
    tags := []
    kind := .ipv4
    body := opaqueEnvelope.packet payload
    length_dst := EthernetFrame.length_receiver
    length_src := EthernetFrame.length_sender
    tags_valid := EthernetFrame.untagged
    length_body := by
      show 20 ≤ (opaqueEnvelope.packet payload).length
      rw [Envelope.packet, List.length_append]
      exact Nat.le_add_right 20 _ })
  envelope := opaqueEnvelope
  payload := payload
  kind_eq := rfl
  packet_eq := rfl
  fits := h ▸ opaqueEnvelope_fits
  now := ""
  interface := ""

theorem opaqueShot_read (payload : Bytes) (h : payload.length = 20) :
    ¬(opaqueShot payload h).carrier.Misread := by
  have hFirst : (opaqueShot payload h).carrier.bytes.byte 0 = 2 := rfl
  have h4 : Sniffer.looks_like_raw_ipv4 (opaqueShot payload h).carrier.bytes = false := by
    simp [Sniffer.looks_like_raw_ipv4, hFirst]
  have h6 : Sniffer.looks_like_raw_ipv6 (opaqueShot payload h).carrier.bytes = false := by
    simp [Sniffer.looks_like_raw_ipv6, hFirst]
  rw [Carrier.Misread, not_not, Carrier.reading, h4, h6]
  rfl

theorem opaqueShot_headers {payload payload' : Bytes} (h : payload.length = 20)
    (h' : payload'.length = 20) : SameHeaders (opaqueShot payload h) (opaqueShot payload' h') :=
  ⟨.ethernet rfl rfl rfl rfl, rfl, h'.trans h.symm, rfl⟩

def helloShot : Shot := opaqueShot ([0x16, 3, 3] ++ List.replicate 17 0) (by decide)

def letterShot (letter : UInt8) : Shot :=
  opaqueShot (List.replicate 20 letter) List.length_replicate

def binaryShot : Shot := opaqueShot ([0x63, 0x6D, 0x64] ++ List.replicate 17 0) (by decide)

theorem same_texts_letters : packetTextsOf Sniffer.ascii Env.ascii [] [helloShot, letterShot 0x41] =
    packetTextsOf Sniffer.ascii Env.ascii [] [helloShot, letterShot 0x42] := by
  have hKnown : (letterShot 0x41).Remembered Sniffer.ascii.toRuntime [helloShot] :=
    ⟨helloShot, List.mem_cons_self, by decide, rfl⟩
  have hOpaque : ∀ letter, (letterShot letter).Opaque [helloShot] :=
    fun letter => Or.inr ⟨rfl, helloShot, List.mem_cons_self, by decide, rfl⟩
  have hUnseen : Unseen Sniffer.ascii [helloShot] (letterShot 0x41) (letterShot 0x42) :=
    ⟨Or.inl hKnown, by decide, fun hLine => absurd hLine (by decide),
      fun _ => Or.inr ⟨by decide, by decide, Or.inl hKnown⟩⟩
  refine same_texts Sniffer.ascii Env.ascii
    [(helloShot, helloShot), (letterShot 0x41, letterShot 0x42)] ?_ ?_ ?_
  · intro pair hPair
    simp only [List.mem_cons, List.not_mem_nil, or_false] at hPair
    rcases hPair with rfl | rfl
    · exact ⟨opaqueShot_read _ (by decide), opaqueShot_read _ (by decide)⟩
    · exact ⟨opaqueShot_read _ (by decide), opaqueShot_read _ (by decide)⟩
  · exact (card_tlsFlows_le _).trans_lt (by decide)
  · exact ⟨opaqueShot_headers (by decide) (by decide), Or.inl rfl, opaqueShot_headers (by decide) (by decide),
      Or.inr ⟨⟨⟨hOpaque _, hOpaque _⟩, ⟨by decide, by decide, by decide⟩,
        ⟨by decide, by decide, by decide⟩⟩, hUnseen⟩, trivial⟩

/-- Three letters in a binary payload are the summary. -/
theorem texts_differ_binary : ¬∀ (sn : Sniffer) (env : Env) (pairs : List (Shot × Shot)),
    (tlsFlows (pairs.map Prod.fst)).card < TLS_FLOW_MEMORY_CAP →
      TwinRun (OpaquePair sn.toRuntime) [] pairs →
        packetTextsOf sn env [] (pairs.map Prod.fst) =
          packetTextsOf sn env [] (pairs.map Prod.snd) := by
  intro hAll
  have hSame := hAll Sniffer.ascii Env.ascii [(binaryShot, letterShot 0)]
    ((card_tlsFlows_le _).trans_lt (by decide))
    ⟨opaqueShot_headers (by decide) (by decide), Or.inr ⟨⟨Or.inl (by decide), Or.inl (by decide)⟩,
      ⟨by decide, by decide, by decide⟩, ⟨by decide, by decide, by decide⟩⟩, trivial⟩
  revert hSame
  decide +kernel

end Sniff4Hound
