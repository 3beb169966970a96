import Sniff4Hound.Capture.Connections
import Sniff4Hound.Capture.Envelopes
import Mathlib.Combinatorics.Enumerative.DoubleCounting

/-!
# The memory of TLS flows

A segment that begins with a TLS record header is remembered under the key of its connection, so
that later segments of the connection are known for ciphertext. No parser of a payload touches the
memory, and until it is full nothing is forgotten: it holds the connection of every segment that
began with such a header, unless a decoder took the segment over (`FlowMemory`).
-/

namespace Sniff4Hound

/-! ## Parsers that leave the memory alone -/

section Flows

variable (c : Capture)

theorem flows_setText (key text : String) : (c.setText key text).tls_flows = c.tls_flows := by
  rw [Capture.setText]
  split <;> rfl

theorem flows_describe (text : String) : (c.describe text).tls_flows = c.tls_flows := rfl

theorem flows_merge (fields : Fields) : ∀ c : Capture, (c.merge fields).tls_flows = c.tls_flows := by
  induction fields with
  | nil => exact fun c => rfl
  | cons entry rest ih =>
    intro c
    obtain ⟨key, value⟩ := entry
    rcases merge_cons key value rest with hSkip | hSet
    · rw [hSkip, ih]
    · rw [hSet, ih]
      rfl

theorem flows_applyName (app_proto : String) (payload : Bytes) :
    (applyName c app_proto payload).tls_flows = c.tls_flows := by
  rw [applyName]
  split
  · rfl
  · exact flows_merge _ _

theorem flows_apply_dns_result (rt : Runtime) (payload : Bytes) (label source : String) :
    (apply_dns_result rt c payload label source).tls_flows = c.tls_flows := by
  have hQuestion : ∀ questions, (applyQuestion c source questions).tls_flows = c.tls_flows := by
    intro questions
    cases questions <;> rfl
  have hAnswer : ∀ (c : Capture) answers, (applyAnswer rt c answers).tls_flows = c.tls_flows := by
    intro c answers
    cases answers with
    | nil => rfl
    | cons answer rest =>
      rw [applyAnswer]
      dsimp only
      split <;> rfl
  rw [apply_dns_result]
  split
  · exact (hAnswer _ _).trans (hQuestion _)
  · exact (hAnswer _ _).trans (hQuestion _)

variable (payload : Bytes)

theorem flows_parse_dhcp : (parse_dhcp c payload).tls_flows = c.tls_flows := by
  rw [parse_dhcp]
  cases dhcp_options payload with
  | none => rfl
  | some found =>
    show (((_ : Capture).setText _ _).describe _).tls_flows = _
    refine (flows_setText _ _ _).trans ((flows_setText _ _ _).trans
      ((flows_setText _ _ _).trans ?_))
    rw [DhcpOptions.applyType]
    split <;> rfl

theorem flows_parse_nbns : (parse_nbns c payload).tls_flows = c.tls_flows := by
  rw [parse_nbns]
  split <;> rfl

theorem flows_parse_modbus : (parse_modbus c payload).tls_flows = c.tls_flows := by
  rw [parse_modbus]
  split <;> rfl

theorem flows_parse_dnp3 : (parse_dnp3 c payload).tls_flows = c.tls_flows := by
  rw [parse_dnp3]
  split <;> rfl

theorem flows_parse_snmp : (parse_snmp c payload).tls_flows = c.tls_flows := by
  unfold parse_snmp
  dsimp only
  split
  · rfl
  split <;> rfl

theorem flows_parse_syslog : (parse_syslog c payload).tls_flows = c.tls_flows := by
  unfold parse_syslog
  dsimp only
  split <;> rfl

theorem flows_parse_tftp : (parse_tftp c payload).tls_flows = c.tls_flows := by
  unfold parse_tftp
  dsimp only
  split
  · rfl
  split
  · rw [flows_describe, flows_setText, flows_setText]
    rfl
  · rfl

theorem flows_parse_radius : (parse_radius c payload).tls_flows = c.tls_flows := by
  unfold parse_radius
  dsimp only
  split
  · rfl
  · exact (flows_setText _ _ _).trans (flows_setText _ _ _)

theorem flows_parse_mqtt : (parse_mqtt c payload).tls_flows = c.tls_flows := by
  unfold parse_mqtt
  dsimp only
  split
  · exact (flows_setText _ _ _).trans (flows_setText _ _ _)
  · rfl

theorem flows_hopDefault (ip_version : Nat) :
    (c.hopDefault ip_version).tls_flows = c.tls_flows := by
  rw [Capture.hopDefault]
  split <;> rfl

theorem flows_applySni (rt : Runtime) (payload : Bytes) :
    (applySni rt c payload).tls_flows = c.tls_flows := by
  rw [applySni]
  split
  · dsimp only
    split <;> rfl
  · rfl

theorem flows_applyRequest (text : String) : (applyRequest c text).tls_flows = c.tls_flows := by
  unfold applyRequest
  dsimp only
  split
  · rfl
  split <;> rfl

theorem flows_parseUdpPayload (rt : Runtime) (src_port dst_port : Nat) (payload : Bytes) :
    (parseUdpPayload rt c src_port dst_port payload).tls_flows = c.tls_flows := by
  rw [parseUdpPayload]
  cases udpClaim src_port dst_port payload with
  | none => exact flows_applyName _ _ _
  | some decoder =>
    cases decoder with
    | dns => exact flows_apply_dns_result _ _ _ _ _
    | dhcp => exact flows_parse_dhcp _ _
    | mdns => exact flows_apply_dns_result _ _ _ _ _
    | llmnr => exact flows_apply_dns_result _ _ _ _ _
    | nbns => exact flows_parse_nbns _ _
    | snmp => exact flows_parse_snmp _ _
    | syslog => exact flows_parse_syslog _ _
    | tftp => exact flows_parse_tftp _ _
    | radius => exact flows_parse_radius _ _
    | dnp3 => exact flows_parse_dnp3 _ _

end Flows

/-! ## Segments that are remembered -/

section Remember

variable (sn : Sniffer) (c : Capture) (payload : Bytes)

def noted (flows : List String) (key : String) (payload : Bytes) : List String :=
  if looks_like_tls payload = true then rememberFlow flows key else flows

theorem flows_is_tls_payload (hTcp : c.isTcp = true) :
    (sn.is_tls_payload c payload).2.tls_flows = noted c.tls_flows (sn.flowKey c) payload := by
  rw [Sniffer.is_tls_payload, noted, hTcp]
  split <;> rfl

theorem flows_interpret_payload : (sn.interpret_payload c payload).2.tls_flows =
    (sn.is_tls_payload c payload).2.tls_flows := by
  rw [Sniffer.interpret_payload]
  split
  · rename_i hEmpty
    rw [hEmpty]
    rfl
  · dsimp only
    split
    · rfl
    · dsimp only
      split <;> rfl

theorem flows_interpret_other (hTcp : c.isTcp = false) :
    (sn.interpret_payload c payload).2.tls_flows = c.tls_flows := by
  rw [flows_interpret_payload, Sniffer.is_tls_payload, hTcp]
  split <;> rfl

theorem isTcp_agree {c c' : Capture} (h : Agree CORE_KEYS c c') : c'.isTcp = c.isTcp := by
  rw [Capture.isTcp, Capture.isTcp, h "proto" (by decide)]

theorem flowKey_agree {c c' : Capture} (h : Agree CORE_KEYS c c') :
    sn.flowKey c' = sn.flowKey c := by
  rw [Sniffer.flowKey, Sniffer.flowKey, h "src_ip" (by decide), h "src_port" (by decide),
    h "dst_ip" (by decide), h "dst_port" (by decide)]

theorem flows_tcpBanner (hTcp : c.isTcp = true) :
    (sn.tcpBanner c payload).tls_flows = noted c.tls_flows (sn.flowKey c) payload ∨
      (sn.tcpBanner c payload).tls_flows =
        noted (noted c.tls_flows (sn.flowKey c) payload) (sn.flowKey c) payload := by
  have hRead : Agree CORE_KEYS c (sn.readPayload c payload) :=
    sn.readPayload_agree c payload (by decide) (by decide)
  have hFlows : (sn.readPayload c payload).tls_flows =
      noted c.tls_flows (sn.flowKey c) payload :=
    (flows_interpret_payload sn c payload).trans (flows_is_tls_payload sn c payload hTcp)
  have hSecond := flows_is_tls_payload sn (sn.readPayload c payload) payload
    ((isTcp_agree hRead).trans hTcp)
  rw [hFlows, flowKey_agree sn hRead] at hSecond
  rw [Sniffer.tcpBanner]
  dsimp only
  split
  · exact Or.inl hFlows
  change (sn.classify_tcp_banner _ payload).2.tls_flows = _ ∨
    (sn.classify_tcp_banner _ payload).2.tls_flows = _
  rcases classify_tcp_banner_or sn (sn.readPayload c payload) payload with hSame | hTls
  · rw [hSame]
    exact Or.inl hFlows
  · rw [hTls]
    exact Or.inr hSecond

theorem flows_parseTcpPayload (src_port dst_port ip_version : Nat) (hTcp : c.isTcp = true) :
    (sn.parseTcpPayload c src_port dst_port payload ip_version).tls_flows =
        noted c.tls_flows (sn.flowKey c) payload ∨
      (sn.parseTcpPayload c src_port dst_port payload ip_version).tls_flows =
        noted (noted c.tls_flows (sn.flowKey c) payload) (sn.flowKey c) payload := by
  have hLast : (sn.parseTcpPayload c src_port dst_port payload ip_version).tls_flows =
      (sn.tcpBanner c payload).tls_flows := by
    rw [Sniffer.parseTcpPayload, flows_applyRequest, flows_applyName, flows_applySni,
      flows_hopDefault]
    rfl
  rw [hLast]
  exact flows_tcpBanner sn c payload hTcp

theorem flows_udpBanner (hTcp : c.isTcp = false) :
    (sn.udpBanner c payload).tls_flows = c.tls_flows :=
  flows_interpret_other sn c payload hTcp

end Remember

def SegmentHeader.Claimed (rt : Runtime) (segment : SegmentHeader) (payload : Bytes) : Prop :=
  match segment with
  | .tcp _ => tcpClaim rt segment.src_port segment.dst_port payload ≠ none
  | .udp _ _ => udpClaim segment.src_port segment.dst_port payload ≠ none

instance (rt : Runtime) (segment : SegmentHeader) (payload : Bytes) :
    Decidable (segment.Claimed rt payload) :=
  match segment with
  | .tcp _ => inferInstanceAs (Decidable (_ ≠ none))
  | .udp _ _ => inferInstanceAs (Decidable (_ ≠ none))

namespace Shot

def isTcp (s : Shot) : Prop := s.envelope.segment.proto = IP_PROTO_TCP

def source (s : Shot) : String × Nat :=
  (s.envelope.network.addresses.1, s.envelope.segment.src_port)

def destination (s : Shot) : String × Nat :=
  (s.envelope.network.addresses.2, s.envelope.segment.dst_port)

def flow (s : Shot) : Sym2 (String × Nat) := s(s.source, s.destination)

def key (s : Shot) (sn : Sniffer) : String :=
  stable_flow_key sn.toRuntime (.str "tcp") (.str s.source.1) (.int s.source.2)
    (.str s.destination.1) (.int s.destination.2)

def StartsTls (s : Shot) : Prop := s.isTcp ∧ looks_like_tls s.payload = true

def Noted (s : Shot) (rt : Runtime) : Prop :=
  s.StartsTls ∧ ¬s.envelope.segment.Claimed rt s.payload

instance (s : Shot) : Decidable s.isTcp := inferInstanceAs (Decidable (_ = _))

instance (s : Shot) : Decidable s.StartsTls := inferInstanceAs (Decidable (_ ∧ _))

instance (s : Shot) (rt : Runtime) : Decidable (s.Noted rt) :=
  inferInstanceAs (Decidable (_ ∧ ¬_))

end Shot

section Shots

variable (sn : Sniffer) (c : Capture)

theorem flows_parse_tcp {header payload : Bytes} (ip_version : Nat)
    (hFits : (SegmentHeader.tcp header).Fits payload.length) :
    ((SegmentHeader.tcp header).Claimed sn.toRuntime payload →
      (sn.parse_tcp c (header ++ payload) ip_version).tls_flows = c.tls_flows) ∧
    (¬(SegmentHeader.tcp header).Claimed sn.toRuntime payload → ∀ key,
      key = stable_flow_key sn.toRuntime (.str "tcp") (c.packet "src_ip") (.int (header.num 0 2))
        (c.packet "dst_ip") (.int (header.num 2 4)) →
      (sn.parse_tcp c (header ++ payload) ip_version).tls_flows =
          noted c.tls_flows key payload ∨
        (sn.parse_tcp c (header ++ payload) ip_version).tls_flows =
          noted (noted c.tls_flows key payload) key payload) := by
  have hPayload := tcpPayload_around hFits
  obtain ⟨hLong, -⟩ := hFits
  have hSrc : (header ++ payload).num 0 2 = header.num 0 2 :=
    num_append_left header payload (by omega)
  have hDst : (header ++ payload).num 2 4 = header.num 2 4 :=
    num_append_left header payload (by omega)
  rw [SegmentHeader.Claimed, SegmentHeader.src_port, SegmentHeader.dst_port, SegmentHeader.header,
    Sniffer.parse_tcp, if_neg (by rw [List.length_append]; omega), hSrc, hDst, hPayload]
  dsimp only
  constructor
  · intro hClaimed
    cases hClaim : tcpClaim sn.toRuntime (header.num 0 2) (header.num 2 4) payload with
    | none => exact absurd hClaim hClaimed
    | some decoder =>
      cases decoder with
      | dns =>
        exact (flows_hopDefault _ _).trans (flows_apply_dns_result _ _ _ _ _)
      | modbus => exact (flows_hopDefault _ _).trans (flows_parse_modbus _ _)
      | dnp3 => exact (flows_hopDefault _ _).trans (flows_parse_dnp3 _ _)
      | mqtt => exact (flows_hopDefault _ _).trans (flows_parse_mqtt _ _)
  · rintro hFree key rfl
    rw [not_not.mp hFree, ← hSrc, ← hDst]
    exact flows_parseTcpPayload sn (tcpHeader (c.set "proto" (.str "tcp")) (header ++ payload))
      payload _ _ ip_version rfl

theorem flows_parse_udp {header rest payload : Bytes} (ip_version : Nat)
    (hFits : (SegmentHeader.udp header rest).Fits payload.length) :
    (sn.parse_udp c (header ++ (payload ++ rest)) ip_version).tls_flows = c.tls_flows := by
  have hPayload := udpPayload_around hFits
  obtain ⟨hLong, -⟩ := hFits
  have hHeader : (udpHeader sn.toRuntime (c.set "proto" (.str "udp"))
      (header ++ (payload ++ rest))).tls_flows = c.tls_flows := by
    rw [udpHeader]
    split <;> rfl
  have hProto : (udpHeader sn.toRuntime (c.set "proto" (.str "udp"))
      (header ++ (payload ++ rest))).isTcp = false := by
    rw [isTcp_agree (udpHeader_agree sn.toRuntime _ _)]
    rfl
  rw [Sniffer.parse_udp, if_neg (by rw [List.length_append]; omega), hPayload]
  exact (flows_parseUdpPayload _ _ _ _ _).trans ((flows_hopDefault _ _).trans
    ((flows_udpBanner sn _ payload hProto).trans hHeader))

end Shots

namespace Shot

theorem key_congr {s t : Shot} (sn : Sniffer) (h : s.flow = t.flow) : s.key sn = t.key sn := by
  have hText : ∀ s : Shot, s.key sn = flowText (normalize_protocol_name sn.toRuntime (.str "tcp"))
      (s.source.1 ++ ":" ++ toString s.source.2)
      (s.destination.1 ++ ":" ++ toString s.destination.2) := fun s => rfl
  have hEnds : s(s.source.1 ++ ":" ++ toString s.source.2,
      s.destination.1 ++ ":" ++ toString s.destination.2) =
      s(t.source.1 ++ ":" ++ toString t.source.2,
        t.destination.1 ++ ":" ++ toString t.destination.2) :=
    congrArg (Sym2.map fun ends : String × Nat => ends.1 ++ ":" ++ toString ends.2) h
  rw [hText, hText, ← String.toList_inj, toList_flowText, toList_flowText,
    orderedEnds_inj.mpr hEnds]

theorem addresses_fields (s : Shot) (c : Capture) :
    (s.envelope.network.fields c).packet "src_ip" = .str s.source.1 ∧
      (s.envelope.network.fields c).packet "dst_ip" = .str s.destination.1 := by
  rw [source, destination]
  cases s.envelope.network with
  | ipv4 header => exact ⟨rfl, rfl⟩
  | ipv6 header extensions => exact ⟨rfl, rfl⟩

theorem flows_fields (s : Shot) (flows : List String) :
    (s.envelope.network.fields (s.carrier.base flows s.now s.interface)).tls_flows = flows := by
  have hFields : ∀ c, (s.envelope.network.fields c).tls_flows = c.tls_flows := by
    intro c
    cases s.envelope.network <;> rfl
  rw [hFields]
  cases s.carrier with
  | plain frame => cases frame <;> rfl
  | snap frame => rfl

def after (s : Shot) (sn : Sniffer) (flows : List String) : List String :=
  if s.Noted sn.toRuntime then rememberFlow flows (s.key sn) else flows

theorem flows_parse_packet (s : Shot) (sn : Sniffer) (flows : List String)
    (hRead : ¬s.carrier.Misread) : ∃ c, sn.parse_packet flows s.captured = some c ∧
      (c.tls_flows = s.after sn flows ∨ c.tls_flows = s.after sn (s.after sn flows)) := by
  refine ⟨_, s.parse_packet sn flows hRead, ?_⟩
  have hBase := s.flows_fields flows
  obtain ⟨hSrc, hDst⟩ := s.addresses_fields (s.carrier.base flows s.now s.interface)
  generalize s.envelope.network.fields (s.carrier.base flows s.now s.interface) = c at hBase hSrc hDst
  have hLast : ∀ c, (sn.finalize_packet (sn.summaryOrFallback
      (sn.parseBody c s.envelope s.payload))).tls_flows =
        (sn.parseSegment c s.envelope s.payload).tls_flows := by
    intro c
    show (sn.parseBody c s.envelope s.payload).tls_flows = _
    rw [Sniffer.parseBody]
    cases s.envelope.authentication <;> rfl
  have hFits := s.fits.segment
  have hKey : s.key sn = stable_flow_key sn.toRuntime (.str "tcp") (.str s.source.1)
    (.int s.envelope.segment.src_port) (.str s.destination.1)
    (.int s.envelope.segment.dst_port) := rfl
  rw [hLast, Sniffer.parseSegment]
  cases hSegment : s.envelope.segment with
  | udp header rest =>
    rw [hSegment] at hFits
    have hOther : ¬s.Noted sn.toRuntime := by
      rintro ⟨⟨hTcp, -⟩, -⟩
      rw [isTcp, hSegment] at hTcp
      exact absurd hTcp (by decide : IP_PROTO_UDP ≠ IP_PROTO_TCP)
    refine Or.inl ((flows_parse_udp sn c _ hFits).trans ?_)
    rw [after, if_neg hOther, hBase]
  | tcp header =>
    rw [hSegment] at hFits hKey
    obtain ⟨hClaimed, hFree⟩ := flows_parse_tcp sn c s.envelope.network.version hFits
    have hTcp : s.isTcp := by
      rw [isTcp, hSegment]
      rfl
    by_cases hClaim : (SegmentHeader.tcp header).Claimed sn.toRuntime s.payload
    · have hOther : ¬s.Noted sn.toRuntime := by
        rw [Noted, hSegment]
        exact fun h => h.2 hClaim
      refine Or.inl ((hClaimed hClaim).trans ?_)
      rw [after, if_neg hOther, hBase]
    have hNoted : ∀ flows, noted flows (s.key sn) s.payload = s.after sn flows := by
      intro flows
      have hIff : s.Noted sn.toRuntime ↔ looks_like_tls s.payload = true := by
        rw [Noted, StartsTls, hSegment]
        exact ⟨fun h => h.1.2, fun hTls => ⟨⟨hTcp, hTls⟩, hClaim⟩⟩
      rw [noted, after]
      simp only [hIff]
    rw [← hNoted, ← hNoted]
    have hRun := hFree hClaim (s.key sn) (by rw [hKey, hSrc, hDst]; rfl)
    rw [hBase] at hRun
    exact hRun

end Shot

/-! ## What the memory holds -/

def tlsFlows (past : List Shot) : Finset (Sym2 (String × Nat)) :=
  ((past.filter fun s => s.StartsTls).map Shot.flow).toFinset

theorem mem_tlsFlows {past : List Shot} {flow : Sym2 (String × Nat)} :
    flow ∈ tlsFlows past ↔ ∃ s ∈ past, s.StartsTls ∧ s.flow = flow := by
  simp only [tlsFlows, List.mem_toFinset, List.mem_map, List.mem_filter, decide_eq_true_eq,
    and_assoc]

theorem card_tlsFlows_le (past : List Shot) : (tlsFlows past).card ≤ past.length := by
  refine (List.toFinset_card_le _).trans ?_
  rw [List.length_map]
  exact List.length_filter_le _ _

theorem rememberFlow_few {flows : List String} (key : String)
    (hFew : flows.length < TLS_FLOW_MEMORY_CAP) :
    rememberFlow flows key = if key ∈ flows then flows else key :: flows := by
  rw [rememberFlow, if_neg (Nat.not_le.mpr hFew)]

/-- The memory after these segments: the keys of those that were looked at, and of none that does
not begin with a TLS record header. -/
structure FlowMemory (sn : Sniffer) (past : List Shot) (flows : List String) : Prop where
  nodup : flows.Nodup
  held : ∀ s ∈ past, s.Noted sn.toRuntime → s.key sn ∈ flows
  known : ∀ key ∈ flows, ∃ s ∈ past, s.StartsTls ∧ s.key sn = key

namespace FlowMemory

variable {sn : Sniffer} {past past' : List Shot} {flows : List String}

theorem nil (sn : Sniffer) : FlowMemory sn [] [] where
  nodup := List.nodup_nil
  held _ hs := absurd hs List.not_mem_nil
  known _ hKey := absurd hKey List.not_mem_nil

theorem length_le (hNodup : flows.Nodup)
    (hKnown : ∀ key ∈ flows, ∃ s ∈ past, s.StartsTls ∧ s.key sn = key) :
    flows.length ≤ (tlsFlows past).card := by
  rw [← List.toFinset_card_of_nodup hNodup]
  refine Finset.card_le_card_of_forall_subsingleton
    (fun key flow => ∃ s : Shot, s.flow = flow ∧ s.key sn = key) ?_ ?_
  · intro key hKey
    obtain ⟨s, hs, hTls, hSame⟩ := hKnown key (List.mem_toFinset.mp hKey)
    exact ⟨s.flow, mem_tlsFlows.mpr ⟨s, hs, hTls, rfl⟩, s, rfl, hSame⟩
  · rintro flow - key ⟨-, s, hs, rfl⟩ key' ⟨-, t, ht, rfl⟩
    exact Shot.key_congr sn (hs.trans ht.symm)

theorem note (h : FlowMemory sn past flows) {s : Shot} (hPast : past ⊆ past') (hs : s ∈ past')
    (hNew : ∀ t ∈ past', t ∈ past ∨ t = s)
    (hFew : (tlsFlows past').card < TLS_FLOW_MEMORY_CAP) :
    FlowMemory sn past' (s.after sn flows) := by
  have hKnown : ∀ key ∈ flows, ∃ s ∈ past', s.StartsTls ∧ s.key sn = key := by
    intro key hKey
    obtain ⟨t, ht, hTls, hSame⟩ := h.known key hKey
    exact ⟨t, hPast ht, hTls, hSame⟩
  rw [Shot.after]
  by_cases hNoted : s.Noted sn.toRuntime
  · rw [if_pos hNoted, rememberFlow_few _ ((length_le h.nodup hKnown).trans_lt hFew)]
    have hHeld : ∀ flows', s.key sn ∈ flows' → flows ⊆ flows' →
        ∀ t ∈ past', t.Noted sn.toRuntime → t.key sn ∈ flows' := by
      intro flows' hKey hMore t ht hOther
      rcases hNew t ht with hOld | rfl
      · exact hMore (h.held t hOld hOther)
      · exact hKey
    split
    · rename_i hKey
      exact ⟨h.nodup, hHeld flows hKey (List.Subset.refl _), hKnown⟩
    · rename_i hKey
      refine ⟨List.nodup_cons.mpr ⟨hKey, h.nodup⟩,
        hHeld _ List.mem_cons_self (List.subset_cons_self _ _), ?_⟩
      exact List.forall_mem_cons.mpr ⟨⟨s, hs, hNoted.1, rfl⟩, hKnown⟩
  · rw [if_neg hNoted]
    refine ⟨h.nodup, fun t ht hOther => ?_, hKnown⟩
    rcases hNew t ht with hOld | rfl
    · exact h.held t hOld hOther
    · exact absurd hOther hNoted

theorem parse_packet (h : FlowMemory sn past flows) (s : Shot) (hRead : ¬s.carrier.Misread)
    (hFew : (tlsFlows (past ++ [s])).card < TLS_FLOW_MEMORY_CAP) :
    ∃ c, sn.parse_packet flows s.captured = some c ∧
      FlowMemory sn (past ++ [s]) c.tls_flows := by
  obtain ⟨c, hParsed, hFlows⟩ := s.flows_parse_packet sn flows hRead
  have hLast : s ∈ past ++ [s] := List.mem_append_right _ List.mem_cons_self
  have hOnce := h.note (List.subset_append_left past [s]) hLast
    (fun t ht => (List.mem_append.mp ht).imp_right List.mem_singleton.mp) hFew
  have hTwice := hOnce.note (List.Subset.refl _) hLast (fun t ht => Or.inl ht) hFew
  refine ⟨c, hParsed, ?_⟩
  rcases hFlows with hFlows | hFlows
  · rw [hFlows]
    exact hOnce
  · rw [hFlows]
    exact hTwice

end FlowMemory

end Sniff4Hound
