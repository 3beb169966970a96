import Sniff4Hound.Capture.LinkContract

/-!
# Transport segments in frames

A frame is an Ethernet frame or a headerless IP packet; the segment it carries is read off
by the layout of the headers. The packet that the parser makes of a TCP or UDP frame it does
not misread is then known, and two facts hold of the packet of any byte string: the name
`tcp` stays only where the port table has no entry, and a DHCP message type is a text.
-/

namespace Sniff4Hound

/-! ## Names that the tables do not hold -/

variable {table : Table}

theorem Table.name_eq_empty {key : Nat} (h : table.name key = "")
    (hNames : ∀ entry ∈ table, entry.2 ≠ "") : ∀ entry ∈ table, entry.1 ≠ key := by
  intro entry hEntry hKey
  rw [Table.name] at h
  cases hLookup : table.lookup key with
  | none =>
    rw [List.lookup_eq_none_iff] at hLookup
    have hNe := hLookup entry hEntry
    rw [hKey] at hNe
    simp at hNe
  | some name =>
    rw [hLookup] at h
    obtain ⟨front, rest, hSplit, -⟩ := List.lookup_eq_some_iff.mp hLookup
    apply hNames (key, name)
    · rw [hSplit]
      exact List.mem_append_right _ List.mem_cons_self
    · exact h

variable {name : String}

theorem Table.name_ne (hName : name ≠ "") (hNames : ∀ entry ∈ table, entry.2 ≠ name) (key : Nat)
    : table.name key ≠ name := by
  rw [Table.name]
  cases hLookup : table.lookup key with
  | none => exact hName.symm
  | some found =>
    obtain ⟨front, rest, hSplit, -⟩ := List.lookup_eq_some_iff.mp hLookup
    apply hNames (key, found)
    rw [hSplit]
    exact List.mem_append_right _ List.mem_cons_self

theorem port_protocol_ne (hName : name ≠ "") (hNames : ∀ entry ∈ table, entry.2 ≠ name)
    (src_port dst_port : Nat) : port_protocol table src_port dst_port ≠ name := by
  rw [port_protocol]
  split
  · exact Table.name_ne hName hNames dst_port
  · exact Table.name_ne hName hNames src_port

theorem ite_mem {α : Type*} {c : Prop} [Decidable c] {a b : α} {l : List α} (ha : a ∈ l)
    (hb : b ∈ l) : (if c then a else b) ∈ l := by
  split
  · exact ha
  · exact hb

theorem tcp_signature_names (data : Bytes) : tcp_signature data ∈
    ["", "tls", "ssh", "sip", "http", "vnc", "telnet", "smb"] := by
  rw [tcp_signature]
  repeat' apply ite_mem
  all_goals repeat' (first | exact List.mem_cons_self | apply List.mem_cons_of_mem)

theorem udp_signature_names (data : Bytes) : udp_signature data ∈ ["", "ssdp", "sip", "quic"] := by
  rw [udp_signature]
  repeat' apply ite_mem
  all_goals repeat' (first | exact List.mem_cons_self | apply List.mem_cons_of_mem)

theorem classify_tcp_ne (src_port dst_port : Nat) (payload : Bytes) :
    classify_tcp src_port dst_port payload ≠ "tcp" := by
  rw [classify_tcp]
  split
  · have hNames : ∀ name ∈ ["", "tls", "ssh", "sip", "http", "vnc", "telnet", "smb"],
        name ≠ "tcp" := by decide
    exact hNames _ (tcp_signature_names payload)
  · exact port_protocol_ne (by decide) (by decide) src_port dst_port

theorem classify_udp_ne (hName : name = "tcp" ∨ name = "udp") (src_port dst_port : Nat)
    (payload : Bytes) : classify_udp src_port dst_port payload ≠ name := by
  rw [classify_udp]
  split
  · have hNames : ∀ found ∈ ["", "ssdp", "sip", "quic"], found ≠ "tcp" ∧ found ≠ "udp" := by decide
    obtain ⟨hTcp, hUdp⟩ := hNames _ (udp_signature_names payload)
    rcases hName with rfl | rfl
    · exact hTcp
    · exact hUdp
  · rcases hName with rfl | rfl
    · exact port_protocol_ne (by decide) (by decide) src_port dst_port
    · exact port_protocol_ne (by decide) (by decide) src_port dst_port

theorem tcp_proto_tcp {rt : Runtime} {src_port dst_port : Nat} {payload : Bytes}
    (h : tcp_proto rt src_port dst_port payload = "tcp") :
    TCP_PORT_PROTOCOLS.name dst_port = "" := by
  rw [tcp_proto] at h
  split at h
  · exact absurd h (by decide)
  · exact absurd h (by decide)
  · exact absurd h (by decide)
  · exact absurd h (by decide)
  · dsimp only at h
    split at h
    · rename_i hNone
      rw [classify_tcp] at hNone
      split at hNone
      · contradiction
      · rw [port_protocol] at hNone
        split at hNone
        · contradiction
        · exact not_not.mp ‹_›
    · exact absurd h (classify_tcp_ne src_port dst_port payload)

theorem udp_proto_ne_tcp (src_port dst_port : Nat) (payload : Bytes) :
    udp_proto src_port dst_port payload ≠ "tcp" := by
  rw [udp_proto]
  split
  · rename_i decoder _
    cases decoder <;> decide
  · dsimp only
    split
    · decide
    · exact classify_udp_ne (Or.inl rfl) src_port dst_port payload

theorem udp_proto_dns (src_port : Nat) (payload : Bytes) :
    udp_proto src_port 53 payload = "dns" := by
  rw [udp_proto, udpClaim, if_pos (Or.inr rfl)]
  rfl

/-! ## The packet of any byte string -/

def LOGIN_TCP_PORTS : List Nat := [21, 22, 23, 25, 110, 143, 993, 995, 1433, 3306, 3389, 5432, 5900]

structure Outline (c : Capture) : Prop where
  /-- A packet named `tcp` goes to a port without a name, a login port least of all. -/
  unnamed : c.packet "proto" = .str "tcp" →
    ∃ port : Nat, c.packet "dst_port" = .int port ∧ port ∉ LOGIN_TCP_PORTS
  /-- The DHCP message type is a name, where there is one. -/
  lease : c.packet "dhcp_msg_type" = .null ∨ ∃ name, c.packet "dhcp_msg_type" = .str name

/-- The capture as it is before a transport has been read. -/
structure Fresh (c : Capture) : Prop where
  dst_port : c.packet "dst_port" = .int 0
  lease : c.packet "dhcp_msg_type" = .null

theorem Outline.congr {c c' : Capture} (h : Outline c) (hAgree : Agree CORE_KEYS c c') :
    Outline c' := by
  constructor
  · rw [hAgree "proto" (by decide), hAgree "dst_port" (by decide)]
    exact h.unnamed
  · rw [hAgree "dhcp_msg_type" (by decide)]
    exact h.lease

section Outline

variable {c : Capture} (h : Fresh c)
include h

variable {c' : Capture}

theorem Outline.of_named (name : String) (hName : name ≠ "tcp")
    (hAgree : Agree NAMED_KEYS (c.set "proto" (.str name)) c') : Outline c' := by
  constructor
  · rw [hAgree "proto" (by decide)]
    intro hTcp
    injection hTcp with hTcp
    exact absurd hTcp hName
  · rw [hAgree "dhcp_msg_type" (by decide)]
    exact Or.inl h.lease

theorem Outline.of_plain (name : String) (hName : name ≠ "tcp")
    (hAgree : Agree PLAIN_KEYS (c.set "proto" (.str name)) c') : Outline c' :=
  Outline.of_named h name hName (hAgree.mono (by decide))

variable (sn : Sniffer)

theorem Outline.parse_tcp (body : Bytes) (ip_version : Nat) :
    Outline (sn.parse_tcp c body ip_version) := by
  by_cases hShort : body.length < 20
  · have hAgree := parse_tcp_short_agree sn c body ip_version hShort
    constructor
    · intro _
      rw [hAgree "dst_port" (by decide)]
      exact ⟨0, h.dst_port, by decide⟩
    · rw [hAgree "dhcp_msg_type" (by decide)]
      exact Or.inl h.lease
  · have hAgree := parse_tcp_agree sn c body ip_version (by omega)
    constructor
    · intro hTcp
      rw [hAgree "proto" (by decide)] at hTcp
      injection hTcp with hTcp
      have hEmpty := Table.name_eq_empty (tcp_proto_tcp hTcp) (by decide)
      refine ⟨body.num 2 4, hAgree "dst_port" (by decide), ?_⟩
      intro hLogin
      have hKeys : ∀ port ∈ LOGIN_TCP_PORTS, ∃ entry ∈ TCP_PORT_PROTOCOLS, entry.1 = port := by
        decide
      obtain ⟨entry, hEntry, hPort⟩ := hKeys _ hLogin
      exact hEmpty entry hEntry hPort
    · rw [hAgree "dhcp_msg_type" (by decide)]
      exact Or.inl h.lease

omit h in
theorem parse_dhcp_lease (payload : Bytes)
    (hLease : c.packet "dhcp_msg_type" = .null) :
    (parse_dhcp c payload).packet "dhcp_msg_type" = .null ∨
      ∃ name, (parse_dhcp c payload).packet "dhcp_msg_type" = .str name := by
  have hKept : ∀ c', Agree ["dhcp_msg_type"] c c' →
      c'.packet "dhcp_msg_type" = .null := by
    intro c' hAgree
    rw [hAgree "dhcp_msg_type" List.mem_cons_self, hLease]
  rw [parse_dhcp]
  dsimp only
  split
  · left
    apply hKept
    simp (disch := decide) only [agree_summarize, agree_set, Agree.refl]
  · rename_i found _
    have hType : Agree ["dhcp_msg_type"] (found.applyType (c.set "proto" (.str "dhcp")))
        (((((found.applyType (c.set "proto" (.str "dhcp"))).setText "dhcp_hostname"
          found.hostname).setText "dhcp_requested_ip" found.requested_ip).setText
            "dhcp_vendor_class" found.vendor_class).describe (join " " (["DHCP " ++
              found.type_name] ++ part "host=" found.hostname ++
                part "requested=" found.requested_ip ++ part "vendor=" found.vendor_class))) := by
      simp (disch := decide) only [agree_describe, agree_setText, Agree.refl]
    rw [hType "dhcp_msg_type" List.mem_cons_self, DhcpOptions.applyType]
    split
    · exact Or.inr ⟨found.type_name, set_packet_same _ _ _⟩
    · left
      apply hKept
      exact (agree_set _ (by decide)).mpr (Agree.refl _ c)

theorem parse_udp_lease (body : Bytes) (ip_version : Nat) :
    (sn.parse_udp c body ip_version).packet "dhcp_msg_type" = .null ∨
      ∃ name, (sn.parse_udp c body ip_version).packet "dhcp_msg_type" = .str name := by
  by_cases hShort : body.length < 8
  · rw [parse_udp_short_agree sn c body ip_version hShort "dhcp_msg_type" (by decide)]
    exact Or.inl h.lease
  · rw [Sniffer.parse_udp]
    dsimp only
    rw [if_neg hShort]
    generalize hReady : (sn.udpBanner (udpHeader sn.toRuntime (c.set "proto" (.str "udp")) body)
      (udpPayload body)).hopDefault ip_version = ready
    have hHeader : Agree CORE_KEYS (udpFields (c.set "proto" (.str "udp")) body)
        (udpHeader sn.toRuntime (c.set "proto" (.str "udp")) body) := udpHeader_agree _ _ body
    have hLease : ready.packet "dhcp_msg_type" = .null := by
      rw [← hReady, (agree_hopDefault ip_version (by decide)).mpr (udpBanner_keeps sn _ _)
        "dhcp_msg_type" (by decide), hHeader "dhcp_msg_type" (by decide)]
      exact h.lease
    rw [parseUdpPayload]
    split
    case h_2 => exact parse_dhcp_lease _ hLease
    all_goals left
    · rw [apply_dns_result_keeps _ _ _ _ _ "dhcp_msg_type" (by decide)]
      exact hLease
    · rw [apply_dns_result_keeps _ _ _ _ _ "dhcp_msg_type" (by decide)]
      exact hLease
    · rw [apply_dns_result_keeps _ _ _ _ _ "dhcp_msg_type" (by decide)]
      exact hLease
    · rw [parse_nbns_keeps _ _ "dhcp_msg_type" (by decide)]
      exact hLease
    · rw [parse_snmp_keeps _ _ "dhcp_msg_type" (by decide)]
      exact hLease
    · rw [parse_syslog_keeps _ _ "dhcp_msg_type" (by decide)]
      exact hLease
    · rw [parse_tftp_keeps _ _ "dhcp_msg_type" (by decide)]
      exact hLease
    · rw [parse_radius_keeps _ _ "dhcp_msg_type" (by decide)]
      exact hLease
    · rw [parse_dnp3_keeps _ _ "dhcp_msg_type" (by decide)]
      exact hLease
    · rw [applyName]
      split
      · exact hLease
      · rw [apply_app_decoder_keeps _ _ _ "dhcp_msg_type" (by decide)]
        exact hLease

theorem Outline.parse_udp (body : Bytes) (ip_version : Nat) :
    Outline (sn.parse_udp c body ip_version) := by
  constructor
  · intro hTcp
    by_cases hShort : body.length < 8
    · have hAgree := parse_udp_short_agree sn c body ip_version hShort
      rw [hAgree "proto" (by decide)] at hTcp
      injection hTcp with hTcp
      exact absurd hTcp (by decide)
    · have hAgree := parse_udp_agree sn c body ip_version (by omega)
      rw [hAgree "proto" (by decide)] at hTcp
      injection hTcp with hTcp
      exact absurd hTcp (udp_proto_ne_tcp _ _ _)
  · exact parse_udp_lease h sn body ip_version

theorem Outline.parse_ah (body : Bytes) (ip_version : Nat) :
    Outline (sn.parse_ah c body ip_version) := by
  have hNamed : ∀ summary, Outline ((c.set "proto" (.str "ah")).summarize summary) := by
    intro summary
    apply Outline.of_named h "ah" (by decide)
    simp (disch := decide) only [agree_summarize, Agree.refl]
  have hInner : Outline (sn.parseAhInner c body ip_version) := by
    rw [Sniffer.parseAhInner]
    split_ifs
    · exact Outline.parse_tcp h sn _ ip_version
    · exact Outline.parse_udp h sn _ ip_version
    · exact Outline.of_plain h _ (by split <;> decide) (Sniffer.parse_icmp_agree sn c _ _)
    · exact hNamed _
  rw [Sniffer.parse_ah]
  dsimp only
  split
  · exact hNamed _
  · exact hInner.congr ((agree_summarize _ (by decide) (by decide)).mpr (Agree.refl _ _))

theorem Outline.carried {sn : Sniffer} {body : Bytes} {ip_version : Nat} {proto : Option Nat}
    (hCarried : sn.Carried c body ip_version proto c') : Outline c' := by
  cases hCarried with
  | tcp => exact Outline.parse_tcp h sn body ip_version
  | udp => exact Outline.parse_udp h sn body ip_version
  | sctp => exact Outline.of_named h _ (by decide) (Sniffer.parse_sctp_agree sn c body ip_version)
  | ah => exact Outline.parse_ah h sn body ip_version
  | plain _ _ _ _ hName hAgree =>
    have hNot : "tcp" ∉ NETWORK_NAMES := by decide
    exact Outline.of_plain h _ (fun hTcp => hNot (hTcp ▸ hName)) hAgree

theorem Outline.of_untouched (hProto : c.packet "proto" ≠ .str "tcp")
    (hAgree : Agree NAMED_KEYS c c') : Outline c' := by
  constructor
  · rw [hAgree "proto" (by decide)]
    exact fun hTcp => absurd hTcp hProto
  · rw [hAgree "dhcp_msg_type" (by decide)]
    exact Or.inl h.lease

theorem Outline.parse_ipv4 (payload : Bytes)
    (hProto : c.packet "proto" ≠ .str "tcp") : Outline (sn.parse_ipv4 c payload) := by
  rw [Sniffer.parse_ipv4]
  split
  · exact Outline.of_untouched h hProto
      ((shortBody_agree sn c _ payload).mono named_subset_core)
  · have hFields : Fresh (Sniffer.ipv4Fields c payload) := ⟨h.dst_port, h.lease⟩
    exact (Outline.carried hFields (sn.carried_ipv4 _ _ _)).congr (Sniffer.summaryOrFallback_agree sn _)

theorem Outline.parse_ipv6 (payload : Bytes)
    (hProto : c.packet "proto" ≠ .str "tcp") : Outline (sn.parse_ipv6 c payload) := by
  rw [Sniffer.parse_ipv6]
  split
  · exact Outline.of_untouched h hProto
      ((shortBody_agree sn c _ payload).mono named_subset_core)
  · have hFields : Fresh (Sniffer.ipv6Fields c payload) := ⟨h.dst_port, h.lease⟩
    exact (Outline.carried hFields (sn.carried_ipv6 _ _ _ _)).congr (Sniffer.summaryOrFallback_agree sn _)

theorem Outline.parse_arp (payload : Bytes) : Outline (sn.parse_arp c payload) := by
  by_cases hShort : payload.length < 28
  · rw [Sniffer.parse_arp]
    dsimp only
    rw [if_pos hShort]
    exact Outline.of_named h _ (by decide)
      (Sniffer.shortBody_named sn _ _ _ payload (Agree.refl _ _))
  · have hAgree := Sniffer.parse_arp_agree sn c payload (by omega)
    constructor
    · intro hTcp
      rw [hAgree "proto" (by decide)] at hTcp
      injection hTcp with hTcp
      exact absurd hTcp (by decide)
    · rw [hAgree "dhcp_msg_type" (by decide)]
      exact Or.inl h.lease

theorem Outline.parse_stp (payload : Bytes) : Outline (sn.parse_stp c payload) := by
  apply Outline.of_named h "stp" (by decide)
  refine Agree.trans ?_ ((Sniffer.bannerOrSummary_agree sn _ payload).mono named_subset_core)
  simp (disch := decide) only [agree_set, Agree.refl]

theorem Outline.nameLinkProtocol {named : String} (payload : Bytes)
    (hNamed : named ≠ "tcp") : Outline (sn.nameLinkProtocol c named payload) := by
  apply Outline.of_named h named hNamed
  refine Agree.trans ?_ (Sniffer.bannerPayload_agree sn _ _ (by decide) (by decide) (by decide))
  refine Agree.trans ?_ ((apply_app_decoder_keeps _ named payload).mono (by decide))
  simp (disch := decide) only [agree_set, Agree.refl]

theorem Outline.parseSnap (payload : Bytes)
    (hProto : c.packet "proto" ≠ .str "tcp") : Outline (sn.parseSnap c payload) := by
  have hSnap : ∀ oui snap_type, Fresh (((c.set "llc_snap_oui" oui).set "llc_snap_ethertype"
      snap_type).set "eth_type" snap_type) := fun _ _ => ⟨h.dst_port, h.lease⟩
  unfold Sniffer.parseSnap
  dsimp only
  split
  · exact Outline.parse_ipv4 (hSnap _ _) sn _ hProto
  split
  · exact Outline.parse_ipv6 (hSnap _ _) sn _ hProto
  split
  · exact Outline.parse_arp (hSnap _ _) sn _
  split
  · rename_i named hLookup
    refine Outline.nameLinkProtocol (hSnap _ _) sn _ ?_
    obtain ⟨front, rest, hSplit, -⟩ := List.lookup_eq_some_iff.mp hLookup
    have hNames : ∀ entry ∈ SNAP_PROTOCOLS, entry.2 ≠ "tcp" := by decide
    apply hNames (_, named)
    rw [hSplit]
    exact List.mem_append_right _ List.mem_cons_self
  · exact Outline.of_named (hSnap (.str (format_mac (payload.slice 3 6)))
      (.int (payload.num 6 8))) "llc-snap" (by decide)
        (Sniffer.shortBody_named sn _ _ _ (payload.drop 8) (Agree.refl _ _))

theorem Outline.parse_llc (payload : Bytes) (declared_length : Nat)
    (hProto : c.packet "proto" ≠ .str "tcp") :
    Outline (sn.parse_llc c payload declared_length) := by
  have hLength : Fresh (c.set "llc_length" (.int declared_length)) := ⟨h.dst_port, h.lease⟩
  unfold Sniffer.parse_llc
  dsimp only
  split
  · exact Outline.of_named hLength _ (by decide)
      (Sniffer.shortBody_named sn _ _ _ payload (Agree.refl _ _))
  split
  · refine Outline.parseSnap ?_ sn payload hProto
    exact ⟨h.dst_port, h.lease⟩
  · have hFresh : Fresh ((((c.set "llc_length" (.int declared_length)).set "llc_dsap"
        (.int (payload.byte 0))).set "llc_ssap" (.int (payload.byte 1))).set "llc_control"
          (.int (payload.byte 2))) := ⟨h.dst_port, h.lease⟩
    refine Outline.of_named hFresh _ ?_ ((agree_set _ (by decide)).mpr (Agree.trans
      ((agree_set _ (by decide)).mpr (Agree.refl _ _))
        (Sniffer.readPayload_agree sn _ _ (by decide) (by decide))))
    split
    · decide
    · intro hTcp
      have hList := congrArg String.toList hTcp
      rw [String.toList_append] at hList
      cases hList

theorem Outline.parseOtherType (eth_type : Nat) (payload : Bytes)
    (hProto : c.packet "proto" ≠ .str "tcp") : Outline (sn.parseOtherType c eth_type payload) := by
  rw [Sniffer.parseOtherType]
  dsimp only
  split
  · apply Outline.of_untouched h hProto
    refine Agree.trans ?_ (Sniffer.bannerPayload_agree sn _ _ (by decide) (by decide) (by decide))
    simp (disch := decide) only [agree_set, Agree.refl]
  · exact Outline.nameLinkProtocol h sn payload (Table.name_ne (by decide) (by decide) eth_type)

theorem Outline.parseEtherType (eth_type : Nat) (payload : Bytes)
    (hProto : c.packet "proto" ≠ .str "tcp") : Outline (sn.parseEtherType c eth_type payload) := by
  rw [Sniffer.parseEtherType]
  split_ifs
  · exact Outline.parse_ipv4 h sn payload hProto
  · exact Outline.parse_ipv6 h sn payload hProto
  · exact Outline.parse_arp h sn payload
  · exact Outline.parse_stp h sn payload
  · exact Outline.parse_llc h sn payload eth_type hProto
  · exact Outline.parseOtherType h sn eth_type payload hProto

end Outline

theorem fresh_newPacket (flows : List String) (captured : Sniffer.Captured) (payload : Bytes)
    (eth_src eth_dst : String) (eth_type : Nat) :
    Fresh (Sniffer.newPacket flows captured payload eth_src eth_dst eth_type) := ⟨rfl, rfl⟩

theorem proto_newPacket (flows : List String) (captured : Sniffer.Captured) (payload : Bytes)
    (eth_src eth_dst : String) (eth_type : Nat) :
    (Sniffer.newPacket flows captured payload eth_src eth_dst eth_type).packet "proto" ≠
      .str "tcp" := by
  intro hTcp
  injection hTcp with hTcp
  exact absurd hTcp (by decide)

theorem outline_of_parse_packet (sn : Sniffer) {flows : List String}
    {captured : Sniffer.Captured} {c : Capture} (h : sn.parse_packet flows captured = some c) :
    Outline c := by
  have hLast := fun c => Sniffer.finalize_packet_agree sn c
  have hBase := fresh_newPacket flows captured
  have hProto := proto_newPacket flows captured
  rw [Sniffer.parse_packet] at h
  split_ifs at h
  · obtain rfl := Option.some.inj h
    exact (Outline.parse_ipv4 (hBase _ _ _ _) sn _ (hProto _ _ _ _)).congr (hLast _)
  · obtain rfl := Option.some.inj h
    exact (Outline.parse_ipv6 (hBase _ _ _ _) sn _ (hProto _ _ _ _)).congr (hLast _)
  · obtain rfl := Option.some.inj h
    exact (Outline.parseEtherType (hBase _ _ _ _) sn _ _ (hProto _ _ _ _)).congr (hLast _)

/-! ## Frames and what they carry -/

/-- An Ethernet frame, or what is guessed to be bare IP. -/
inductive Frame where
  | ethernet (frame : EthernetFrame)
  | bare4 (packet : Bytes) (guessed : Sniffer.looks_like_raw_ipv4 packet = true)
  | bare6 (packet : Bytes) (guessed : Sniffer.looks_like_raw_ipv6 packet = true)

namespace Frame

def bytes : Frame → Bytes
  | ethernet frame => frame.bytes
  | bare4 packet _ => packet
  | bare6 packet _ => packet

def kind : Frame → EtherKind
  | ethernet frame => frame.kind
  | bare4 _ _ => .ipv4
  | bare6 _ _ => .ipv6

def packet : Frame → Bytes
  | ethernet frame => frame.body
  | bare4 packet _ => packet
  | bare6 packet _ => packet

def Misread : Frame → Prop
  | ethernet frame => GuessedRaw frame.bytes
  | bare4 _ _ => False
  | bare6 _ _ => False

def addresses (frame : Frame) : String × String := frame.kind.addresses frame.packet

end Frame

def transport : EtherKind → Bytes → Option (Nat × Bytes)
  | .ipv4, packet =>
    let ihl := packet.byte 0 % 0x10 * 4
    let total_length := packet.num 2 4
    if packet.byte 0 / 0x10 = 4 ∧ 20 ≤ ihl ∧ ihl ≤ total_length ∧
        total_length ≤ packet.length ∧ packet.num 6 8 % 0x2000 = 0 then
      some (packet.byte 9, packet.slice ihl total_length)
    else none
  | .ipv6, packet =>
    if packet.byte 0 / 0x10 = 6 ∧ 40 ≤ packet.length then
      match Sniffer.unwrap_ipv6_transport packet with
      | (some next_header, body, _) => some (next_header, body)
      | (none, _, _) => none
    else none
  | .arp, _ => none

def Frame.tcp (frame : Frame) : Option Bytes :=
  match transport frame.kind frame.packet with
  | some (proto, body) => if proto = IP_PROTO_TCP ∧ 20 ≤ body.length then some body else none
  | none => none

def Frame.udp (frame : Frame) : Option Bytes :=
  match transport frame.kind frame.packet with
  | some (proto, body) => if proto = IP_PROTO_UDP ∧ 8 ≤ body.length then some body else none
  | none => none

variable {body : Bytes}

theorem segment_eq_some {found : Option (Nat × Bytes)} {proto header : Nat}
    (h : (match found with | some (p, body) => if p = proto ∧ header ≤ body.length then some body else none | none => none) = some body)
    : found = some (proto, body) ∧ header ≤ body.length := by
  split at h
  · split at h
    · rename_i hHeld
      obtain rfl := Option.some.inj h
      exact ⟨congrArg (fun p => some (p, _)) hHeld.1, hHeld.2⟩
    · cases h
  · cases h

theorem Frame.tcp_eq_some {frame : Frame} (h : frame.tcp = some body) :
    transport frame.kind frame.packet = some (IP_PROTO_TCP, body) ∧ 20 ≤ body.length :=
  segment_eq_some h

theorem Frame.udp_eq_some {frame : Frame} (h : frame.udp = some body) :
    transport frame.kind frame.packet = some (IP_PROTO_UDP, body) ∧ 8 ≤ body.length :=
  segment_eq_some h

/-! ## The packet of a frame -/

section Read

variable (sn : Sniffer) (flows : List String) (now interface : String)

theorem parse_packet_frame (frame : Frame) (hRead : ¬ frame.Misread) :
    ∃ base, Fresh base ∧ sn.parse_packet flows ⟨now, interface, frame.bytes⟩ =
      some (sn.finalize_packet (sn.parseEtherType base frame.kind.code frame.packet)) := by
  cases frame with
  | ethernet frame =>
    obtain ⟨h4, h6⟩ := not_or.mp hRead
    refine ⟨_, fresh_newPacket flows ⟨now, interface, frame.bytes⟩ frame.body
      (format_mac frame.src) (format_mac frame.dst) frame.kind.code, ?_⟩
    rw [Frame.bytes, parse_packet_ethernet sn flows now interface frame h4 h6,
      parseEthernet_bytes]
    rfl
  | bare4 packet guessed =>
    refine ⟨_, fresh_newPacket flows ⟨now, interface, packet⟩ packet "" "" ETHERTYPE_IPV4, ?_⟩
    rw [Frame.bytes, parse_packet_raw4 sn flows now interface guessed]
    rfl
  | bare6 packet guessed =>
    refine ⟨_, fresh_newPacket flows ⟨now, interface, packet⟩ packet "" "" ETHERTYPE_IPV6, ?_⟩
    rw [Frame.bytes, parse_packet_raw6 sn flows now interface guessed]
    rfl

variable {body : Bytes}

/-- The network layer hands a complete packet to the parser of its transport, with its
addresses set. -/
theorem parseEtherType_transport {base : Capture} (hBase : Fresh base) {kind : EtherKind}
    {packet : Bytes} {proto : Nat} (h : transport kind packet = some (proto, body))
    (hBody : 8 ≤ body.length) :
    ∃ fields ip_version, Fresh fields ∧
      fields.packet "src_ip" = .str (kind.addresses packet).1 ∧
      fields.packet "dst_ip" = .str (kind.addresses packet).2 ∧
      (proto = IP_PROTO_TCP → sn.parseEtherType base kind.code packet =
        sn.summaryOrFallback (sn.parse_tcp fields body ip_version)) ∧
      (proto = IP_PROTO_UDP → sn.parseEtherType base kind.code packet =
        sn.summaryOrFallback (sn.parse_udp fields body ip_version)) := by
  cases kind with
  | arp => cases h
  | ipv4 =>
    rw [transport] at h
    split at h
    · rename_i hValid
      obtain ⟨hProto, hSlice⟩ := Prod.mk.inj (Option.some.inj h)
      have hLong : ¬ packet.length < 20 := by omega
      have hDeclared : packet.byte 0 % 0x10 * 4 < packet.num 2 4 := by
        rw [← hSlice, Bytes.slice, List.length_take] at hBody
        omega
      have hIpv4 : Sniffer.ipv4Body packet = body := by
        rw [Sniffer.ipv4Body, if_pos hDeclared, hSlice]
      have hParsed : sn.parseEtherType base EtherKind.ipv4.code packet = sn.summaryOrFallback
          (sn.parseIpv4Body (Sniffer.ipv4Fields base packet) proto body) := by
        rw [Sniffer.parseEtherType, if_pos (show EtherKind.ipv4.code = ETHERTYPE_IPV4 from rfl),
          Sniffer.parse_ipv4, if_neg hLong, hIpv4, hProto]
      refine ⟨Sniffer.ipv4Fields base packet, 4, ⟨hBase.dst_port, hBase.lease⟩, rfl, rfl,
        ?_, ?_⟩
      · rintro rfl
        exact hParsed
      · rintro rfl
        exact hParsed
    · cases h
  | ipv6 =>
    rw [transport] at h
    split at h
    · rename_i hValid
      cases hUnwrap : Sniffer.unwrap_ipv6_transport packet with
      | mk next_header rest =>
        obtain ⟨found, detail⟩ := rest
        rw [hUnwrap] at h
        cases next_header with
        | none => cases h
        | some next_header =>
          obtain ⟨rfl, rfl⟩ := Prod.mk.inj (Option.some.inj h)
          have hLong : ¬ packet.length < 40 := by omega
          have hParsed : sn.parseEtherType base EtherKind.ipv6.code packet =
              sn.summaryOrFallback (sn.parseIpv6Body (Sniffer.ipv6Fields base packet)
                (some next_header) found detail) := by
            rw [Sniffer.parseEtherType, if_neg (by decide),
              if_pos (show EtherKind.ipv6.code = ETHERTYPE_IPV6 from rfl),
              Sniffer.parse_ipv6, if_neg hLong, hUnwrap]
          refine ⟨Sniffer.ipv6Fields base packet, 6, ⟨hBase.dst_port, hBase.lease⟩, rfl,
            rfl, ?_, ?_⟩
          · rintro rfl
            exact hParsed
          · rintro rfl
            exact hParsed
    · cases h

theorem parse_packet_tcp {frame : Frame} (hRead : ¬ frame.Misread) (h : frame.tcp = some body) :
    ∃ c, sn.parse_packet flows ⟨now, interface, frame.bytes⟩ = some c ∧
      c.packet "proto" =
        .str (tcp_proto sn.toRuntime (body.num 0 2) (body.num 2 4) (tcpPayload body)) ∧
      c.packet "tcp_flags" = .str (tcpFlagsText (body.byte 13)) ∧
      c.packet "src_ip" = .str frame.addresses.1 := by
  obtain ⟨hTransport, hLong⟩ := Frame.tcp_eq_some h
  obtain ⟨base, hBase, hParsed⟩ := parse_packet_frame sn flows now interface frame hRead
  obtain ⟨fields, ip_version, -, hSrc, -, hTcp, -⟩ :=
    parseEtherType_transport sn hBase hTransport (by omega)
  have hAgree := ((parse_tcp_agree sn fields body ip_version hLong).trans
    (Sniffer.summaryOrFallback_agree sn _)).trans (Sniffer.finalize_packet_agree sn _)
  refine ⟨_, hParsed, ?_⟩
  rw [hTcp rfl]
  exact ⟨hAgree "proto" (by decide), hAgree "tcp_flags" (by decide),
    (hAgree "src_ip" (by decide)).trans hSrc⟩

theorem parse_packet_udp {frame : Frame} (hRead : ¬ frame.Misread) (h : frame.udp = some body) :
    ∃ c, sn.parse_packet flows ⟨now, interface, frame.bytes⟩ = some c ∧
      c.packet "proto" =
        .str (udp_proto (body.num 0 2) (body.num 2 4) (udpPayload body)) ∧
      c.packet "dst_port" = .int (body.num 2 4) := by
  have hKeys : HEADER_KEYS ⊆ CORE_KEYS := List.subset_cons_self _ _
  obtain ⟨hTransport, hLong⟩ := Frame.udp_eq_some h
  obtain ⟨base, hBase, hParsed⟩ := parse_packet_frame sn flows now interface frame hRead
  obtain ⟨fields, ip_version, -, -, -, -, hUdp⟩ :=
    parseEtherType_transport sn hBase hTransport hLong
  have hAgree := ((parse_udp_agree sn fields body ip_version hLong).trans
    ((Sniffer.summaryOrFallback_agree sn _).mono hKeys)).trans
      ((Sniffer.finalize_packet_agree sn _).mono hKeys)
  refine ⟨_, hParsed, ?_⟩
  rw [hUdp rfl]
  exact ⟨hAgree "proto" (by decide), hAgree "dst_port" (by decide)⟩

end Read

end Sniff4Hound
