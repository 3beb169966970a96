import Sniff4Hound.Capture.Carriers

/-!
# Fragments without a transport header

Only the first fragment of a packet begins with the header of its transport. The walk over the
IPv6 extension headers stops at a later fragment; the IPv4 parser does not look at the fragment
offset. `fragment_unread_iff` says of which later fragments nothing is taken for a header.
-/

namespace Sniff4Hound

/-! ## What is not read -/

/-- No transport, port, flags or name has been read from the packet. -/
structure Unread (c : Capture) : Prop where
  transport : c.packet "transport" = .str ""
  src_port : c.packet "src_port" = .int 0
  dst_port : c.packet "dst_port" = .int 0
  tcp_flags : c.packet "tcp_flags" = .str ""
  domain : c.packet "domain" = .str ""
  proto : ∃ name ∈ NETWORK_NAMES, c.packet "proto" = .str name

def UNREAD_KEYS : List String :=
  ["transport", "src_port", "dst_port", "tcp_flags", "domain", "proto"]

variable {c c' : Capture}

theorem Unread.congr (h : Unread c) (hAgree : Agree UNREAD_KEYS c c') : Unread c' := by
  obtain ⟨name, hName, hProto⟩ := h.proto
  exact ⟨(hAgree _ (by decide)).trans h.transport, (hAgree _ (by decide)).trans h.src_port,
    (hAgree _ (by decide)).trans h.dst_port, (hAgree _ (by decide)).trans h.tcp_flags,
    (hAgree _ (by decide)).trans h.domain, name, hName, (hAgree _ (by decide)).trans hProto⟩

theorem unread_congr (hAgree : Agree UNREAD_KEYS c c') : Unread c' ↔ Unread c := by
  have hBack : Agree UNREAD_KEYS c' c := fun k hk => (hAgree k hk).symm
  exact ⟨fun h => h.congr hBack, fun h => h.congr hAgree⟩

theorem unread_named (hBlank : Blank c) {name : String} (hName : name ∈ NETWORK_NAMES)
    (hAgree : Agree PLAIN_KEYS (c.set "proto" (.str name)) c') : Unread c' := by
  have hNamed : Unread (c.set "proto" (.str name)) := ⟨hBlank.transport, hBlank.src_port,
    hBlank.dst_port, hBlank.tcp_flags, hBlank.domain, name, hName, rfl⟩
  exact hNamed.congr (hAgree.mono (by decide))

/-! ## Parsers that write no transport -/

namespace Sniffer

variable (sn : Sniffer)

theorem bannerPayload_unread (c : Capture) (payload : Bytes) :
    Agree UNREAD_KEYS c (sn.bannerPayload c payload) :=
  bannerPayload_agree sn c payload (by decide) (by decide) (by decide)

theorem parse_sctp_unread (c : Capture) (body : Bytes) (ip_version : Nat)
    (hLong : 12 ≤ body.length) :
    Agree UNREAD_KEYS (((c.set "proto" (.str "sctp")).set "src_port" (.int (body.num 0 2))).set
      "dst_port" (.int (body.num 2 4))) (sn.parse_sctp c body ip_version) := by
  rw [parse_sctp]
  dsimp only
  rw [if_neg (by omega), agree_hopDefault _ (by decide), summaryOrLine, agree_set _ (by decide)]
  exact bannerPayload_unread sn _ _

theorem summaryOrFallback_unread (c : Capture) :
    Agree UNREAD_KEYS c (sn.summaryOrFallback c) :=
  (agree_set _ (by decide)).mpr (Agree.refl _ c)

theorem finalize_packet_unread (c : Capture) : Agree UNREAD_KEYS c (sn.finalize_packet c) := by
  refine Agree.trans ?_ (summaryOrFallback_unread sn _)
  simp (disch := decide) only [Capture.orSet, agree_set, Agree.refl]

end Sniffer

/-! ## Bodies that are read -/

def dispatched : EtherKind → Bytes → Option Nat × Bytes
  | .ipv4, packet => (some (packet.byte 9), Sniffer.ipv4Body packet)
  | .ipv6, packet =>
    ((Sniffer.unwrap_ipv6_transport packet).1, (Sniffer.unwrap_ipv6_transport packet).2.1)
  | .arp, _ => (none, [])

/-- Nothing in the body is taken for a header with ports: the protocol is neither TCP nor UDP,
nor SCTP with a short header or ports that are not zero, nor an authentication header in front of
TCP or UDP. -/
structure QuietBody (proto : Option Nat) (body : Bytes) : Prop where
  not_tcp : proto ≠ some IP_PROTO_TCP
  not_udp : proto ≠ some IP_PROTO_UDP
  sctp : proto = some IP_PROTO_SCTP → 12 ≤ body.length ∧ body.num 0 2 = 0 ∧ body.num 2 4 = 0
  ah : proto = some IP_PROTO_IPV6_AH → 12 ≤ body.length →
    body.byte 0 ≠ IP_PROTO_TCP ∧ body.byte 0 ≠ IP_PROTO_UDP

instance (proto : Option Nat) (body : Bytes) : Decidable (QuietBody proto body) :=
  decidable_of_iff (proto ≠ some IP_PROTO_TCP ∧ proto ≠ some IP_PROTO_UDP ∧
      (proto = some IP_PROTO_SCTP → 12 ≤ body.length ∧ body.num 0 2 = 0 ∧ body.num 2 4 = 0) ∧
      (proto = some IP_PROTO_IPV6_AH → 12 ≤ body.length →
        body.byte 0 ≠ IP_PROTO_TCP ∧ body.byte 0 ≠ IP_PROTO_UDP))
    ⟨fun ⟨hTcp, hUdp, hSctp, hAh⟩ => ⟨hTcp, hUdp, hSctp, hAh⟩,
      fun h => ⟨h.not_tcp, h.not_udp, h.sctp, h.ah⟩⟩

section Body

variable (sn : Sniffer) (body : Bytes) (ip_version : Nat)

theorem parse_tcp_transport (c : Capture) :
    (sn.parse_tcp c body ip_version).packet "transport" = .str "tcp" := by
  by_cases hShort : body.length < 20
  · exact parse_tcp_short_agree sn c body ip_version hShort "transport" (by decide)
  · exact parse_tcp_agree sn c body ip_version (by omega) "transport" (by decide)

theorem parse_udp_transport (c : Capture) :
    (sn.parse_udp c body ip_version).packet "transport" = .str "udp" := by
  by_cases hShort : body.length < 8
  · exact parse_udp_short_agree sn c body ip_version hShort "transport" (by decide)
  · exact parse_udp_agree sn c body ip_version (by omega) "transport" (by decide)

theorem not_unread_of_transport {name : String} (hName : name ≠ "")
    (h : c.packet "transport" = .str name) : ¬Unread c := by
  intro hUnread
  have hEmpty := hUnread.transport
  rw [h] at hEmpty
  exact hName (Value.str.inj hEmpty)

theorem not_unread_tcp (c : Capture) : ¬Unread (sn.parse_tcp c body ip_version) :=
  not_unread_of_transport (by decide) (parse_tcp_transport sn body ip_version c)

theorem not_unread_udp (c : Capture) : ¬Unread (sn.parse_udp c body ip_version) :=
  not_unread_of_transport (by decide) (parse_udp_transport sn body ip_version c)

variable (hBlank : Blank c)
include hBlank

theorem unread_sctp_iff : Unread (sn.parse_sctp c body ip_version) ↔
    12 ≤ body.length ∧ body.num 0 2 = 0 ∧ body.num 2 4 = 0 := by
  by_cases hShort : body.length < 12
  · have hTransport : (sn.parse_sctp c body ip_version).packet "transport" = .str "sctp" := by
      rw [Sniffer.parse_sctp]
      dsimp only
      rw [if_pos hShort]
      exact shortBody_agree sn _ _ body "transport" (by decide)
    exact iff_of_false (not_unread_of_transport (by decide) hTransport)
      fun h => absurd h.1 (by omega)
  · rw [unread_congr (Sniffer.parse_sctp_unread sn c body ip_version (by omega))]
    constructor
    · intro hUnread
      have hSrc := Value.int.inj hUnread.src_port
      have hDst := Value.int.inj hUnread.dst_port
      omega
    · rintro ⟨-, hSrc, hDst⟩
      rw [hSrc, hDst]
      exact ⟨hBlank.transport, rfl, rfl, hBlank.tcp_flags, hBlank.domain, "sctp", by decide, rfl⟩

theorem unread_icmp (ipv6 : Bool) : Unread (sn.parse_icmp c body ipv6) := by
  refine unread_named hBlank ?_ (Sniffer.parse_icmp_agree sn c body ipv6)
  cases ipv6 with
  | false => decide
  | true => decide

theorem unread_ahInner_iff : Unread (sn.parseAhInner c body ip_version) ↔
    body.byte 0 ≠ IP_PROTO_TCP ∧ body.byte 0 ≠ IP_PROTO_UDP := by
  have hAhName : "ah" ∈ NETWORK_NAMES := by decide
  rw [Sniffer.parseAhInner]
  split
  · rename_i hTcp
    exact iff_of_false (not_unread_tcp sn _ ip_version c) fun h => h.1 hTcp
  rename_i hTcp
  split
  · rename_i hUdp
    exact iff_of_false (not_unread_udp sn _ ip_version c) fun h => h.2 hUdp
  rename_i hUdp
  split
  · exact iff_of_true (unread_icmp sn _ hBlank _) ⟨hTcp, hUdp⟩
  · refine iff_of_true (unread_named hBlank hAhName ?_) ⟨hTcp, hUdp⟩
    simp (disch := decide) only [agree_summarize, Agree.refl]

theorem unread_ah_iff : Unread (sn.parse_ah c body ip_version) ↔
    (12 ≤ body.length → body.byte 0 ≠ IP_PROTO_TCP ∧ body.byte 0 ≠ IP_PROTO_UDP) := by
  have hAhName : "ah" ∈ NETWORK_NAMES := by decide
  rw [Sniffer.parse_ah]
  split
  · rename_i hShort
    refine iff_of_true (unread_named hBlank hAhName ?_) fun hLong => absurd hLong (by omega)
    simp (disch := decide) only [agree_summarize, Agree.refl]
  · rename_i hLong
    have hAgree : ∀ summary, Agree UNREAD_KEYS (sn.parseAhInner c body ip_version)
        ((sn.parseAhInner c body ip_version).summarize summary) :=
      fun summary => (agree_summarize summary (by decide) (by decide)).mpr (Agree.refl _ _)
    dsimp only
    rw [unread_congr (hAgree _), unread_ahInner_iff sn body ip_version hBlank]
    exact ⟨fun h _ => h, fun h => h (by omega)⟩

theorem unread_carried_iff {proto : Option Nat} (h : sn.Carried c body ip_version proto c') :
    Unread c' ↔ QuietBody proto body := by
  cases h with
  | tcp hTcp => exact iff_of_false (not_unread_tcp sn body ip_version c) fun h => h.not_tcp hTcp
  | udp hUdp => exact iff_of_false (not_unread_udp sn body ip_version c) fun h => h.not_udp hUdp
  | sctp hSctp =>
    rw [unread_sctp_iff sn body ip_version hBlank, hSctp]
    exact ⟨fun h => ⟨by decide, by decide, fun _ => h, fun hSome => absurd hSome (by decide)⟩,
      fun h => h.sctp rfl⟩
  | ah hAh =>
    rw [unread_ah_iff sn body ip_version hBlank, hAh]
    exact ⟨fun h => ⟨by decide, by decide, fun hSome => absurd hSome (by decide), fun _ => h⟩,
      fun h => h.ah rfl⟩
  | plain hTcp hUdp hSctp hAh hName hAgree =>
    exact iff_of_true (unread_named hBlank hName hAgree)
      ⟨hTcp, hUdp, fun hSome => absurd hSome hSctp, fun hSome => absurd hSome hAh⟩

end Body

/-! ## Packets -/

theorem unread_network_iff (sn : Sniffer) (hBlank : Blank c) {kind : EtherKind} {packet : Bytes}
    (hKind : kind ≠ .arp) (hLong : kind.headerLength ≤ packet.length) :
    Unread (sn.finalize_packet (sn.parseNetwork c kind packet)) ↔
      QuietBody (dispatched kind packet).1 (dispatched kind packet).2 := by
  rw [unread_congr (Sniffer.finalize_packet_unread sn _)]
  cases kind with
  | arp => exact absurd rfl hKind
  | ipv4 =>
    have hShort : ¬packet.length < 20 := not_lt.mpr hLong
    have hFields : Blank (Sniffer.ipv4Fields c packet) := ⟨hBlank.proto, hBlank.transport,
      hBlank.src_port, hBlank.dst_port, hBlank.tcp_flags, hBlank.domain⟩
    rw [Sniffer.parseNetwork, Sniffer.parse_ipv4, if_neg hShort,
      unread_congr (Sniffer.summaryOrFallback_unread sn _)]
    exact unread_carried_iff sn _ _ hFields (sn.carried_ipv4 _ _ _)
  | ipv6 =>
    have hShort : ¬packet.length < 40 := not_lt.mpr hLong
    have hFields : Blank (Sniffer.ipv6Fields c packet) := ⟨hBlank.proto, hBlank.transport,
      hBlank.src_port, hBlank.dst_port, hBlank.tcp_flags, hBlank.domain⟩
    rw [Sniffer.parseNetwork, Sniffer.parse_ipv6, if_neg hShort]
    dsimp only
    rw [unread_congr (Sniffer.summaryOrFallback_unread sn _)]
    exact unread_carried_iff sn _ _ hFields (sn.carried_ipv6 _ _ _ _)

/-! ## Later fragments -/

inductive Ipv6Fragment (packet : Bytes) : Nat → Nat → Prop
  | later {offset : Nat} (hLong : offset + 8 ≤ packet.length)
      (hOffset : packet.num (offset + 2) (offset + 4) / 8 ≠ 0) :
      Ipv6Fragment packet Sniffer.IP_PROTO_IPV6_FRAGMENT offset
  | initial {offset : Nat} (hLong : offset + 8 ≤ packet.length)
      (hOffset : packet.num (offset + 2) (offset + 4) / 8 = 0)
      (rest : Ipv6Fragment packet (packet.byte offset) (offset + 8)) :
      Ipv6Fragment packet Sniffer.IP_PROTO_IPV6_FRAGMENT offset
  | extension {next_header offset : Nat} (hNext : next_header ∈ Sniffer.IPV6_EXTENSIONS)
      (hLong : offset + (packet.byte (offset + 1) + 1) * 8 ≤ packet.length)
      (rest : Ipv6Fragment packet (packet.byte offset)
        (offset + (packet.byte (offset + 1) + 1) * 8)) :
      Ipv6Fragment packet next_header offset
  | authentication {offset : Nat}
      (hLong : offset + ah_header_length (packet.byte (offset + 1)) ≤ packet.length)
      (rest : Ipv6Fragment packet (packet.byte offset)
        (offset + ah_header_length (packet.byte (offset + 1)))) :
      Ipv6Fragment packet IP_PROTO_IPV6_AH offset

def LaterFragment : EtherKind → Bytes → Prop
  | .ipv4, packet => packet.num 6 8 % 0x2000 ≠ 0
  | .ipv6, packet => Ipv6Fragment packet (packet.byte 6) 40
  | .arp, _ => False

theorem quiet_none (body : Bytes) : QuietBody none body :=
  ⟨by decide, by decide, fun h => Option.noConfusion rfl (heq_of_eq h),
    fun h => Option.noConfusion rfl (heq_of_eq h)⟩

theorem byte_drop (data : Bytes) (offset : Nat) :
    Bytes.byte (data.drop offset) 0 = data.byte offset := by
  rw [Bytes.byte, Bytes.byte, List.getD_eq_getElem?_getD, List.getD_eq_getElem?_getD,
    List.getElem?_drop, Nat.add_zero]

theorem Ipv6Fragment.not_transport {packet : Bytes} {next_header offset : Nat}
    (h : Ipv6Fragment packet next_header offset) :
    next_header ≠ IP_PROTO_TCP ∧ next_header ≠ IP_PROTO_UDP := by
  cases h with
  | later => decide
  | initial => decide
  | authentication => decide
  | extension hNext =>
    constructor
    · rintro rfl
      exact absurd hNext (by decide)
    · rintro rfl
      exact absurd hNext (by decide)

theorem Ipv6Fragment.quiet {packet : Bytes} {next_header offset : Nat}
    (h : Ipv6Fragment packet next_header offset) :
    ∀ fuel, packet.length ≤ fuel + offset →
      QuietBody (Sniffer.unwrapIpv6 packet fuel next_header offset).1
        (Sniffer.unwrapIpv6 packet fuel next_header offset).2.1 := by
  induction h with
  | later hLong hOffset =>
    intro fuel hFuel
    obtain ⟨fuel, rfl⟩ : ∃ n, fuel = n + 1 := ⟨fuel - 1, by omega⟩
    rw [Sniffer.unwrapIpv6, if_neg (by decide), if_pos rfl, if_neg (by omega), if_pos hOffset]
    exact quiet_none _
  | initial hLong hOffset rest ih =>
    intro fuel hFuel
    obtain ⟨fuel, rfl⟩ : ∃ n, fuel = n + 1 := ⟨fuel - 1, by omega⟩
    rw [Sniffer.unwrapIpv6, if_neg (by decide), if_pos rfl, if_neg (by omega),
      if_neg (not_not.mpr hOffset)]
    exact ih fuel (by omega)
  | extension hNext hLong rest ih =>
    intro fuel hFuel
    obtain ⟨fuel, rfl⟩ : ∃ n, fuel = n + 1 := ⟨fuel - 1, by omega⟩
    rw [Sniffer.unwrapIpv6, if_pos hNext]
    dsimp only
    rw [if_neg (by omega)]
    exact ih fuel (by omega)
  | @authentication offset hLong rest ih =>
    intro fuel hFuel
    have hLength : 8 ≤ ah_header_length (packet.byte (offset + 1)) := by
      rw [ah_header_length]
      omega
    obtain ⟨fuel, rfl⟩ : ∃ n, fuel = n + 1 := ⟨fuel - 1, by omega⟩
    rw [Sniffer.unwrapIpv6, if_neg (by decide), if_neg (by decide), if_pos rfl]
    have hHead : QuietBody (some IP_PROTO_IPV6_AH) (packet.drop offset) := by
      refine ⟨by decide, by decide, fun hSome => absurd hSome (by decide), fun _ _ => ?_⟩
      rw [byte_drop]
      exact rest.not_transport
    exact hHead

theorem quiet_of_ipv6 {packet : Bytes} (h : LaterFragment .ipv6 packet) :
    QuietBody (dispatched .ipv6 packet).1 (dispatched .ipv6 packet).2 :=
  Ipv6Fragment.quiet h _ (Nat.le_add_right _ _)

/-- No transport is reported of a later fragment just when nothing in the packet that is read
passes for one; this holds of every IPv6 fragment that is read as what it is. -/
theorem fragment_unread_iff (sn : Sniffer) (flows : List String) (now interface : String)
    (carrier : Carrier) (hFragment : LaterFragment carrier.kind carrier.packet) :
    ((∃ c, sn.parse_packet flows ⟨now, interface, carrier.bytes⟩ = some c ∧ Unread c) ↔
      QuietBody (dispatched carrier.reading.1 carrier.reading.2).1
        (dispatched carrier.reading.1 carrier.reading.2).2) ∧
    (carrier.kind = .ipv6 → carrier.reading = (carrier.kind, carrier.packet) →
      QuietBody (dispatched carrier.reading.1 carrier.reading.2).1
        (dispatched carrier.reading.1 carrier.reading.2).2) := by
  have hKind : carrier.kind ≠ .arp := by
    intro hArp
    rw [hArp] at hFragment
    exact hFragment
  have hReading : carrier.reading.1 ≠ .arp := by
    rw [Carrier.reading]
    split
    · exact fun h => (by cases h)
    split
    · exact fun h => (by cases h)
    · exact hKind
  obtain ⟨base, hBlank, hParsed⟩ := parse_packet_reading sn flows now interface carrier
  have hIff := unread_network_iff sn hBlank hReading (length_reading carrier)
  refine ⟨?_, ?_⟩
  · rw [← hIff, hParsed]
    constructor
    · rintro ⟨c, hSome, hUnread⟩
      cases hSome
      exact hUnread
    · intro hUnread
      exact ⟨_, rfl, hUnread⟩
  · intro hIpv6 hOwn
    rw [hOwn]
    rw [hIpv6] at hFragment ⊢
    exact quiet_of_ipv6 hFragment

/-- The second fragment of a packet of protocol `proto`, from a host at 10.0.0.1. -/
def secondFragment (proto : UInt8) : EthernetFrame where
  dst := [2, 0, 0, 0, 0, 2]
  src := [2, 0, 0, 0, 0, 1]
  tags := []
  kind := .ipv4
  body := [0x45, 0, 0, 40, 0, 7, 0x00, 0xB9, 64, proto, 0, 0, 10, 0, 0, 1, 10, 0, 0, 2, 0x1A, 0x0A,
    0, 80, 0, 0, 0, 0, 0, 0, 0, 0, 0x50, 0x02, 0, 0, 0, 0, 0, 0]
  length_dst := EthernetFrame.length_receiver
  length_src := EthernetFrame.length_sender
  tags_valid := EthernetFrame.untagged
  length_body := EthernetFrame.header_within

theorem secondFragment_later (proto : UInt8) :
    LaterFragment (secondFragment proto).kind (secondFragment proto).body := by
  rw [secondFragment, LaterFragment]
  exact show (185 : Nat) ≠ 0 by decide

theorem fragment_unread_icmp : ∃ c, Sniffer.ascii.parse_packet []
    ⟨"", "", (Carrier.plain (.ethernet (secondFragment 1))).bytes⟩ = some c ∧ Unread c :=
  (fragment_unread_iff Sniffer.ascii [] "" "" (.plain (.ethernet (secondFragment 1)))
    (secondFragment_later 1)).1.mpr (by decide)

/-- The bytes of a later fragment are reported as a segment from port 6666 to port 80. -/
theorem fragment_forged : ¬∀ (sn : Sniffer) (flows : List String) (now interface : String)
    (carrier : Carrier), LaterFragment carrier.kind carrier.packet →
      ∃ c, sn.parse_packet flows ⟨now, interface, carrier.bytes⟩ = some c ∧ Unread c := by
  intro hAll
  obtain ⟨c, hSome, hUnread⟩ := hAll Sniffer.ascii [] "" "" (.plain (.ethernet (secondFragment 6)))
    (secondFragment_later 6)
  obtain ⟨base, hBlank, hParsed⟩ := parse_packet_reading Sniffer.ascii [] "" ""
    (.plain (.ethernet (secondFragment 6)))
  rw [hParsed] at hSome
  cases hSome
  exact absurd ((unread_network_iff Sniffer.ascii hBlank (by decide)
    (length_reading (.plain (.ethernet (secondFragment 6))))).mp hUnread) (by decide)

end Sniff4Hound
