import Sniff4Hound.Capture.Fragments
import Sniff4Hound.Capture.Locality
import Sniff4Hound.Capture.Previews

/-!
# Padding behind a packet

Frames that are shorter than the link allows are filled up, and what the filling holds is not the
sender's. A packet declares where it ends; `padding_free_iff` says for which packets the parser
keeps to that end. It does for IPv4, unless the packet is nothing but a header. The ARP parser
reads on, and the IPv6 parser does not look at the length of the payload, so that only those
bodies are safe of which it reads a part that they themselves delimit.
-/

namespace Sniff4Hound

/-! ## Frames with padding -/

/-- A frame with a link header. -/
inductive LinkFrame where
  | ethernet (frame : EthernetFrame)
  | snap (frame : SnapFrame)

def EthernetFrame.padded (frame : EthernetFrame) (padding : Bytes) : EthernetFrame where
  dst := frame.dst
  src := frame.src
  tags := frame.tags
  kind := frame.kind
  body := frame.body ++ padding
  length_dst := frame.length_dst
  length_src := frame.length_src
  tags_valid := frame.tags_valid
  length_body := by
    rw [List.length_append]
    exact Nat.le_add_right_of_le frame.length_body

def SnapFrame.padded (frame : SnapFrame) (padding : Bytes) : SnapFrame where
  dst := frame.dst
  src := frame.src
  tags := frame.tags
  declared := frame.declared
  oui := frame.oui
  kind := frame.kind
  body := frame.body ++ padding
  length_dst := frame.length_dst
  length_src := frame.length_src
  tags_valid := frame.tags_valid
  length_declared := frame.length_declared
  declared_valid := frame.declared_valid
  length_oui := frame.length_oui
  length_body := by
    rw [List.length_append]
    exact Nat.le_add_right_of_le frame.length_body

namespace LinkFrame

def bytes : LinkFrame → Bytes
  | ethernet frame => frame.bytes
  | snap frame => frame.bytes

def kind : LinkFrame → EtherKind
  | ethernet frame => frame.kind
  | snap frame => frame.kind

def packet : LinkFrame → Bytes
  | ethernet frame => frame.body
  | snap frame => frame.body

def padded : LinkFrame → Bytes → LinkFrame
  | ethernet frame, padding => ethernet (frame.padded padding)
  | snap frame, padding => snap (frame.padded padding)

theorem bytes_padded (frame : LinkFrame) (padding : Bytes) :
    (frame.padded padding).bytes = frame.bytes ++ padding := by
  cases frame with
  | ethernet frame =>
    rw [padded, bytes, bytes, EthernetFrame.bytes, EthernetFrame.bytes, EthernetFrame.typed,
      EthernetFrame.typed, EthernetFrame.padded]
    simp only [List.append_assoc]
  | snap frame =>
    rw [padded, bytes, bytes, SnapFrame.bytes, SnapFrame.bytes, SnapFrame.llc, SnapFrame.llc,
      SnapFrame.padded]
    simp only [List.append_assoc]

theorem kind_padded (frame : LinkFrame) (padding : Bytes) :
    (frame.padded padding).kind = frame.kind := by
  cases frame <;> rfl

theorem packet_padded (frame : LinkFrame) (padding : Bytes) :
    (frame.padded padding).packet = frame.packet ++ padding := by
  cases frame <;> rfl

def base (flows : List String) (now interface : String) : LinkFrame → Capture
  | ethernet frame => Sniffer.newPacket flows ⟨now, interface, frame.bytes⟩ frame.body
      (format_mac frame.src) (format_mac frame.dst) frame.kind.code
  | snap frame => frame.base flows now interface

end LinkFrame

theorem alike_newPacket (flows : List String) (now now' interface : String)
    (data data' payload payload' : Bytes) (eth_src eth_dst : String) (eth_type : Nat) :
    Alike (Sniffer.newPacket flows ⟨now, interface, data⟩ payload eth_src eth_dst eth_type)
      (Sniffer.newPacket flows ⟨now', interface, data'⟩ payload' eth_src eth_dst eth_type) := by
  refine ⟨rfl, fun k hk => ?_⟩
  simp only [CAPTURE_KEYS, List.mem_cons, List.not_mem_nil, or_false, not_or] at hk
  obtain ⟨hLength, hHex, hCreated, hUpdated⟩ := hk
  simp only [Sniffer.newPacket, build_base_packet, Value.get, List.lookup_cons,
    beq_false_of_ne hLength, beq_false_of_ne hHex, beq_false_of_ne hCreated,
    beq_false_of_ne hUpdated]

section Base

variable (frame : LinkFrame) (flows : List String) (now now' interface : String)
  (padding padding' : Bytes)

theorem alike_base : Alike ((frame.padded padding).base flows now interface)
    ((frame.padded padding').base flows now' interface) := by
  cases frame with
  | ethernet frame => exact alike_newPacket flows now now' interface _ _ _ _ _ _ _
  | snap frame =>
    exact (((((((alike_newPacket flows now now' interface _ _ _ _ _ _ _).set _ _).set _ _).set
      _ _).set _ _).set _ _).set _ _).set _ _

theorem parse_packet_link (sn : Sniffer) (hRead : ¬GuessedRaw frame.bytes) :
    sn.parse_packet flows ⟨now, interface, frame.bytes⟩ = some (sn.finalize_packet
      (sn.parseNetwork (frame.base flows now interface) frame.kind frame.packet)) := by
  obtain ⟨h4, h6⟩ := not_or.mp hRead
  cases frame with
  | ethernet frame =>
    refine (parse_packet_ethernet sn flows now interface frame h4 h6).trans ?_
    rw [parseEthernet_bytes, Sniffer.parseEtherType_code]
    rfl
  | snap frame =>
    exact parse_packet_snap sn flows now interface frame h4 h6

end Base

/-! ## Packets that end where they say -/

/-- A packet that ends at its declared end: the total length of IPv4, 40 bytes and the payload of
IPv6, 28 bytes of ARP for Ethernet and IPv4. -/
def CompletePacket : EtherKind → Bytes → Prop
  | .ipv4, packet => packet.byte 0 / 0x10 = 4 ∧ 20 ≤ packet.byte 0 % 0x10 * 4 ∧
      packet.byte 0 % 0x10 * 4 ≤ packet.num 2 4 ∧ packet.length = packet.num 2 4
  | .ipv6, packet => packet.byte 0 / 0x10 = 6 ∧ 1 ≤ packet.num 4 6 ∧
      packet.length = 40 + packet.num 4 6
  | .arp, packet => packet.length = 28 ∧ packet.take 6 = [0, 1, 8, 0, 6, 4]

instance (kind : EtherKind) (packet : Bytes) : Decidable (CompletePacket kind packet) :=
  match kind with
  | .ipv4 => inferInstanceAs (Decidable (_ ∧ _ ∧ _ ∧ _))
  | .ipv6 => inferInstanceAs (Decidable (_ ∧ _ ∧ _))
  | .arp => inferInstanceAs (Decidable (_ ∧ _))

def BoundedDatagram (body : Bytes) : Prop := 8 ≤ body.num 4 6 ∧ body.num 4 6 ≤ body.length

/-- Bodies of which a part is read that they delimit themselves: datagrams, the heads of encrypted
bodies, and authentication headers in front of a datagram or of nothing that is parsed. -/
inductive BoundedBody : Nat → Bytes → Prop
  | datagram {body : Bytes} (h : BoundedDatagram body) : BoundedBody IP_PROTO_UDP body
  | encrypted {body : Bytes} (h : 8 ≤ body.length) : BoundedBody IP_PROTO_IPV6_ESP body
  | authenticated {body : Bytes} (h : 12 ≤ body.length)
      (hOther : body.byte 0 ∉ [IP_PROTO_TCP, IP_PROTO_UDP, IP_PROTO_ICMPV6]) :
      BoundedBody IP_PROTO_IPV6_AH body
  | authenticatedDatagram {body : Bytes} (h : 12 ≤ body.length)
      (hUdp : body.byte 0 = IP_PROTO_UDP) (hHeader : ah_header_length (body.byte 1) ≤ body.length)
      (hInner : BoundedDatagram (ahInner body)) : BoundedBody IP_PROTO_IPV6_AH body

/-- The packet says itself where its body ends. -/
def BoundedPacket : EtherKind → Bytes → Prop
  | .ipv4, packet => packet.byte 0 % 0x10 * 4 < packet.num 2 4
  | .ipv6, packet => ∃ next_header,
      (Sniffer.unwrap_ipv6_transport packet).1 = some next_header ∧
        BoundedBody next_header (Sniffer.unwrap_ipv6_transport packet).2.1
  | .arp, _ => False

section Bounded

variable (sn : Sniffer) (c : Capture) {body : Bytes} (padding : Bytes)

theorem parse_udp_append (ip_version : Nat) (h : BoundedDatagram body) :
    sn.parse_udp c (body ++ padding) ip_version = sn.parse_udp c body ip_version := by
  obtain ⟨hLow, hHigh⟩ := h
  have hLonger : body.length ≤ (body ++ padding).length := by
    rw [List.length_append]
    exact Nat.le_add_right _ _
  have hPayload : udpPayload (body ++ padding) = udpPayload body := by
    rw [udpPayload, udpPayload, num_append_left body padding (by omega)]
    rw [if_pos ⟨hLow, hHigh.trans hLonger⟩, if_pos ⟨hLow, hHigh⟩,
      slice_append_left body padding hHigh]
  have hHeader : ∀ c, udpHeader sn.toRuntime c (body ++ padding) =
      udpHeader sn.toRuntime c body := by
    intro c
    rw [udpHeader, udpHeader, hPayload, udpFields, udpFields,
      num_append_left body padding (by omega), num_append_left body padding (by omega)]
  rw [Sniffer.parse_udp, Sniffer.parse_udp, if_neg (by omega), if_neg (by omega)]
  dsimp only
  rw [hPayload, hHeader, num_append_left body padding (by omega),
    num_append_left body padding (by omega)]

theorem parse_esp_append (h : 8 ≤ body.length) :
    parse_esp c (body ++ padding) = parse_esp c body := by
  have hLonger : body.length ≤ (body ++ padding).length := by
    rw [List.length_append]
    exact Nat.le_add_right _ _
  rw [parse_esp, parse_esp, if_neg (by omega), if_neg (by omega),
    num_append_left body padding (by omega), num_append_left body padding h]

theorem parse_ah_append (ip_version : Nat) (h : 12 ≤ body.length)
    (hInner : sn.parseAhInner c (body ++ padding) ip_version =
      sn.parseAhInner c body ip_version) :
    sn.parse_ah c (body ++ padding) ip_version = sn.parse_ah c body ip_version := by
  have hLonger : body.length ≤ (body ++ padding).length := by
    rw [List.length_append]
    exact Nat.le_add_right _ _
  rw [Sniffer.parse_ah, Sniffer.parse_ah, if_neg (by omega), if_neg (by omega), hInner,
    num_append_left body padding (by omega), num_append_left body padding h]

theorem ahInner_append (hHeader : ah_header_length (body.byte 1) ≤ body.length) :
    ahInner (body ++ padding) = ahInner body ++ padding := by
  have hTwo : 1 < body.length := by
    rw [ah_header_length] at hHeader
    omega
  rw [ahInner, ahInner, byte_append_left body padding hTwo]
  rw [if_pos hHeader, if_pos (hHeader.trans (by rw [List.length_append]; omega)),
    List.drop_append_of_le_length hHeader]

theorem parseIpv6Body_append {next_header : Nat} (h : BoundedBody next_header body)
    (detail detail' : String) :
    sn.parseIpv6Body c (some next_header) (body ++ padding) detail' =
      sn.parseIpv6Body c (some next_header) body detail := by
  cases h with
  | datagram h => exact parse_udp_append sn c padding 6 h
  | encrypted h => exact parse_esp_append c padding h
  | authenticated h hOther =>
    refine parse_ah_append sn c padding 6 h ?_
    simp only [List.mem_cons, List.not_mem_nil, or_false, not_or] at hOther
    have hIcmp : body.byte 0 ≠ icmpProto 6 := hOther.2.2
    rw [Sniffer.parseAhInner, Sniffer.parseAhInner, byte_append_left body padding (by omega),
      if_neg hOther.1, if_neg hOther.2.1, if_neg hIcmp, if_neg hOther.1, if_neg hOther.2.1,
      if_neg hIcmp]
  | authenticatedDatagram h hUdp hHeader hInner =>
    refine parse_ah_append sn c padding 6 h ?_
    have hTcp : body.byte 0 ≠ IP_PROTO_TCP := by
      rw [hUdp]
      decide
    rw [Sniffer.parseAhInner, Sniffer.parseAhInner, byte_append_left body padding (by omega)]
    rw [if_neg hTcp, if_pos hUdp, if_neg hTcp, if_pos hUdp, ahInner_append padding hHeader]
    exact parse_udp_append sn c padding 6 hInner

theorem unwrapIpv6_append (packet : Bytes) {found : Nat} :
    ∀ (fuel fuel' next_header offset : Nat), offset ≤ packet.length →
      packet.length < fuel + offset → fuel ≤ fuel' →
      (Sniffer.unwrapIpv6 packet fuel next_header offset).1 = some found →
      (Sniffer.unwrapIpv6 (packet ++ padding) fuel' next_header offset).1 = some found ∧
        (Sniffer.unwrapIpv6 (packet ++ padding) fuel' next_header offset).2.1 =
          (Sniffer.unwrapIpv6 packet fuel next_header offset).2.1 ++ padding := by
  have hLonger : (packet ++ padding).length = packet.length + padding.length :=
    List.length_append
  intro fuel
  induction fuel with
  | zero =>
    intro fuel' next_header offset hOffset hFuel
    omega
  | succ fuel ih =>
    intro fuel' next_header offset hOffset hFuel hMore hFound
    obtain ⟨fuel', rfl⟩ : ∃ n, fuel' = n + 1 := ⟨fuel' - 1, by omega⟩
    have hDrop : (packet ++ padding).drop offset = packet.drop offset ++ padding :=
      List.drop_append_of_le_length hOffset
    rw [Sniffer.unwrapIpv6] at hFound ⊢
    rw [Sniffer.unwrapIpv6]
    dsimp only at hFound ⊢
    by_cases hExtension : next_header ∈ Sniffer.IPV6_EXTENSIONS
    · rw [if_pos hExtension] at hFound ⊢
      rw [if_pos hExtension]
      by_cases hShort : packet.length < offset + 2 ∨
          packet.length < offset + (packet.byte (offset + 1) + 1) * 8
      · rw [if_pos hShort] at hFound
        cases hFound
      rw [if_neg hShort] at hFound ⊢
      obtain ⟨hTwo, hHeader⟩ := not_or.mp hShort
      rw [byte_append_left packet padding (by omega), byte_append_left packet padding (by omega),
        if_neg (by omega)]
      exact ih fuel' _ _ (by omega) (by omega) (by omega) hFound
    rw [if_neg hExtension] at hFound ⊢
    rw [if_neg hExtension]
    by_cases hFragment : next_header = Sniffer.IP_PROTO_IPV6_FRAGMENT
    · rw [if_pos hFragment] at hFound ⊢
      rw [if_pos hFragment]
      by_cases hShort : packet.length < offset + 8
      · rw [if_pos hShort] at hFound
        cases hFound
      rw [if_neg hShort] at hFound ⊢
      by_cases hLater : packet.num (offset + 2) (offset + 4) / 8 ≠ 0
      · rw [if_pos hLater] at hFound
        cases hFound
      rw [if_neg hLater] at hFound ⊢
      rw [num_append_left packet padding (by omega), if_neg hLater,
        byte_append_left packet padding (by omega), if_neg (by omega)]
      exact ih fuel' _ _ (by omega) (by omega) (by omega) hFound
    rw [if_neg hFragment] at hFound ⊢
    rw [if_neg hFragment]
    by_cases hAh : next_header = IP_PROTO_IPV6_AH
    · rw [if_pos hAh] at hFound ⊢
      rw [if_pos hAh]
      exact ⟨hFound, hDrop⟩
    rw [if_neg hAh] at hFound ⊢
    rw [if_neg hAh]
    by_cases hEsp : next_header = IP_PROTO_IPV6_ESP
    · rw [if_pos hEsp] at hFound ⊢
      rw [if_pos hEsp]
      exact ⟨hFound, hDrop⟩
    rw [if_neg hEsp] at hFound ⊢
    rw [if_neg hEsp]
    exact ⟨hFound, hDrop⟩

theorem parse_ipv4_append {packet : Bytes} (hComplete : CompletePacket .ipv4 packet)
    (hBounded : BoundedPacket .ipv4 packet) :
    sn.parse_ipv4 c (packet ++ padding) = sn.parse_ipv4 c packet := by
  obtain ⟨-, hHeader, -, hLength⟩ := hComplete
  have hBounded : packet.byte 0 % 0x10 * 4 < packet.num 2 4 := hBounded
  have hLonger : (packet ++ padding).length = packet.length + padding.length :=
    List.length_append
  have hTotal := num_append_left packet padding (i := 2) (j := 4) (by omega)
  have hBody : Sniffer.ipv4Body (packet ++ padding) = Sniffer.ipv4Body packet := by
    rw [Sniffer.ipv4Body, Sniffer.ipv4Body, hTotal, byte_append_left packet padding (by omega),
      if_pos hBounded, if_pos hBounded, slice_append_left packet padding hLength.ge]
  have hFields : Sniffer.ipv4Fields c (packet ++ padding) = Sniffer.ipv4Fields c packet := by
    rw [Sniffer.ipv4Fields, Sniffer.ipv4Fields, byte_append_left packet padding (by omega),
      slice_append_left packet padding (by omega), slice_append_left packet padding (by omega)]
  rw [Sniffer.parse_ipv4, Sniffer.parse_ipv4, if_neg (by omega), if_neg (by omega), hBody,
    hFields, byte_append_left packet padding (by omega)]

theorem parse_ipv6_append {packet : Bytes} (hComplete : CompletePacket .ipv6 packet)
    (hBounded : BoundedPacket .ipv6 packet) :
    sn.parse_ipv6 c (packet ++ padding) = sn.parse_ipv6 c packet := by
  obtain ⟨-, -, hLength⟩ := hComplete
  obtain ⟨next_header, hNext, hBody⟩ := hBounded
  have hLonger : (packet ++ padding).length = packet.length + padding.length :=
    List.length_append
  have hFields : Sniffer.ipv6Fields c (packet ++ padding) = Sniffer.ipv6Fields c packet := by
    rw [Sniffer.ipv6Fields, Sniffer.ipv6Fields, byte_append_left packet padding (by omega),
      slice_append_left packet padding (by omega), slice_append_left packet padding (by omega)]
  have hWalk := unwrapIpv6_append padding packet packet.length (packet ++ padding).length
    (packet.byte 6) 40 (by omega) (by omega) (by omega) hNext
  obtain ⟨hNext', hBody'⟩ := hWalk
  have hSix : (packet ++ padding).byte 6 = packet.byte 6 :=
    byte_append_left packet padding (by omega)
  rw [Sniffer.parse_ipv6, Sniffer.parse_ipv6, if_neg (by omega), if_neg (by omega)]
  dsimp only
  rw [hFields, hNext, Sniffer.unwrap_ipv6_transport, hSix, hNext', hBody']
  exact congrArg sn.summaryOrFallback (parseIpv6Body_append sn _ padding hBody _ _)

theorem parseNetwork_append {kind : EtherKind} {packet : Bytes}
    (hComplete : CompletePacket kind packet) (hBounded : BoundedPacket kind packet) :
    sn.parseNetwork c kind (packet ++ padding) = sn.parseNetwork c kind packet := by
  cases kind with
  | ipv4 => exact parse_ipv4_append sn c padding hComplete hBounded
  | ipv6 => exact parse_ipv6_append sn c padding hComplete hBounded
  | arp => exact False.elim hBounded

end Bounded

/-! ## Padding that is not read -/

/-- Whatever is appended to the frame, the packet that is made of it is the same, but for its
capture. -/
def PaddingFree (sn : Sniffer) (frame : LinkFrame) : Prop :=
  ∀ (flows : List String) (now now' interface : String) (padding padding' : Bytes),
    ∃ c c', sn.parse_packet flows ⟨now, interface, frame.bytes ++ padding⟩ = some c ∧
      sn.parse_packet flows ⟨now', interface, frame.bytes ++ padding'⟩ = some c' ∧
        ∀ k, k ∉ CAPTURE_KEYS → c'.packet k = c.packet k

theorem parse_packet_padded (sn : Sniffer) (frame : LinkFrame)
    (hRead : ∀ padding, ¬GuessedRaw (frame.bytes ++ padding)) (flows : List String)
    (now interface : String) (padding : Bytes) :
    sn.parse_packet flows ⟨now, interface, frame.bytes ++ padding⟩ = some (sn.finalize_packet
      (sn.parseNetwork ((frame.padded padding).base flows now interface) frame.kind
        (frame.packet ++ padding))) := by
  have hPadded := hRead padding
  rw [← frame.bytes_padded padding] at hPadded ⊢
  rw [parse_packet_link (frame.padded padding) flows now interface sn hPadded,
    frame.kind_padded, frame.packet_padded]

theorem padding_free_of_bounded (sn : Sniffer) (frame : LinkFrame)
    (hComplete : CompletePacket frame.kind frame.packet)
    (hRead : ∀ padding, ¬GuessedRaw (frame.bytes ++ padding))
    (hBounded : BoundedPacket frame.kind frame.packet) : PaddingFree sn frame := by
  intro flows now now' interface padding padding'
  have hBase := alike_base frame flows now now' interface padding padding'
  refine ⟨_, _, parse_packet_padded sn frame hRead flows now interface padding,
    parse_packet_padded sn frame hRead flows now' interface padding', ?_⟩
  rw [parseNetwork_append sn _ padding hComplete hBounded,
    parseNetwork_append sn _ padding' hComplete hBounded]
  exact ((hBase.parseNetwork sn frame.kind frame.packet).finalize_packet sn (by decide)
    (List.Subset.refl _)).packet

/-! ## Padding that is read -/

section Read

variable (sn : Sniffer) {c : Capture}

theorem isTcp_eq {name : String} (h : c.packet "proto" = .str name) :
    c.isTcp = decide (name = "tcp") := by
  rw [Capture.isTcp, h]

theorem interpret_text {payload : Bytes} (hTcp : c.isTcp = false)
    (hTls : looks_like_tls payload = false) (hPrintable : is_printable_payload payload = true) :
    (sn.interpret_payload c payload).1 =
      bytes_to_text_preview payload sn.PAYLOAD_TEXT_MAX_CHARS := by
  have hSome : payload ≠ [] := by
    rintro rfl
    exact absurd hPrintable (by decide)
  rw [Sniffer.interpret_payload, if_neg hSome, Sniffer.is_tls_payload, hTls,
    if_neg Bool.false_ne_true, hTcp, hPrintable]
  rfl

theorem interpret_unprintable {payload : Bytes} (h : is_printable_payload payload = false) :
    (sn.interpret_payload c payload).1 = "" := by
  rw [Sniffer.interpret_payload]
  split
  · rfl
  · dsimp only
    rw [h, Bool.not_false, Bool.or_true, if_pos rfl]

theorem orElse_str (text : String) : (Value.str text).orElse (.str "") = .str text := by
  rw [Value.orElse]
  split
  · rfl
  · rename_i hEmpty
    rw [Value.truthy, bne_iff_ne, not_not] at hEmpty
    rw [hEmpty]

theorem orElse_some {text : String} (hSome : text ≠ "") (other : Value) :
    (Value.str text).orElse other = .str text := if_pos (bne_iff_ne.mpr hSome)

def letters : Bytes := List.replicate 19 0x41 ++ [0x41]

theorem letters_printable : is_printable_payload letters = true := by decide

theorem text_letters_ne_empty (hTcp : c.isTcp = false) :
    (sn.interpret_payload c letters).1 ≠ "" := by
  rw [interpret_text sn hTcp (by decide) letters_printable]
  exact preview_ne_empty _ _

inductive Differ (c c' : Capture) : Prop
  | port (h : c.packet "src_port" ≠ c'.packet "src_port")
  | text {text text' : String} (h : c.packet "payload_text" = .str text)
      (h' : c'.packet "payload_text" = .str text') (hOther : text ≠ text')
  | summary {summary summary' : String} (h : c.packet "summary" = .str summary)
      (h' : c'.packet "summary" = .str summary') (hSome : summary ≠ "") (hSome' : summary' ≠ "")
      (hOther : summary ≠ summary')

theorem Differ.finalize {c c' : Capture} (h : Differ c c') :
    ∃ k, k ∉ CAPTURE_KEYS ∧
      (sn.finalize_packet c).packet k ≠ (sn.finalize_packet c').packet k := by
  cases h with
  | port h =>
    refine ⟨"src_port", by decide, ?_⟩
    rw [Sniffer.finalize_packet_unread sn c "src_port" (by decide),
      Sniffer.finalize_packet_unread sn c' "src_port" (by decide)]
    exact h
  | text h h' hOther =>
    have hLast : ∀ c, (sn.finalize_packet c).packet "payload_text" =
        (c.packet "payload_text").orElse (.str "") := fun c => rfl
    refine ⟨"payload_text", by decide, ?_⟩
    rw [hLast, hLast, h, h', orElse_str, orElse_str]
    exact fun hSame => hOther (Value.str.inj hSame)
  | summary h h' hSome hSome' hOther =>
    have hLast : ∀ c, ∃ fallback, (sn.finalize_packet c).packet "summary" =
        (c.packet "summary").orElse fallback := fun c => ⟨_, rfl⟩
    obtain ⟨fallback, hSummary⟩ := hLast c
    obtain ⟨fallback', hSummary'⟩ := hLast c'
    refine ⟨"summary", by decide, ?_⟩
    rw [hSummary, hSummary', h, h', orElse_some hSome, orElse_some hSome']
    exact fun hSame => hOther (Value.str.inj hSame)

theorem Differ.summaryOrFallback {c c' : Capture} (h : Differ c c') :
    Differ (sn.summaryOrFallback c) (sn.summaryOrFallback c') := by
  cases h with
  | port h => exact .port h
  | text h h' hOther => exact .text h h' hOther
  | summary h h' hSome hSome' hOther =>
    refine .summary ?_ ?_ hSome hSome' hOther
    · rw [Sniffer.summaryOrFallback, Capture.orSet, set_packet_same, h, orElse_some hSome]
    · rw [Sniffer.summaryOrFallback, Capture.orSet, set_packet_same, h', orElse_some hSome']

theorem Differ.alike {c c' d d' : Capture} (h : Differ c c') (hc : Alike c d)
    (hc' : Alike c' d') : Differ d d' := by
  cases h with
  | port h =>
    refine .port ?_
    rw [hc.packet "src_port" (by decide), hc'.packet "src_port" (by decide)]
    exact h
  | text h h' hOther =>
    exact .text ((hc.packet "payload_text" (by decide)).trans h)
      ((hc'.packet "payload_text" (by decide)).trans h') hOther
  | summary h h' hSome hSome' hOther =>
    exact .summary ((hc.packet "summary" (by decide)).trans h)
      ((hc'.packet "summary" (by decide)).trans h') hSome hSome' hOther

theorem nameIpProtocol_differ {proto : String} (hProto : proto ≠ "tcp") (label : String) :
    Differ (sn.nameIpProtocol c proto label letters) (sn.nameIpProtocol c proto label []) := by
  have hRead : ∀ body, ∃ c', c'.packet "proto" = .str (if proto = "" then "unknown" else proto) ∧
      (sn.nameIpProtocol c proto label body).packet "payload_text" =
        .str (sn.interpret_payload c' body).1 := fun body => ⟨_, rfl, rfl⟩
  obtain ⟨c', hNamed, hText⟩ := hRead letters
  obtain ⟨_, -, hNone⟩ := hRead []
  refine .text hText hNone (text_letters_ne_empty sn ?_)
  rw [isTcp_eq hNamed, decide_eq_false_iff_not]
  split
  · decide
  · exact hProto

variable (hBlank : Blank c)
include hBlank

theorem parse_tcp_differ : Differ (sn.parse_tcp c letters 4) (sn.parse_tcp c [] 4) := by
  refine .port ?_
  rw [parse_tcp_agree sn c letters 4 (by decide) "src_port" (by decide),
    parse_tcp_short_agree sn c [] 4 (by decide) "src_port" (by decide)]
  intro hSame
  exact absurd (Value.int.inj (hSame.trans hBlank.src_port)) (by decide)

theorem parse_udp_differ : Differ (sn.parse_udp c letters 4) (sn.parse_udp c [] 4) := by
  refine .port ?_
  rw [parse_udp_agree sn c letters 4 (by decide) "src_port" (by decide),
    parse_udp_short_agree sn c [] 4 (by decide) "src_port" (by decide)]
  intro hSame
  exact absurd (Value.int.inj (hSame.trans hBlank.src_port)) (by decide)

theorem parse_sctp_differ : Differ (sn.parse_sctp c letters 4) (sn.parse_sctp c [] 4) := by
  refine .port ?_
  rw [Sniffer.parse_sctp_unread sn c letters 4 (by decide) "src_port" (by decide),
    Sniffer.parse_sctp, if_pos (by decide),
    shortBody_agree sn _ "SCTP packet" [] "src_port" (by decide)]
  intro hSame
  exact absurd (Value.int.inj (hSame.trans hBlank.src_port)) (by decide)

def authenticatedTcp : Bytes := [6, 1, 0, 0, 0, 0, 0, 0, 0, 0, 0, 0] ++ letters

theorem parse_ah_differ : Differ (sn.parse_ah c authenticatedTcp 4) (sn.parse_ah c [] 4) := by
  have hUnread := (unread_ah_iff sn [] 4 hBlank).mpr fun hLong => absurd hLong (by decide)
  have hInner : Agree ["src_port"] (sn.parse_tcp c letters 4)
      (sn.parse_ah c authenticatedTcp 4) := by
    have hBody : ahInner authenticatedTcp = letters := by decide
    rw [Sniffer.parse_ah, if_neg (by decide)]
    dsimp only
    rw [agree_summarize _ (by decide) (by decide), Sniffer.parseAhInner, if_pos (by decide), hBody]
    exact Agree.refl _ _
  refine .port ?_
  rw [hUnread.src_port, hInner "src_port" List.mem_cons_self,
    parse_tcp_agree sn c letters 4 (by decide) "src_port" (by decide)]
  intro hSame
  exact absurd (Value.int.inj hSame) (by decide)

omit hBlank in
theorem parse_icmp_differ :
    Differ (sn.parse_icmp c ([0, 0, 0, 0] ++ letters) false) (sn.parse_icmp c [] false) := by
  have hText : (sn.parse_icmp c ([0, 0, 0, 0] ++ letters) false).packet "payload_text" =
      .str (sn.interpret_payload (((c.set "proto" (.str "icmp")).set "icmp_type" (.int 0)).set
        "icmp_code" (.int 0)) letters).1 := by
    rw [Sniffer.parse_icmp, if_neg (by decide)]
    rfl
  have hShort : (sn.parse_icmp c [] false).packet "payload_text" = .str "" := by
    rw [Sniffer.parse_icmp, if_pos (by decide)]
    rfl
  exact .text hText hShort (text_letters_ne_empty sn rfl)

omit hBlank in
theorem parse_igmp_differ : Differ (sn.parse_igmp c [0x11, 0, 0, 0, 0, 0, 0, 0])
    (sn.parse_igmp c []) :=
  have hQuery : (sn.parse_igmp c [0x11, 0, 0, 0, 0, 0, 0, 0]).packet "payload_text" =
      .str "IGMP membership query" := rfl
  have hShort : (sn.parse_igmp c []).packet "payload_text" = .str "" := rfl
  .text hQuery hShort (by decide)

omit hBlank in
theorem parse_gre_differ (hText : c.packet "payload_text" = .str "") :
    Differ (parse_gre c [0, 0, 0, 0]) (parse_gre c []) :=
  have hTunnel : (parse_gre c [0, 0, 0, 0]).packet "payload_text" =
      .str "GRE tunnel inner-proto 0x0000" := rfl
  .text hTunnel hText (by decide)

omit hBlank in
theorem parse_esp_differ : Differ (parse_esp c [0, 0, 0, 0, 0, 0, 0, 0]) (parse_esp c []) :=
  have hHead : (parse_esp c [0, 0, 0, 0, 0, 0, 0, 0]).packet "summary" =
      .str "ESP SPI=0x00000000 seq=0 (encrypted payload)" := rfl
  have hShort : (parse_esp c []).packet "summary" = .str "ESP packet" := rfl
  .summary hHead hShort (by decide) (by decide) (by decide)

theorem parseIpv4Body_differ (hText : c.packet "payload_text" = .str "") (proto : Nat) :
    ∃ body, Differ (sn.parseIpv4Body c proto body) (sn.parseIpv4Body c proto []) := by
  have hRun : ∀ (parser : Bytes → Capture) (body : Bytes),
      (∀ body, sn.parseIpv4Body c proto body = parser body) → Differ (parser body) (parser []) →
        ∃ body, Differ (sn.parseIpv4Body c proto body) (sn.parseIpv4Body c proto []) := by
    intro parser body hSame hDiffer
    refine ⟨body, ?_⟩
    rw [hSame, hSame]
    exact hDiffer
  by_cases hTcp : proto = IP_PROTO_TCP
  · subst hTcp
    exact hRun (sn.parse_tcp c · 4) letters (fun body => rfl) (parse_tcp_differ sn hBlank)
  by_cases hUdp : proto = IP_PROTO_UDP
  · subst hUdp
    exact hRun (sn.parse_udp c · 4) letters (fun body => rfl) (parse_udp_differ sn hBlank)
  by_cases hSctp : proto = IP_PROTO_SCTP
  · subst hSctp
    exact hRun (sn.parse_sctp c · 4) letters (fun body => rfl) (parse_sctp_differ sn hBlank)
  by_cases hIcmp : proto = IP_PROTO_ICMP
  · subst hIcmp
    exact hRun (sn.parse_icmp c · false) _ (fun body => rfl) (parse_icmp_differ sn)
  by_cases hIgmp : proto = IP_PROTO_IGMP
  · subst hIgmp
    exact hRun (sn.parse_igmp c) _ (fun body => rfl) (parse_igmp_differ sn)
  by_cases hGre : proto = IP_PROTO_GRE
  · subst hGre
    exact hRun (parse_gre c) _ (fun body => rfl) (parse_gre_differ hText)
  by_cases hEsp : proto = IP_PROTO_IPV6_ESP
  · subst hEsp
    exact hRun (parse_esp c) _ (fun body => rfl) parse_esp_differ
  by_cases hAh : proto = IP_PROTO_IPV6_AH
  · subst hAh
    exact hRun (sn.parse_ah c · 4) authenticatedTcp (fun body => rfl) (parse_ah_differ sn hBlank)
  · have hNamed : ∃ label, ∀ body, sn.parseIpv4Body c proto body =
        sn.nameIpProtocol c (IP_PROTOCOLS.name proto) label body := by
      refine ⟨if IP_PROTOCOLS.name proto = "" then "IPv4 protocol " ++ toString proto
        else sn.upper (IP_PROTOCOLS.name proto), fun body => ?_⟩
      rw [Sniffer.parseIpv4Body, if_neg hTcp, if_neg hUdp, if_neg hSctp, if_neg hIcmp,
        if_neg hIgmp, if_neg hGre, if_neg hEsp, if_neg hAh]
    obtain ⟨label, hNamed⟩ := hNamed
    exact hRun (sn.nameIpProtocol c (IP_PROTOCOLS.name proto) label) letters hNamed
      (nameIpProtocol_differ sn (Table.name_ne (by decide) (by decide) proto) label)

end Read

theorem parse_ipv4_header (sn : Sniffer) (c : Capture) {packet : Bytes}
    (hComplete : CompletePacket .ipv4 packet) (hHeader : ¬BoundedPacket .ipv4 packet)
    (padding : Bytes) : sn.parse_ipv4 c (packet ++ padding) = sn.summaryOrFallback
      (sn.parseIpv4Body (Sniffer.ipv4Fields c packet) (packet.byte 9) padding) := by
  obtain ⟨-, hTwenty, hTotal, hLength⟩ := hComplete
  have hHeader : ¬packet.byte 0 % 0x10 * 4 < packet.num 2 4 := hHeader
  have hLonger : (packet ++ padding).length = packet.length + padding.length :=
    List.length_append
  have hIhl : packet.byte 0 % 0x10 * 4 = packet.length := by omega
  have hBody : Sniffer.ipv4Body (packet ++ padding) = padding := by
    rw [Sniffer.ipv4Body, num_append_left packet padding (by omega),
      byte_append_left packet padding (by omega), if_neg hHeader, hIhl]
    exact List.drop_left
  have hFields : Sniffer.ipv4Fields c (packet ++ padding) = Sniffer.ipv4Fields c packet := by
    rw [Sniffer.ipv4Fields, Sniffer.ipv4Fields, byte_append_left packet padding (by omega),
      slice_append_left packet padding (by omega), slice_append_left packet padding (by omega)]
  rw [Sniffer.parse_ipv4, if_neg (by omega), hBody, hFields,
    byte_append_left packet padding (by omega)]

theorem printable_padded {front padding : Bytes} (hFront : front.length = 28)
    (hPadding : padding.length = 100) : is_printable_payload (front ++ padding) = true ↔
      71 ≤ (front ++ padding).countP fun b =>
        (32 ≤ b.toNat && b.toNat ≤ 126) || b.toNat ∈ [9, 10, 13] := by
  have hLength : (front ++ padding).length = 128 := by
    rw [List.length_append, hFront, hPadding]
  have hSome : front ++ padding ≠ [] := by
    intro hEmpty
    rw [hEmpty] at hLength
    cases hLength
  rw [is_printable_payload, ← hLength, List.take_length, hLength]
  simp only [hSome, ne_eq, not_false_eq_true, decide_true, Bool.true_and, decide_eq_true_eq]
  exact Iff.rfl

theorem parse_arp_differ (sn : Sniffer) (c c' : Capture) {packet : Bytes}
    (hComplete : CompletePacket .arp packet) :
    Differ (sn.parse_arp c (packet ++ (List.replicate 99 0x41 ++ [0x41])))
      (sn.parse_arp c' (packet ++ List.replicate 100 0)) := by
  obtain ⟨hLength, hHead⟩ := hComplete
  have hText : ∀ (c : Capture) padding, ∃ fields, fields.packet "proto" = .str "arp" ∧
      (sn.parse_arp c (packet ++ padding)).packet "payload_text" =
        .str (sn.interpret_payload fields (packet ++ padding)).1 := by
    intro c padding
    rw [Sniffer.parse_arp, if_neg (by rw [List.length_append]; omega)]
    refine ⟨_, ?_, rfl⟩
    rw [set_packet_other _ _ (by decide),
      Sniffer.arpMismatch_agree _ sn.toRuntime _ "proto" (by decide)]
    rfl
  have hTls : ∀ padding, looks_like_tls (packet ++ padding) = false := by
    intro padding
    have hFirst : packet.byte 0 = 0 := by
      have hTake := byte_append_left (packet.take 6) (packet.drop 6) (i := 0)
        (by rw [hHead]; decide)
      rw [List.take_append_drop, hHead] at hTake
      exact hTake
    have hHandshake : (0 : Nat) ∉ [0x14, 0x15, 0x16, 0x17] := by decide
    rw [looks_like_tls, byte_append_left packet padding (by omega), hFirst,
      decide_eq_false hHandshake, Bool.and_false, Bool.false_and, Bool.false_and]
  obtain ⟨fields, hNamed, hLetters⟩ := hText c (List.replicate 99 0x41 ++ [0x41])
  obtain ⟨_, -, hZeros⟩ := hText c' (List.replicate 100 0)
  refine .text hLetters hZeros ?_
  have hPrintable : is_printable_payload (packet ++ (List.replicate 99 0x41 ++ [0x41])) = true := by
    rw [printable_padded hLength (by simp), List.countP_append, List.countP_append,
      List.countP_replicate, if_pos (by decide)]
    omega
  have hUnprintable : is_printable_payload (packet ++ List.replicate 100 0) = false := by
    have hFew := List.countP_le_length (p := fun b : UInt8 =>
      (32 ≤ b.toNat && b.toNat ≤ 126) || b.toNat ∈ [9, 10, 13]) (l := packet)
    rw [← Bool.not_eq_true, printable_padded hLength (by simp), List.countP_append,
      List.countP_replicate, if_neg (by decide)]
    omega
  rw [interpret_unprintable sn hUnprintable, interpret_text sn (isTcp_eq hNamed) (hTls _) hPrintable,
    ← List.append_assoc]
  exact preview_ne_empty _ _

theorem bounded_of_padding_free (sn : Sniffer) (frame : LinkFrame)
    (hComplete : CompletePacket frame.kind frame.packet)
    (hRead : ∀ padding, ¬GuessedRaw (frame.bytes ++ padding)) (hKind : frame.kind ≠ .ipv6)
    (hFree : PaddingFree sn frame) : BoundedPacket frame.kind frame.packet := by
  by_contra hBounded
  -- two paddings that are told apart
  suffices h : ∃ padding padding', Differ
      (sn.parseNetwork ((frame.padded padding).base [] "" "") frame.kind (frame.packet ++ padding))
      (sn.parseNetwork ((frame.padded padding').base [] "" "") frame.kind
        (frame.packet ++ padding')) by
    obtain ⟨padding, padding', hDiffer⟩ := h
    obtain ⟨k, hk, hOther⟩ := hDiffer.finalize sn
    obtain ⟨c, c', hc, hc', hSame⟩ := hFree [] "" "" "" padding padding'
    rw [parse_packet_padded sn frame hRead] at hc hc'
    cases hc
    cases hc'
    exact hOther (hSame k hk).symm
  have hBase := fun padding => alike_base frame [] "" "" "" padding []
  cases hVersion : frame.kind with
  | ipv6 => exact absurd hVersion hKind
  | arp =>
    rw [hVersion] at hComplete
    exact ⟨_, _, parse_arp_differ sn _ _ hComplete⟩
  | ipv4 =>
    rw [hVersion] at hComplete hBounded
    have hBlank : Blank ((frame.padded []).base [] "" "") ∧
        ((frame.padded []).base [] "" "").packet "payload_text" = .str "" := by
      cases frame with
      | ethernet frame => exact ⟨⟨rfl, rfl, rfl, rfl, rfl, rfl⟩, rfl⟩
      | snap frame => exact ⟨⟨rfl, rfl, rfl, rfl, rfl, rfl⟩, rfl⟩
    obtain ⟨hBlank, hText⟩ := hBlank
    have hFields : Blank (Sniffer.ipv4Fields ((frame.padded []).base [] "" "") frame.packet) :=
      ⟨hBlank.proto, hBlank.transport, hBlank.src_port, hBlank.dst_port, hBlank.tcp_flags,
        hBlank.domain⟩
    obtain ⟨padding, hDiffer⟩ := parseIpv4Body_differ sn hFields hText (frame.packet.byte 9)
    refine ⟨padding, [], ?_⟩
    rw [Sniffer.parseNetwork, Sniffer.parseNetwork,
      parse_ipv4_header sn _ hComplete hBounded padding,
      parse_ipv4_header sn _ hComplete hBounded []]
    have hPadded : Alike (Sniffer.ipv4Fields ((frame.padded []).base [] "" "") frame.packet)
        (Sniffer.ipv4Fields ((frame.padded padding).base [] "" "") frame.packet) :=
      ((((hBase padding).symm.set _ _).set _ _).set _ _).set _ _
    exact (hDiffer.alike (hPadded.parseIpv4Body sn _ _) (SameBut.refl _)).summaryOrFallback sn

/-- Of frames that are not taken for bare packets, with whatever padding: the packet does not show
the padding if nothing behind the declared end is read, for IPv4 and ARP only then. -/
theorem padding_free_iff (sn : Sniffer) (frame : LinkFrame)
    (hComplete : CompletePacket frame.kind frame.packet)
    (hRead : ∀ padding, ¬GuessedRaw (frame.bytes ++ padding)) :
    (BoundedPacket frame.kind frame.packet → PaddingFree sn frame) ∧
      (frame.kind ≠ .ipv6 → PaddingFree sn frame → BoundedPacket frame.kind frame.packet) :=
  ⟨padding_free_of_bounded sn frame hComplete hRead,
    bounded_of_padding_free sn frame hComplete hRead⟩

/-! ## A padded datagram and a padded ARP request -/

def broadcastFrame (kind : EtherKind) (body : Bytes) (h : kind.headerLength ≤ body.length) :
    LinkFrame :=
  .ethernet ⟨[0xFF, 0xFF, 0xFF, 0xFF, 0xFF, 0xFF], [2, 0, 0, 0, 0, 1], [], kind, body, rfl,
    EthernetFrame.length_sender, EthernetFrame.untagged, h⟩

theorem broadcastFrame_read (kind : EtherKind) (body : Bytes)
    (h : kind.headerLength ≤ body.length) (padding : Bytes) :
    ¬GuessedRaw ((broadcastFrame kind body h).bytes ++ padding) := by
  have hFirst : ((broadcastFrame kind body h).bytes ++ padding).byte 0 = 0xFF := rfl
  rintro (h4 | h6)
  · simp [Sniffer.looks_like_raw_ipv4, hFirst] at h4
  · simp [Sniffer.looks_like_raw_ipv6, hFirst] at h6

def datagramFrame : LinkFrame := broadcastFrame .ipv4
  [0x45, 0, 0, 30, 0, 0, 0, 0, 64, 17, 0, 0, 10, 0, 0, 1, 10, 0, 0, 2,
    4, 0, 4, 1, 0, 10, 0, 0, 0x68, 0x69] (by decide)

theorem padding_free_datagram : PaddingFree Sniffer.ascii datagramFrame := by
  have hBody : datagramFrame.packet.byte 0 % 0x10 * 4 < datagramFrame.packet.num 2 4 := by decide
  exact (padding_free_iff Sniffer.ascii datagramFrame (by decide)
    (broadcastFrame_read .ipv4 _ _)).1 hBody

def arpFrame : LinkFrame := broadcastFrame .arp
  [0, 1, 8, 0, 6, 4, 0, 1, 2, 0, 0, 0, 0, 1, 10, 0, 0, 1, 0, 0, 0, 0, 0, 0, 10, 0, 0, 2] (by decide)

/-- The padding of the request is its text. -/
theorem padding_read_arp : ¬∀ (sn : Sniffer) (frame : LinkFrame),
    CompletePacket frame.kind frame.packet → PaddingFree sn frame := by
  intro hAll
  have hFree := hAll Sniffer.ascii arpFrame (by decide)
  exact bounded_of_padding_free Sniffer.ascii arpFrame (by decide) (broadcastFrame_read .arp _ _)
    (by decide) hFree

end Sniff4Hound
