import Sniff4Hound.Capture.Padding

/-!
# Segments between their headers

A complete TCP or UDP segment, put together from the headers in front of it: the network header
with its extensions, an authentication header and the header of the segment. The parser takes the
headers off again, whatever the payload is, and hands the segment to the parser of its transport:

* `unwrapIpv6_extensions`: the walk over extension headers ends at the header behind them.
* `parseNetwork_envelope`: the packet of a network that fits is read as its addresses and its
  segment.
* `Shot.parse_packet`: a frame that is not misread is parsed as the packet it carries.
-/

namespace Sniff4Hound

/-! ## Network headers -/

/-- A header behind the one of IPv6 that the walk steps over: one that gives its own length, or
the fragment header of a first fragment. -/
structure Extension where
  number : Nat
  bytes : Bytes
  valid : (number ∈ Sniffer.IPV6_EXTENSIONS ∧ bytes.length = (bytes.byte 1 + 1) * 8) ∨
    (number = Sniffer.IP_PROTO_IPV6_FRAGMENT ∧ bytes.length = 8 ∧ bytes.num 2 4 / 8 = 0)

/-- A hop-by-hop header that holds padding. -/
instance : Inhabited Extension where
  default := ⟨0, [6, 0, 1, 4, 0, 0, 0, 0], by decide⟩

theorem Extension.length_pos (e : Extension) : 8 ≤ e.bytes.length := by
  rcases e.valid with ⟨-, hLength⟩ | ⟨-, hLength, -⟩ <;> omega

theorem length_extensions (extensions : List Extension) :
    extensions.length ≤ (extensions.map Extension.bytes).flatten.length := by
  induction extensions with
  | nil => exact Nat.le_refl 0
  | cons e rest ih =>
    have hLong := e.length_pos
    rw [List.map_cons, List.flatten_cons, List.length_append, List.length_cons]
    omega

def announces (proto : Nat) : Nat → List Extension → Prop
  | next_header, [] => next_header = proto
  | next_header, e :: rest => next_header = e.number ∧ announces proto (e.bytes.byte 0) rest

inductive NetworkHeader where
  | ipv4 (header : Bytes)
  | ipv6 (header : Bytes) (extensions : List Extension)

namespace NetworkHeader

def kind : NetworkHeader → EtherKind
  | ipv4 _ => .ipv4
  | ipv6 _ _ => .ipv6

def version : NetworkHeader → Nat
  | ipv4 _ => 4
  | ipv6 _ _ => 6

def header : NetworkHeader → Bytes
  | ipv4 header => header
  | ipv6 header _ => header

def bytes : NetworkHeader → Bytes
  | ipv4 header => header
  | ipv6 header extensions => header ++ (extensions.map Extension.bytes).flatten

def Announces : NetworkHeader → Nat → Nat → Prop
  | ipv4 header, proto, size => header.byte 0 / 0x10 = 4 ∧ 20 ≤ header.length ∧
      header.byte 0 % 0x10 * 4 = header.length ∧ header.num 2 4 = header.length + size ∧
      header.byte 9 = proto
  | ipv6 header extensions, proto, _ => header.byte 0 / 0x10 = 6 ∧ header.length = 40 ∧
      announces proto (header.byte 6) extensions

def addresses (network : NetworkHeader) : String × String :=
  network.kind.addresses network.header

def fields (c : Capture) : NetworkHeader → Capture
  | ipv4 header => Sniffer.ipv4Fields c header
  | ipv6 header _ => Sniffer.ipv6Fields c header

end NetworkHeader

theorem unwrapIpv6_extensions (body : Bytes) {proto : Nat}
    (hProto : proto ∈ [IP_PROTO_TCP, IP_PROTO_UDP, IP_PROTO_IPV6_AH]) :
    ∀ (extensions : List Extension) (front : Bytes) (fuel next_header : Nat),
      announces proto next_header extensions → extensions.length < fuel →
      ∃ detail, Sniffer.unwrapIpv6 (front ++ ((extensions.map Extension.bytes).flatten ++ body))
        fuel next_header front.length = (some proto, body, detail) := by
  intro extensions
  induction extensions with
  | nil =>
    intro front fuel next_header hNext hFuel
    obtain ⟨fuel, rfl⟩ : ∃ n, fuel = n + 1 := ⟨fuel - 1, by simp only [List.length_nil] at hFuel; omega⟩
    have hNext : next_header = proto := hNext
    subst hNext
    rw [List.map_nil, List.flatten_nil, List.nil_append, Sniffer.unwrapIpv6]
    dsimp only
    rw [List.drop_left]
    simp only [List.mem_cons, List.not_mem_nil, or_false] at hProto
    rcases hProto with rfl | rfl | rfl <;> exact ⟨_, rfl⟩
  | cons e rest ih =>
    intro front fuel next_header hNext hFuel
    obtain ⟨fuel, rfl⟩ : ∃ n, fuel = n + 1 := ⟨fuel - 1, by rw [List.length_cons] at hFuel; omega⟩
    obtain ⟨rfl, hRest⟩ := hNext
    have hLong := e.length_pos
    have hTail : front ++ (((e :: rest).map Extension.bytes).flatten ++ body) =
        (front ++ e.bytes) ++ ((rest.map Extension.bytes).flatten ++ body) := by
      rw [List.map_cons, List.flatten_cons, List.append_assoc, List.append_assoc]
    have hFront : (front ++ e.bytes).length = front.length + e.bytes.length :=
      List.length_append
    obtain ⟨detail, hWalk⟩ := ih (front ++ e.bytes) fuel _ hRest
      (by rw [List.length_cons] at hFuel; omega)
    refine ⟨detail, ?_⟩
    rw [hTail, ← hWalk, hFront]
    generalize (rest.map Extension.bytes).flatten ++ body = more
    have hLength : ((front ++ e.bytes) ++ more).length =
        front.length + e.bytes.length + more.length := by
      rw [List.length_append, hFront]
    have hByte : ∀ i < e.bytes.length,
        ((front ++ e.bytes) ++ more).byte (front.length + i) = e.bytes.byte i := by
      intro i hi
      rw [byte_append_left _ more (by omega)]
      exact byte_append front e.bytes i
    have hNum : ((front ++ e.bytes) ++ more).num (front.length + 2) (front.length + 4) =
        e.bytes.num 2 4 := by
      rw [num_append_left _ more (by omega)]
      exact num_append_right front e.bytes 2 4
    have hFirst := hByte 0 (by omega)
    rw [Nat.add_zero] at hFirst
    rw [Sniffer.unwrapIpv6]
    dsimp only
    rcases e.valid with ⟨hExtension, hSize⟩ | ⟨hNumber, hSize, hStart⟩
    · rw [if_pos hExtension, hByte 1 (by omega), if_neg (by omega), hFirst, ← hSize]
    · rw [if_neg (by rw [hNumber]; decide), if_pos hNumber, if_neg (by omega), hNum,
        if_neg (not_not.mpr hStart), hFirst, hSize]

/-! ## Transport headers -/

/-- The header of a TCP segment with its options, or of a datagram, with what stands behind the
end of the datagram. -/
inductive SegmentHeader where
  | tcp (header : Bytes)
  | udp (header rest : Bytes)

namespace SegmentHeader

def proto : SegmentHeader → Nat
  | tcp _ => IP_PROTO_TCP
  | udp _ _ => IP_PROTO_UDP

def header : SegmentHeader → Bytes
  | tcp header => header
  | udp header _ => header

def around : SegmentHeader → Bytes → Bytes
  | tcp header, payload => header ++ payload
  | udp header rest, payload => header ++ (payload ++ rest)

def length : SegmentHeader → Nat → Nat
  | tcp header, size => header.length + size
  | udp header rest, size => header.length + (size + rest.length)

def Fits : SegmentHeader → Nat → Prop
  | tcp header, _ => 20 ≤ header.length ∧ header.byte 12 / 0x10 * 4 = header.length
  | udp header _, size => header.length = 8 ∧ header.num 4 6 = 8 + size

def src_port (segment : SegmentHeader) : Nat := segment.header.num 0 2

def dst_port (segment : SegmentHeader) : Nat := segment.header.num 2 4

end SegmentHeader

theorem tcpPayload_around {header : Bytes} {payload : Bytes}
    (h : (SegmentHeader.tcp header).Fits payload.length) :
    tcpPayload (header ++ payload) = payload := by
  obtain ⟨hLong, hOffset⟩ := h
  rw [tcpPayload, byte_append_left header payload (by omega), hOffset]
  rw [if_pos ⟨by omega, by rw [List.length_append]; omega⟩, List.drop_left]

theorem udpPayload_around {header rest : Bytes} {payload : Bytes}
    (h : (SegmentHeader.udp header rest).Fits payload.length) :
    udpPayload (header ++ (payload ++ rest)) = payload := by
  obtain ⟨hLong, hLength⟩ := h
  have hSlice := slice_append header (payload ++ rest) payload.length
  rw [hLong, List.take_left] at hSlice
  have hBounds : 8 ≤ 8 + payload.length ∧
      8 + payload.length ≤ (header ++ (payload ++ rest)).length := by
    rw [List.length_append, List.length_append]
    omega
  rw [udpPayload, num_append_left header _ (by omega), hLength, if_pos hBounds, hSlice]

/-! ## Envelopes -/

structure Envelope where
  network : NetworkHeader
  authentication : Option Bytes
  segment : SegmentHeader
  padding : Bytes

namespace Envelope

def proto (envelope : Envelope) : Nat :=
  match envelope.authentication with
  | none => envelope.segment.proto
  | some _ => IP_PROTO_IPV6_AH

def body (envelope : Envelope) (payload : Bytes) : Bytes :=
  envelope.authentication.getD [] ++ envelope.segment.around payload

def length (envelope : Envelope) (size : Nat) : Nat :=
  (envelope.authentication.getD []).length + envelope.segment.length size

def packet (envelope : Envelope) (payload : Bytes) : Bytes :=
  envelope.network.bytes ++ (envelope.body payload ++ envelope.padding)

/-- The headers are those of a packet with a payload of this length. Behind an IPv6 packet there is
no padding. -/
structure Fits (envelope : Envelope) (size : Nat) : Prop where
  announced : envelope.network.Announces envelope.proto (envelope.length size)
  authenticated : ∀ header ∈ envelope.authentication, 12 ≤ header.length ∧
    header.length = ah_header_length (header.byte 1) ∧ header.byte 0 = envelope.segment.proto
  segment : envelope.segment.Fits size
  padded : envelope.network.version = 6 → envelope.padding = []

theorem length_body (envelope : Envelope) (payload : Bytes) :
    (envelope.body payload).length = envelope.length payload.length := by
  rw [body, length, List.length_append]
  cases envelope.segment with
  | tcp header => rw [SegmentHeader.around, SegmentHeader.length, List.length_append]
  | udp header rest =>
    rw [SegmentHeader.around, SegmentHeader.length, List.length_append, List.length_append]

theorem proto_mem (envelope : Envelope) :
    envelope.proto ∈ [IP_PROTO_TCP, IP_PROTO_UDP, IP_PROTO_IPV6_AH] := by
  rw [proto]
  cases envelope.authentication with
  | some header => exact show IP_PROTO_IPV6_AH ∈ _ by decide
  | none =>
    cases envelope.segment with
    | tcp header => exact show IP_PROTO_TCP ∈ _ by decide
    | udp header rest => exact show IP_PROTO_UDP ∈ _ by decide

end Envelope

namespace Sniffer

def parseSegment (sn : Sniffer) (c : Capture) (envelope : Envelope) (payload : Bytes) : Capture :=
  match envelope.segment with
  | .tcp header => sn.parse_tcp c (header ++ payload) envelope.network.version
  | .udp header rest => sn.parse_udp c (header ++ (payload ++ rest)) envelope.network.version

def parseBody (sn : Sniffer) (c : Capture) (envelope : Envelope) (payload : Bytes) : Capture :=
  match envelope.authentication with
  | none => sn.parseSegment c envelope payload
  | some header =>
    let c := sn.parseSegment c envelope payload
    c.summarize ("AH SPI=" ++ hexText 8 (header.num 4 8) ++ " seq=" ++
      toString (header.num 8 12) ++ " | " ++ (c.packet "summary").text sn.toRuntime)

end Sniffer

section Parse

variable (sn : Sniffer) (c : Capture) {envelope : Envelope} {payload : Bytes}
  (hFits : envelope.Fits payload.length)
include hFits

theorem parse_ah_envelope {header : Bytes} (hHeader : envelope.authentication = some header) :
    sn.parse_ah c (envelope.body payload) envelope.network.version =
      sn.parseBody c envelope payload := by
  obtain ⟨hLong, hLength, hProto⟩ := hFits.authenticated header hHeader
  have hBody : envelope.body payload = header ++ envelope.segment.around payload := by
    rw [Envelope.body, hHeader]
    rfl
  have hByte : ∀ i < header.length, (envelope.body payload).byte i = header.byte i := by
    intro i hi
    rw [hBody, byte_append_left header _ hi]
  have hNum : ∀ i j, j ≤ header.length → (envelope.body payload).num i j = header.num i j := by
    intro i j hj
    rw [hBody, num_append_left header _ hj]
  have hLonger : (envelope.body payload).length =
      header.length + (envelope.segment.around payload).length := by
    rw [hBody, List.length_append]
  have hInner : ahInner (envelope.body payload) = envelope.segment.around payload := by
    rw [ahInner, hByte 1 (by omega), ← hLength]
    rw [if_pos (by omega), hBody, List.drop_left]
  rw [Sniffer.parse_ah, if_neg (by omega), hNum 4 8 (by omega), hNum 8 12 hLong,
    Sniffer.parseBody, hHeader, Sniffer.parseAhInner, hByte 0 (by omega), hProto, hInner,
    Sniffer.parseSegment]
  cases envelope.segment with
  | tcp header => rfl
  | udp header rest => rfl

theorem parseIpv4Body_envelope (hVersion : envelope.network.version = 4) :
    sn.parseIpv4Body c envelope.proto (envelope.body payload) =
      sn.parseBody c envelope payload := by
  cases hHeader : envelope.authentication with
  | some header =>
    have hProto : envelope.proto = IP_PROTO_IPV6_AH := by rw [Envelope.proto, hHeader]
    rw [hProto, ← parse_ah_envelope sn c hFits hHeader, hVersion]
    rfl
  | none =>
    rw [Envelope.proto, Envelope.body, Sniffer.parseBody, hHeader, Sniffer.parseSegment, hVersion]
    cases envelope.segment with
    | tcp header => rfl
    | udp header rest => rfl

theorem parseIpv6Body_envelope (hVersion : envelope.network.version = 6) (detail : String) :
    sn.parseIpv6Body c (some envelope.proto) (envelope.body payload) detail =
      sn.parseBody c envelope payload := by
  cases hHeader : envelope.authentication with
  | some header =>
    have hProto : envelope.proto = IP_PROTO_IPV6_AH := by rw [Envelope.proto, hHeader]
    rw [hProto, ← parse_ah_envelope sn c hFits hHeader, hVersion]
    rfl
  | none =>
    rw [Envelope.proto, Envelope.body, Sniffer.parseBody, hHeader, Sniffer.parseSegment, hVersion]
    cases envelope.segment with
    | tcp header => rfl
    | udp header rest => rfl

theorem length_body_pos : 8 ≤ (envelope.body payload).length := by
  have hSegment := hFits.segment
  rw [envelope.length_body, Envelope.length]
  cases hHeader : envelope.segment with
  | tcp header =>
    rw [hHeader] at hSegment
    obtain ⟨hLong, -⟩ := hSegment
    rw [SegmentHeader.length]
    omega
  | udp header rest =>
    rw [hHeader] at hSegment
    obtain ⟨hLong, -⟩ := hSegment
    rw [SegmentHeader.length]
    omega

theorem parse_ipv4_envelope {header : Bytes} (hNetwork : envelope.network = .ipv4 header) :
    sn.parse_ipv4 c (envelope.packet payload) = sn.summaryOrFallback
      (sn.parseBody (Sniffer.ipv4Fields c header) envelope payload) := by
  have hVersion : envelope.network.version = 4 := by
    rw [hNetwork]
    rfl
  have hAnnounced := hFits.announced
  have hSome := length_body_pos hFits
  rw [← envelope.length_body, hNetwork] at hAnnounced
  obtain ⟨-, hLong, hIhl, hTotal, hProto⟩ := hAnnounced
  have hPacket : envelope.packet payload =
      header ++ (envelope.body payload ++ envelope.padding) := by
    rw [Envelope.packet, hNetwork]
    rfl
  have hSlice := slice_append header (envelope.body payload ++ envelope.padding)
    (envelope.body payload).length
  rw [List.take_left] at hSlice
  rw [hPacket, Sniffer.parse_ipv4, if_neg (by rw [List.length_append]; omega)]
  generalize envelope.body payload ++ envelope.padding = more at hSlice
  have hBody : Sniffer.ipv4Body (header ++ more) = envelope.body payload := by
    rw [Sniffer.ipv4Body, byte_append_left header _ (by omega),
      num_append_left header _ (by omega), hIhl, hTotal]
    rw [if_pos (by omega), hSlice]
  have hFields : Sniffer.ipv4Fields c (header ++ more) = Sniffer.ipv4Fields c header := by
    rw [Sniffer.ipv4Fields, Sniffer.ipv4Fields, byte_append_left header _ (by omega),
      slice_append_left header _ (by omega), slice_append_left header _ (by omega)]
  rw [hBody, hFields, byte_append_left header _ (by omega), hProto,
    parseIpv4Body_envelope sn _ hFits hVersion]

theorem parse_ipv6_envelope {header : Bytes} {extensions : List Extension}
    (hNetwork : envelope.network = .ipv6 header extensions) :
    sn.parse_ipv6 c (envelope.packet payload) = sn.summaryOrFallback
      (sn.parseBody (Sniffer.ipv6Fields c header) envelope payload) := by
  have hVersion : envelope.network.version = 6 := by
    rw [hNetwork]
    rfl
  have hAnnounced := hFits.announced
  rw [← envelope.length_body, hNetwork] at hAnnounced
  obtain ⟨-, hForty, hAnnounces⟩ := hAnnounced
  have hPacket : envelope.packet payload = header ++
      ((extensions.map Extension.bytes).flatten ++ envelope.body payload) := by
    rw [Envelope.packet, hNetwork, hFits.padded hVersion, List.append_nil]
    exact List.append_assoc _ _ _
  have hCount := length_extensions extensions
  obtain ⟨detail, hWalk⟩ := unwrapIpv6_extensions (envelope.body payload) envelope.proto_mem
    extensions header (envelope.packet payload).length (header.byte 6) hAnnounces
    (by rw [hPacket, List.length_append, List.length_append]; omega)
  rw [← hPacket, hForty] at hWalk
  rw [Sniffer.parse_ipv6, if_neg (by rw [hPacket, List.length_append]; omega),
    Sniffer.unwrap_ipv6_transport]
  have hSix : (envelope.packet payload).byte 6 = header.byte 6 := by
    rw [hPacket, byte_append_left header _ (by omega)]
  have hFields : Sniffer.ipv6Fields c (envelope.packet payload) =
      Sniffer.ipv6Fields c header := by
    rw [hPacket, Sniffer.ipv6Fields, Sniffer.ipv6Fields, byte_append_left header _ (by omega),
      slice_append_left header _ (by omega), slice_append_left header _ (by omega)]
  rw [hSix, hWalk, hFields]
  exact congrArg sn.summaryOrFallback (parseIpv6Body_envelope sn _ hFits hVersion detail)

theorem parseNetwork_envelope :
    sn.parseNetwork c envelope.network.kind (envelope.packet payload) = sn.summaryOrFallback
      (sn.parseBody (envelope.network.fields c) envelope payload) := by
  cases hNetwork : envelope.network with
  | ipv4 header => exact parse_ipv4_envelope sn c hFits hNetwork
  | ipv6 header extensions => exact parse_ipv6_envelope sn c hFits hNetwork

end Parse

/-! ## Captured segments -/

namespace Carrier

def Misread (carrier : Carrier) : Prop := carrier.reading ≠ (carrier.kind, carrier.packet)

def base (flows : List String) (now interface : String) : Carrier → Capture
  | plain (.ethernet frame) => Sniffer.newPacket flows ⟨now, interface, frame.bytes⟩ frame.body
      (format_mac frame.src) (format_mac frame.dst) frame.kind.code
  | plain (.bare4 packet _) =>
    Sniffer.newPacket flows ⟨now, interface, packet⟩ packet "" "" ETHERTYPE_IPV4
  | plain (.bare6 packet _) =>
    Sniffer.newPacket flows ⟨now, interface, packet⟩ packet "" "" ETHERTYPE_IPV6
  | snap frame => frame.base flows now interface

inductive SameLink : Carrier → Carrier → Prop
  | ethernet {a b : EthernetFrame} (dst : b.dst = a.dst) (src : b.src = a.src)
      (tags : b.tags = a.tags) (kind : b.kind = a.kind) :
      SameLink (plain (.ethernet a)) (plain (.ethernet b))
  | bare4 {a b : Bytes} (ha : Sniffer.looks_like_raw_ipv4 a = true)
      (hb : Sniffer.looks_like_raw_ipv4 b = true) :
      SameLink (plain (.bare4 a ha)) (plain (.bare4 b hb))
  | bare6 {a b : Bytes} (ha : Sniffer.looks_like_raw_ipv6 a = true)
      (hb : Sniffer.looks_like_raw_ipv6 b = true) :
      SameLink (plain (.bare6 a ha)) (plain (.bare6 b hb))
  | snap {a b : SnapFrame} (dst : b.dst = a.dst) (src : b.src = a.src) (tags : b.tags = a.tags)
      (declared : b.declared = a.declared) (oui : b.oui = a.oui) (kind : b.kind = a.kind) :
      SameLink (snap a) (snap b)

theorem SameLink.alike {a b : Carrier} (h : SameLink a b) (flows : List String)
    (now now' interface : String) :
    Alike (a.base flows now interface) (b.base flows now' interface) := by
  cases h with
  | ethernet dst src tags kind =>
    rw [base, base, dst, src, kind]
    exact alike_newPacket flows now now' interface _ _ _ _ _ _ _
  | bare4 ha hb => exact alike_newPacket flows now now' interface _ _ _ _ _ _ _
  | bare6 ha hb => exact alike_newPacket flows now now' interface _ _ _ _ _ _ _
  | snap dst src tags declared oui kind =>
    rw [base, base, SnapFrame.base, SnapFrame.base, SnapFrame.fields, SnapFrame.fields, dst, src,
      declared, oui, kind]
    exact (((((((alike_newPacket flows now now' interface _ _ _ _ _ _ _).set _ _).set _ _).set
      _ _).set _ _).set _ _).set _ _).set _ _

theorem not_guessed {carrier : Carrier} (hRead : ¬carrier.Misread)
    (hLonger : carrier.packet.length < carrier.bytes.length) :
    Sniffer.looks_like_raw_ipv4 carrier.bytes ≠ true ∧
      Sniffer.looks_like_raw_ipv6 carrier.bytes ≠ true := by
  have hReading := not_not.mp hRead
  have hOther : ∀ kind, (kind, carrier.bytes) ≠ (carrier.kind, carrier.packet) := by
    intro kind hSame
    rw [(Prod.mk.inj hSame).2] at hLonger
    exact lt_irrefl _ hLonger
  rw [reading] at hReading
  split at hReading
  · exact absurd hReading (hOther _)
  split at hReading
  · exact absurd hReading (hOther _)
  · exact ⟨‹_›, ‹_›⟩

theorem parse_packet_base (sn : Sniffer) (flows : List String) (now interface : String)
    {carrier : Carrier} (hRead : ¬carrier.Misread) :
    sn.parse_packet flows ⟨now, interface, carrier.bytes⟩ = some (sn.finalize_packet
      (sn.parseNetwork (carrier.base flows now interface) carrier.kind carrier.packet)) := by
  cases carrier with
  | plain frame =>
    cases frame with
    | ethernet frame =>
      have hLonger : frame.body.length < frame.bytes.length := by
        rw [EthernetFrame.length_bytes]
        omega
      obtain ⟨h4, h6⟩ := not_guessed hRead hLonger
      refine (parse_packet_ethernet sn flows now interface frame h4 h6).trans ?_
      rw [parseEthernet_bytes, Sniffer.parseEtherType_code]
      rfl
    | bare4 packet guessed => exact parse_packet_raw4 sn flows now interface guessed
    | bare6 packet guessed => exact parse_packet_raw6 sn flows now interface guessed
  | snap frame =>
    have hLonger : frame.body.length < frame.bytes.length := by
      have hBytes := frame.length_bytes
      have hLlc := frame.length_llc
      omega
    obtain ⟨h4, h6⟩ := not_guessed hRead hLonger
    exact parse_packet_snap sn flows now interface frame h4 h6

end Carrier

/-- A packet captured: its carrier, its headers and its payload. -/
structure Shot where
  carrier : Carrier
  envelope : Envelope
  payload : Bytes
  kind_eq : carrier.kind = envelope.network.kind
  packet_eq : carrier.packet = envelope.packet payload
  fits : envelope.Fits payload.length
  now : String
  interface : String

namespace Shot

def captured (s : Shot) : Sniffer.Captured := ⟨s.now, s.interface, s.carrier.bytes⟩

theorem parse_packet (s : Shot) (sn : Sniffer) (flows : List String) (hRead : ¬s.carrier.Misread) :
    sn.parse_packet flows s.captured = some (sn.finalize_packet (sn.summaryOrFallback
      (sn.parseBody (s.envelope.network.fields (s.carrier.base flows s.now s.interface))
        s.envelope s.payload))) := by
  rw [captured, Carrier.parse_packet_base sn flows s.now s.interface hRead, s.kind_eq, s.packet_eq,
    parseNetwork_envelope sn _ s.fits]

end Shot

end Sniff4Hound
