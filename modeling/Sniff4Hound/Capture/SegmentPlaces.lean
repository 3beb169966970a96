import Sniff4Hound.Capture.Connections

/-!
# Where the TCP header of an IPv4 packet is read

The header length, the total length and the data offset are what the sender wrote into the packet.
Where they fit together, the parser reads the ports and flags from behind the IP header and the
payload from behind the TCP header; where they do not, bytes of one header are read as another one
or as payload (`read_in_place_iff`).
-/

namespace Sniff4Hound

def tcpStart (packet : Bytes) : Option Nat :=
  let ihl := packet.byte 0 % 0x10 * 4
  let body := Sniffer.ipv4Body packet
  if packet.byte 9 = IP_PROTO_TCP then some ihl
  else if packet.byte 9 = IP_PROTO_IPV6_AH ∧ 12 ≤ body.length ∧ body.byte 0 = IP_PROTO_TCP then
    some (ihl + ah_header_length (body.byte 1))
  else none

def readSegment (packet : Bytes) (start : Nat) : Bytes :=
  (Sniffer.ipv4Body packet).drop (start - packet.byte 0 % 0x10 * 4)

/-- The ports and flags are those of a whole header inside the captured bytes and the total length,
and the payload begins where the data offset says. -/
structure Reported (packet : Bytes) (start : Nat) (segment : Bytes) (parsed : Packet) : Prop where
  whole : 20 ≤ segment.length
  src_port : parsed "src_port" = .int (segment.num 0 2)
  dst_port : parsed "dst_port" = .int (segment.num 2 4)
  tcp_flags : parsed "tcp_flags" = .str (tcpFlagsText (segment.byte 13))
  data_offset : 5 ≤ segment.byte 12 / 0x10
  payload : tcpPayload (readSegment packet start) = segment.drop (segment.byte 12 / 0x10 * 4)

/-- No byte of a header is read as another header or as payload. A segment without a whole header
is read as text. -/
structure ReadInPlace (packet : Bytes) (parsed : Packet) : Prop where
  header : 5 ≤ packet.byte 0 % 0x10
  reported : parsed "tcp_flags" ≠ .str "" → ∃ start, tcpStart packet = some start ∧
    Reported packet start ((packet.take (packet.num 2 4)).drop start) parsed
  cut : ∀ start, tcpStart packet = some start → (readSegment packet start).length < 20 →
    readSegment packet start = []

/-- The three numbers fit together and with what was captured. A data offset behind the end is
harmless where there is nothing behind the fixed header. -/
def FieldsFit (packet : Bytes) : Prop :=
  5 ≤ packet.byte 0 % 0x10 ∧ ∀ start, tcpStart packet = some start →
    readSegment packet start = [] ∨
      20 ≤ (readSegment packet start).length ∧
        packet.byte 0 % 0x10 * 4 < packet.num 2 4 ∧
        5 ≤ (readSegment packet start).byte 12 / 0x10 ∧
        ((readSegment packet start).byte 12 / 0x10 * 4 ≤ (readSegment packet start).length ∨
          (readSegment packet start).length = 20)

/-! ## Flags are those of a segment -/

def REPORT_KEYS : List String := ["tcp_flags"]

section Flags

variable (sn : Sniffer) {c : Capture} {proto : Nat} {body : Bytes}

theorem silent_of_plain {value : Value} {c' : Capture}
    (h : Agree PLAIN_KEYS (c.set "proto" value) c') : Agree REPORT_KEYS c c' := by
  refine Agree.trans ?_ (h.mono (by decide))
  exact (agree_set value (by decide)).mpr (Agree.refl _ c)

theorem parse_tcp_silent (ip_version : Nat) (hShort : body.length < 20) :
    Agree REPORT_KEYS c (sn.parse_tcp c body ip_version) := by
  refine Agree.trans ?_ ((parse_tcp_short_agree sn c body ip_version hShort).mono (by decide))
  simp (disch := decide) only [agree_set, Agree.refl]

theorem parse_udp_silent (ip_version : Nat) : Agree REPORT_KEYS c (sn.parse_udp c body ip_version) := by
  by_cases hShort : body.length < 8
  · refine Agree.trans ?_ ((parse_udp_short_agree sn c body ip_version hShort).mono (by decide))
    simp (disch := decide) only [agree_set, Agree.refl]
  · have hLong := parse_udp_agree sn c body ip_version (Nat.not_lt.mp hShort)
    refine Agree.trans ?_ (hLong.mono (by decide))
    simp (disch := decide) only [udpFields, agree_set, Agree.refl]

theorem parse_sctp_silent (ip_version : Nat) :
    Agree REPORT_KEYS c (sn.parse_sctp c body ip_version) := by
  by_cases hShort : body.length < 12
  · rw [Sniffer.parse_sctp]
    dsimp only
    rw [if_pos hShort]
    refine Agree.trans ?_ ((shortBody_agree sn _ "SCTP packet" body).mono (by decide))
    simp (disch := decide) only [agree_set, Agree.refl]
  · have hLong := Sniffer.parse_sctp_unread sn c body ip_version (Nat.not_lt.mp hShort)
    refine Agree.trans ?_ (hLong.mono (by decide))
    simp (disch := decide) only [agree_set, Agree.refl]

theorem parse_ah_silent (ip_version : Nat) (hNone : ∀ segment,
    segmentOf (some IP_PROTO_IPV6_AH) body = some (20, segment) → segment.length < 20) :
    Agree REPORT_KEYS c (sn.parse_ah c body ip_version) := by
  rw [Sniffer.parse_ah]
  dsimp only
  split
  · simp (disch := decide) only [agree_summarize, agree_set, Agree.refl]
  · next hLong =>
    refine (agree_summarize _ (by decide) (by decide)).mpr ?_
    rw [Sniffer.parseAhInner]
    split
    · next hTcp =>
      refine parse_tcp_silent sn ip_version (hNone _ ?_)
      rw [segmentOf, if_neg (by decide), if_neg (by decide), if_pos ⟨rfl, Nat.not_lt.mp hLong⟩,
        if_pos hTcp]
    split
    · exact parse_udp_silent sn ip_version
    split
    · exact silent_of_plain (Sniffer.parse_icmp_agree sn c _ _)
    · simp (disch := decide) only [agree_summarize, agree_set, Agree.refl]

theorem carried_silent {ip_version : Nat} {proto : Option Nat} {c' : Capture}
    (h : sn.Carried c body ip_version proto c')
    (hNone : ∀ segment, segmentOf proto body = some (20, segment) → segment.length < 20) :
    Agree REPORT_KEYS c c' := by
  cases h with
  | tcp hTcp => exact parse_tcp_silent sn ip_version (hNone body (if_pos hTcp))
  | udp => exact parse_udp_silent sn ip_version
  | sctp => exact parse_sctp_silent sn ip_version
  | ah hAh =>
    rw [hAh] at hNone
    exact parse_ah_silent sn ip_version hNone
  | plain _ _ _ _ _ hAgree => exact silent_of_plain hAgree

end Flags

theorem reports_flags {parsed : Packet} {segment : Bytes}
    (h : parsed "tcp_flags" = .str (tcpFlagsText (segment.byte 13))) :
    parsed "tcp_flags" ≠ .str "" := by
  have hAll : ∀ n < 256, tcpFlagsText n ≠ "" := by decide +kernel
  rw [h]
  exact fun hEmpty => hAll _ (UInt8.toNat_lt _) (Value.str.inj hEmpty)

/-! ## The segment of a packet -/

variable {packet segment : Bytes} {start : Nat}

theorem segmentOf_iff :
    segmentOf (some (packet.byte 9)) (Sniffer.ipv4Body packet) = some (20, segment) ↔
      ∃ start, tcpStart packet = some start ∧ readSegment packet start = segment := by
  have hInner : ahInner (Sniffer.ipv4Body packet) = (Sniffer.ipv4Body packet).drop
      (ah_header_length ((Sniffer.ipv4Body packet).byte 1)) := by
    rw [ahInner]
    split
    · rfl
    · next hLess => exact (List.drop_eq_nil_of_le (Nat.le_of_not_le hLess)).symm
  unfold tcpStart readSegment
  dsimp only
  constructor
  · intro h
    rcases segmentOf_tcp h with ⟨hTcp, rfl⟩ | ⟨hAh, hBody, hTcp, rfl⟩
    · refine ⟨_, if_pos hTcp, ?_⟩
      rw [Nat.sub_self, List.drop_zero]
    · refine ⟨_, (if_neg (by rw [hAh]; decide)).trans (if_pos ⟨hAh, hBody, hTcp⟩), ?_⟩
      rw [Nat.add_sub_cancel_left, hInner]
  · rintro ⟨start, hStart, rfl⟩
    split at hStart
    · next hTcp =>
      cases hStart
      rw [segmentOf, if_pos (congrArg some hTcp), Nat.sub_self, List.drop_zero]
    split at hStart
    · next hAh =>
      cases hStart
      rw [segmentOf, hAh.1, if_neg (by decide), if_neg (by decide), if_pos ⟨rfl, hAh.2.1⟩,
        if_pos hAh.2.2, Nat.add_sub_cancel_left, hInner]
    · cases hStart

theorem tcpStart_le (hStart : tcpStart packet = some start) :
    packet.byte 0 % 0x10 * 4 ≤ start := by
  unfold tcpStart at hStart
  dsimp only at hStart
  split at hStart
  · cases hStart
    exact Nat.le_refl _
  split at hStart
  · cases hStart
    exact Nat.le_add_right _ _
  · cases hStart

theorem readSegment_eq (hStart : tcpStart packet = some start)
    (hTotal : packet.byte 0 % 0x10 * 4 < packet.num 2 4) :
    readSegment packet start = (packet.take (packet.num 2 4)).drop start := by
  have hLe := tcpStart_le hStart
  rw [readSegment, Sniffer.ipv4Body, if_pos hTotal, Bytes.slice, ← List.drop_take, List.drop_drop,
    Nat.add_sub_cancel' hLe]

section Parsed

variable (sn : Sniffer) (flows : List String) (now interface : String) {carrier : Carrier}

/-- What the parser reports of an IPv4 packet: the ports and flags of what it takes for the segment,
if that has a whole header, and otherwise no flags. -/
theorem parsed_segment (hReading : carrier.reading = (.ipv4, packet)) :
    ∃ c, sn.parse_packet flows ⟨now, interface, carrier.bytes⟩ = some c ∧
      (c.packet "tcp_flags" ≠ .str "" → ∃ start, tcpStart packet = some start ∧
        20 ≤ (readSegment packet start).length) ∧
      ∀ start, tcpStart packet = some start → 20 ≤ (readSegment packet start).length →
        c.packet "src_port" = .int ((readSegment packet start).num 0 2) ∧
        c.packet "dst_port" = .int ((readSegment packet start).num 2 4) ∧
        c.packet "tcp_flags" = .str (tcpFlagsText ((readSegment packet start).byte 13)) := by
  obtain ⟨base, hBlank, hParsed⟩ := parse_packet_reading sn flows now interface carrier
  have hLong := length_reading carrier
  rw [hReading] at hParsed hLong
  have hShort : ¬packet.length < 20 := Nat.not_lt.mpr hLong
  have hLast : Agree CORE_KEYS
      (sn.parseIpv4Body (Sniffer.ipv4Fields base packet) (packet.byte 9) (Sniffer.ipv4Body packet))
      (sn.finalize_packet (sn.parseNetwork base .ipv4 packet)) := by
    rw [Sniffer.parseNetwork, Sniffer.parse_ipv4, if_neg hShort]
    exact (Sniffer.summaryOrFallback_agree sn _).trans (Sniffer.finalize_packet_agree sn _)
  refine ⟨_, hParsed, fun hFlags => ?_, fun start hStart hWhole => ?_⟩
  · by_contra hNone
    refine hFlags ((hLast "tcp_flags" (by decide)).trans ?_)
    refine (carried_silent sn (sn.carried_ipv4 _ _ _) (fun segment hSegment => ?_) "tcp_flags"
      (by decide)).trans hBlank.tcp_flags
    obtain ⟨start, hStart, rfl⟩ := segmentOf_iff.mp hSegment
    exact Nat.not_le.mp fun hWhole => hNone ⟨start, hStart, hWhole⟩
  · have hSegment := parseIpv4Body_segment sn (c := Sniffer.ipv4Fields base packet)
      (segmentOf_iff.mpr ⟨start, hStart, rfl⟩) hWhole
    have hAll := hSegment.trans hLast
    exact ⟨hAll "src_port" (by decide), hAll "dst_port" (by decide), hAll "tcp_flags" (by decide)⟩

/-- Nothing is read in a wrong place just when the lengths in the packet fit together. -/
theorem read_in_place_iff (hReading : carrier.reading = (.ipv4, packet)) :
    (∀ c, sn.parse_packet flows ⟨now, interface, carrier.bytes⟩ = some c →
      ReadInPlace packet c.packet) ↔ FieldsFit packet := by
  obtain ⟨parsed, hParsed, hReported, hFields⟩ := parsed_segment sn flows now interface hReading
  constructor
  · intro h
    obtain ⟨hHeader, hInPlace, hCut⟩ := h parsed hParsed
    refine ⟨hHeader, fun start hStart => ?_⟩
    by_cases hWhole : 20 ≤ (readSegment packet start).length
    · obtain ⟨-, -, hText⟩ := hFields start hStart hWhole
      obtain ⟨other, hOther, hPlace⟩ := hInPlace (reports_flags hText)
      cases hStart.symm.trans hOther
      have hTotal : packet.byte 0 % 0x10 * 4 < packet.num 2 4 := by
        have hLength := hPlace.whole
        have hLe := tcpStart_le hStart
        rw [List.length_drop, List.length_take] at hLength
        omega
      have hPayload := hPlace.payload
      have hOffset := hPlace.data_offset
      rw [← readSegment_eq hStart hTotal] at hPayload hOffset
      refine Or.inr ⟨hWhole, hTotal, hOffset, ?_⟩
      by_contra hBehind
      obtain ⟨hOver, hMore⟩ := not_or.mp hBehind
      rw [tcpPayload, if_neg fun hBoth => hOver hBoth.2,
        List.drop_eq_nil_of_le (Nat.le_of_not_le hOver), List.drop_eq_nil_iff] at hPayload
      omega
    · exact Or.inl (hCut start hStart (Nat.not_le.mp hWhole))
  · rintro ⟨hHeader, hFit⟩ c hSome
    cases hParsed.symm.trans hSome
    refine ⟨hHeader, fun hFlags => ?_, fun start hStart hShort => ?_⟩
    · obtain ⟨start, hStart, hWhole⟩ := hReported hFlags
      rcases hFit start hStart with hEmpty | ⟨-, hTotal, hOffset, hEnd⟩
      · rw [hEmpty] at hWhole
        exact absurd hWhole (by decide)
      obtain ⟨hSrc, hDst, hText⟩ := hFields start hStart hWhole
      refine ⟨start, hStart, ?_⟩
      rw [← readSegment_eq hStart hTotal]
      refine ⟨hWhole, hSrc, hDst, hText, hOffset, ?_⟩
      rw [tcpPayload]
      split
      · rfl
      · next hOver =>
        have hExact : (readSegment packet start).length = 20 := by omega
        rw [List.drop_eq_nil_of_le (Nat.le_of_eq hExact), List.drop_eq_nil_of_le (by omega)]
    · rcases hFit start hStart with hEmpty | ⟨hWhole, -⟩
      · exact hEmpty
      · exact absurd hShort (Nat.not_lt.mpr hWhole)

end Parsed

/-! ## A data offset inside the header -/

def synFrame (data_offset : UInt8) : EthernetFrame where
  dst := [2, 0, 0, 0, 0, 2]
  src := [2, 0, 0, 0, 0, 1]
  tags := []
  kind := .ipv4
  body := [0x45, 0, 0, 40, 0, 7, 0, 0, 64, 6, 0, 0, 10, 0, 0, 1, 10, 0, 0, 2, 0x1A, 0x0A, 0, 80,
    0, 0, 0, 0, 0, 0, 0, 0, data_offset, 0x02, 0, 0, 0, 0, 0, 0]
  length_dst := EthernetFrame.length_receiver
  length_src := EthernetFrame.length_sender
  tags_valid := EthernetFrame.untagged
  length_body := EthernetFrame.header_within

theorem read_in_place_syn : ∃ c, Sniffer.ascii.parse_packet []
    ⟨"", "", (Carrier.plain (.ethernet (synFrame 0x50))).bytes⟩ = some c ∧
      ReadInPlace (synFrame 0x50).body c.packet := by
  have hFit : FieldsFit (synFrame 0x50).body := by
    refine ⟨by decide, fun start hStart => ?_⟩
    cases hStart.symm.trans (show tcpStart (synFrame 0x50).body = some 20 from rfl)
    exact Or.inr (by decide)
  have hReading : (Carrier.plain (.ethernet (synFrame 0x50))).reading =
    (.ipv4, (synFrame 0x50).body) := by decide
  obtain ⟨c, hParsed, -⟩ := parsed_segment Sniffer.ascii [] "" "" hReading
  exact ⟨c, hParsed, (read_in_place_iff Sniffer.ascii [] "" "" hReading).mpr hFit c hParsed⟩

/-- With the data offset 1 most of the TCP header is taken for the payload. -/
theorem header_as_payload : ∃ c, Sniffer.ascii.parse_packet []
    ⟨"", "", (Carrier.plain (.ethernet (synFrame 0x10))).bytes⟩ = some c ∧
      ¬ReadInPlace (synFrame 0x10).body c.packet := by
  have hReading : (Carrier.plain (.ethernet (synFrame 0x10))).reading =
    (.ipv4, (synFrame 0x10).body) := by decide
  have hStart : tcpStart (synFrame 0x10).body = some 20 := rfl
  obtain ⟨c, hParsed, -, hFields⟩ := parsed_segment Sniffer.ascii [] "" "" hReading
  obtain ⟨-, -, hText⟩ := hFields 20 hStart (by decide)
  refine ⟨c, hParsed, fun h => ?_⟩
  obtain ⟨start, hOther, hPlace⟩ := h.reported (reports_flags hText)
  cases hOther.symm.trans hStart
  exact absurd hPlace.data_offset (by decide)

end Sniff4Hound
