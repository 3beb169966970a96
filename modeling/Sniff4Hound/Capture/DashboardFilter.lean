import Sniff4Hound.Capture.Fragments

/-!
# The filter of the dashboard's own traffic

`_is_own_dashboard_frame` drops frames before they are parsed, by a reading of its own of the
headers; `_is_own_dashboard_traffic` is the same question asked of a parsed packet. The filter
looks neither at the declared length nor at the length of the transport header, and goes by the
version in the first byte where the parser goes by the EtherType. `dropped_frame_iff` says which
of the dropped frames the parser would have recognised.
-/

namespace Sniff4Hound

namespace Sniffer

/-! ## The two questions -/

def frameBody (payload : Bytes) : Option (Option Nat × Bytes) :=
  if 20 ≤ payload.length ∧ payload.byte 0 / 0x10 = 4 then
    let offset := payload.byte 0 % 0x10 * 4
    -- a later fragment has no transport header
    if offset < 20 ∨ payload.num 6 8 % 0x2000 ≠ 0 then none
    else some (some (payload.byte 9), payload.drop offset)
  else if 40 ≤ payload.length ∧ payload.byte 0 / 0x10 = 6 then
    some ((unwrap_ipv6_transport payload).1, (unwrap_ipv6_transport payload).2.1)
  else none

def linkPacket (data : Bytes) : Option (EtherKind × Bytes) :=
  let (eth_type, offset) := stripVlan data data.length (data.num 12 14) 14
  if data.length < 14 then none
  else if eth_type = ETHERTYPE_IPV4 then some (.ipv4, data.drop offset)
  else if eth_type = ETHERTYPE_IPV6 then some (.ipv6, data.drop offset)
  else none

def usesDashboard (dashboard_port : Int) (body : Bytes) : Bool :=
  dashboard_port = body.num 0 2 || dashboard_port = body.num 2 4

def is_own_dashboard_frame (dashboard_port : Int) (data : Bytes) : Bool :=
  let payload := if looks_like_raw_ipv4 data || looks_like_raw_ipv6 data then some data
    else (linkPacket data).map Prod.snd
  match payload.bind frameBody with
  | some (proto, body) => (proto = some IP_PROTO_TCP || proto = some IP_PROTO_UDP) &&
      4 ≤ body.length && usesDashboard dashboard_port body
  | none => false

def is_own_dashboard_traffic (sn : Sniffer) (dashboard_port : Int) (c : Capture) : Bool :=
  sn.lower ((c.packet "transport").text sn.toRuntime) ∈ ["tcp", "udp"] &&
    (dashboard_port = (c.packet "src_port").safe_int sn.toRuntime 0 ||
      dashboard_port = (c.packet "dst_port").safe_int sn.toRuntime 0)

end Sniffer

/-! ## What the parser makes of a body -/

def segmentOf (proto : Option Nat) (body : Bytes) : Option (Nat × Bytes) :=
  if proto = some IP_PROTO_TCP then some (20, body)
  else if proto = some IP_PROTO_UDP then some (8, body)
  else if proto = some IP_PROTO_IPV6_AH ∧ 12 ≤ body.length then
    if body.byte 0 = IP_PROTO_TCP then some (20, ahInner body)
    else if body.byte 0 = IP_PROTO_UDP then some (8, ahInner body)
    else none
  else none

variable {proto : Option Nat}

theorem segmentOf_other (body : Bytes) (hTcp : proto ≠ some IP_PROTO_TCP)
    (hUdp : proto ≠ some IP_PROTO_UDP) (hAh : proto ≠ some IP_PROTO_IPV6_AH) :
    segmentOf proto body = none := by
  rw [segmentOf, if_neg hTcp, if_neg hUdp, if_neg fun h => hAh h.1]

def RecognisedSegment (dashboard_port : Int) : Option (Nat × Bytes) → Prop
  | some (header, body) =>
    if header ≤ body.length then Sniffer.usesDashboard dashboard_port body = true
    else dashboard_port = 0
  | none => False

instance (dashboard_port : Int) :
    ∀ segment, Decidable (RecognisedSegment dashboard_port segment)
  | some (header, body) => inferInstanceAs (Decidable (if header ≤ body.length then
      Sniffer.usesDashboard dashboard_port body = true else dashboard_port = 0))
  | none => inferInstanceAs (Decidable False)

/-- The packet carries a segment that is recognised as traffic of the dashboard. -/
def RecognisedPacket (dashboard_port : Int) (kind : EtherKind) (packet : Bytes) : Prop :=
  kind.headerLength ≤ packet.length ∧ RecognisedSegment dashboard_port
    (segmentOf (dispatched kind packet).1 (dispatched kind packet).2)

section Traffic

variable {sn : Sniffer} {c : Capture} {dashboard_port : Int}

theorem traffic_iff {transport : String} {src_port dst_port : Int}
    (hTransport : c.packet "transport" = .str transport)
    (hSrc : c.packet "src_port" = .int src_port) (hDst : c.packet "dst_port" = .int dst_port) :
    sn.is_own_dashboard_traffic dashboard_port c = true ↔
      (sn.lower transport = "tcp" ∨ sn.lower transport = "udp") ∧
        (dashboard_port = src_port ∨ dashboard_port = dst_port) := by
  rw [Sniffer.is_own_dashboard_traffic, hTransport, hSrc, hDst, text_str]
  simp only [Bool.and_eq_true, Bool.or_eq_true, decide_eq_true_eq, List.mem_cons,
    List.not_mem_nil, or_false]
  exact Iff.rfl

theorem lower_name (hLower : sn.toRuntime.LowersAscii) {name : String}
    (hAscii : (name.toList.all fun c => decide (c.toNat < 128)) = true) :
    sn.lower name = String.ofList (name.toList.map Char.toLower) := by
  apply hLower
  intro c hc
  exact of_decide_eq_true (List.all_eq_true.mp hAscii c hc)

theorem not_traffic_blank (hTransport : c.packet "transport" = .str "") :
    sn.is_own_dashboard_traffic dashboard_port c ≠ true := by
  have hEmpty : sn.lower "" = "" := (sn.lower_eq_empty "").mpr rfl
  rw [Sniffer.is_own_dashboard_traffic, hTransport, text_str, hEmpty]
  exact Bool.false_ne_true

variable {c' : Capture}

theorem traffic_congr (hAgree : Agree ["transport", "src_port", "dst_port"] c c') :
    sn.is_own_dashboard_traffic dashboard_port c' =
      sn.is_own_dashboard_traffic dashboard_port c := by
  rw [Sniffer.is_own_dashboard_traffic, Sniffer.is_own_dashboard_traffic,
    hAgree "transport" (by decide), hAgree "src_port" (by decide), hAgree "dst_port" (by decide)]

theorem ports_subset_unread : ["transport", "src_port", "dst_port"] ⊆ UNREAD_KEYS := by decide

variable (hLower : sn.toRuntime.LowersAscii) (hBlank : Blank c) (body : Bytes) (ip_version : Nat)
include hLower

theorem traffic_named_iff {src_port dst_port : Int}
    (hTransport : c'.packet "transport" = .str "tcp" ∨ c'.packet "transport" = .str "udp")
    (hSrc : c'.packet "src_port" = .int src_port) (hDst : c'.packet "dst_port" = .int dst_port) :
    sn.is_own_dashboard_traffic dashboard_port c' = true ↔
      dashboard_port = src_port ∨ dashboard_port = dst_port := by
  have hTcp : sn.lower "tcp" = "tcp" := lower_name hLower (by decide)
  have hUdp : sn.lower "udp" = "udp" := lower_name hLower (by decide)
  rcases hTransport with hTransport | hTransport
  · rw [traffic_iff hTransport hSrc hDst]
    exact ⟨And.right, fun h => ⟨Or.inl hTcp, h⟩⟩
  · rw [traffic_iff hTransport hSrc hDst]
    exact ⟨And.right, fun h => ⟨Or.inr hUdp, h⟩⟩

theorem traffic_segment_iff {header : Nat}
    (hTransport : c'.packet "transport" = .str "tcp" ∨ c'.packet "transport" = .str "udp")
    (hLong : header ≤ body.length → c'.packet "src_port" = .int (body.num 0 2) ∧
      c'.packet "dst_port" = .int (body.num 2 4))
    (hShort : body.length < header → c'.packet "src_port" = .int 0 ∧
      c'.packet "dst_port" = .int 0) :
    sn.is_own_dashboard_traffic dashboard_port c' = true ↔
      RecognisedSegment dashboard_port (some (header, body)) := by
  rw [RecognisedSegment]
  split
  · rename_i h
    rw [traffic_named_iff hLower hTransport (hLong h).1 (hLong h).2, Sniffer.usesDashboard,
      Bool.or_eq_true, decide_eq_true_eq, decide_eq_true_eq]
  · rename_i h
    have hPorts := hShort (Nat.lt_of_not_le h)
    rw [traffic_named_iff hLower hTransport hPorts.1 hPorts.2, or_self]

include hBlank

theorem traffic_tcp_iff :
    sn.is_own_dashboard_traffic dashboard_port (sn.parse_tcp c body ip_version) = true ↔
      RecognisedSegment dashboard_port (some (20, body)) := by
  have hLong := parse_tcp_agree sn c body ip_version
  have hShort := parse_tcp_short_agree sn c body ip_version
  apply traffic_segment_iff hLower body
  · rcases Nat.lt_or_ge body.length 20 with h | h
    · exact Or.inl (hShort h "transport" (by decide))
    · exact Or.inl (hLong h "transport" (by decide))
  · exact fun h => ⟨hLong h "src_port" (by decide), hLong h "dst_port" (by decide)⟩
  · exact fun h => ⟨(hShort h "src_port" (by decide)).trans hBlank.src_port,
      (hShort h "dst_port" (by decide)).trans hBlank.dst_port⟩

theorem traffic_udp_iff :
    sn.is_own_dashboard_traffic dashboard_port (sn.parse_udp c body ip_version) = true ↔
      RecognisedSegment dashboard_port (some (8, body)) := by
  have hLong := parse_udp_agree sn c body ip_version
  have hShort := parse_udp_short_agree sn c body ip_version
  apply traffic_segment_iff hLower body
  · rcases Nat.lt_or_ge body.length 8 with h | h
    · exact Or.inr (hShort h "transport" (by decide))
    · exact Or.inr (hLong h "transport" (by decide))
  · exact fun h => ⟨hLong h "src_port" (by decide), hLong h "dst_port" (by decide)⟩
  · exact fun h => ⟨(hShort h "src_port" (by decide)).trans hBlank.src_port,
      (hShort h "dst_port" (by decide)).trans hBlank.dst_port⟩

theorem not_traffic_sctp :
    sn.is_own_dashboard_traffic dashboard_port (sn.parse_sctp c body ip_version) ≠ true := by
  by_cases hShort : body.length < 12
  · have hSctp : sn.lower "sctp" = "sctp" := lower_name hLower (by decide)
    have hAgree := shortBody_agree sn
      ((c.set "proto" (.str "sctp")).set "transport" (.str "sctp")) "SCTP packet" body
    rw [Sniffer.parse_sctp, if_pos hShort, Ne, traffic_iff (hAgree "transport" (by decide))
      ((hAgree "src_port" (by decide)).trans hBlank.src_port)
      ((hAgree "dst_port" (by decide)).trans hBlank.dst_port), hSctp]
    rintro ⟨hTcp | hUdp, -⟩
    · exact absurd hTcp (by decide)
    · exact absurd hUdp (by decide)
  · have hAgree := Sniffer.parse_sctp_unread sn c body ip_version (by omega)
    exact not_traffic_blank ((hAgree "transport" (by decide)).trans hBlank.transport)

theorem traffic_ah_iff :
    sn.is_own_dashboard_traffic dashboard_port (sn.parse_ah c body ip_version) = true ↔
      RecognisedSegment dashboard_port (segmentOf (some IP_PROTO_IPV6_AH) body) := by
  rw [segmentOf, if_neg (by decide), if_neg (by decide)]
  by_cases hShort : body.length < 12
  · have hUnread := (unread_ah_iff sn body ip_version hBlank).mpr
      fun hLong => absurd hLong (by omega)
    rw [if_neg fun h => absurd h.2 (by omega)]
    exact iff_of_false (not_traffic_blank hUnread.transport) id
  rw [if_pos ⟨rfl, by omega⟩]
  have hSummary : sn.is_own_dashboard_traffic dashboard_port (sn.parse_ah c body ip_version) =
      sn.is_own_dashboard_traffic dashboard_port (sn.parseAhInner c body ip_version) := by
    rw [Sniffer.parse_ah, if_neg hShort]
    exact traffic_congr ((agree_summarize _ (by decide) (by decide)).mpr (Agree.refl _ _))
  rw [hSummary]
  by_cases hTcp : body.byte 0 = IP_PROTO_TCP
  · rw [if_pos hTcp, Sniffer.parseAhInner, if_pos hTcp]
    exact traffic_tcp_iff hLower hBlank _ ip_version
  by_cases hUdp : body.byte 0 = IP_PROTO_UDP
  · rw [if_neg hTcp, if_pos hUdp, Sniffer.parseAhInner, if_neg hTcp, if_pos hUdp]
    exact traffic_udp_iff hLower hBlank _ ip_version
  · have hUnread := (unread_ahInner_iff sn body ip_version hBlank).mpr ⟨hTcp, hUdp⟩
    rw [if_neg hTcp, if_neg hUdp]
    exact iff_of_false (not_traffic_blank hUnread.transport) id

theorem traffic_carried_iff {proto : Option Nat} (h : sn.Carried c body ip_version proto c') :
    sn.is_own_dashboard_traffic dashboard_port c' = true ↔
      RecognisedSegment dashboard_port (segmentOf proto body) := by
  have hQuiet := unread_carried_iff sn body ip_version hBlank h
  cases h with
  | tcp hTcp =>
    rw [hTcp, segmentOf, if_pos rfl]
    exact traffic_tcp_iff hLower hBlank body ip_version
  | udp hUdp =>
    rw [hUdp, segmentOf, if_neg (by decide), if_pos rfl]
    exact traffic_udp_iff hLower hBlank body ip_version
  | sctp hSctp =>
    rw [hSctp, segmentOf_other body (by decide) (by decide) (by decide)]
    exact iff_of_false (not_traffic_sctp hLower hBlank body ip_version) id
  | ah hAh =>
    rw [hAh]
    exact traffic_ah_iff hLower hBlank body ip_version
  | plain hTcp hUdp hSctp hAh =>
    rw [segmentOf_other body hTcp hUdp hAh]
    exact iff_of_false (not_traffic_blank (hQuiet.mpr ⟨hTcp, hUdp, fun hSome => absurd hSome hSctp,
      fun hSome => absurd hSome hAh⟩).transport) id

theorem traffic_network_iff {kind : EtherKind} {packet : Bytes} (hKind : kind ≠ .arp) :
    sn.is_own_dashboard_traffic dashboard_port
        (sn.finalize_packet (sn.parseNetwork c kind packet)) = true ↔
      RecognisedPacket dashboard_port kind packet := by
  rw [RecognisedPacket, traffic_congr ((Sniffer.finalize_packet_unread sn _).mono ports_subset_unread)]
  cases kind with
  | arp => exact absurd rfl hKind
  | ipv4 =>
    have hFields : Blank (Sniffer.ipv4Fields c packet) := ⟨hBlank.proto, hBlank.transport,
      hBlank.src_port, hBlank.dst_port, hBlank.tcp_flags, hBlank.domain⟩
    rw [Sniffer.parseNetwork, Sniffer.parse_ipv4]
    split
    · rename_i hShort
      have hAgree := shortBody_agree sn c "IPv4 packet" packet
      refine iff_of_false ?_ fun h => absurd h.1 (not_le.mpr hShort)
      exact not_traffic_blank ((hAgree "transport" (by decide)).trans hBlank.transport)
    · rename_i hLong
      rw [traffic_congr ((Sniffer.summaryOrFallback_unread sn _).mono ports_subset_unread),
        traffic_carried_iff hLower hFields _ _ (sn.carried_ipv4 _ _ _)]
      exact ⟨fun h => ⟨not_lt.mp hLong, h⟩, And.right⟩
  | ipv6 =>
    have hFields : Blank (Sniffer.ipv6Fields c packet) := ⟨hBlank.proto, hBlank.transport,
      hBlank.src_port, hBlank.dst_port, hBlank.tcp_flags, hBlank.domain⟩
    rw [Sniffer.parseNetwork, Sniffer.parse_ipv6]
    split
    · rename_i hShort
      have hAgree := shortBody_agree sn c "IPv6 packet" packet
      refine iff_of_false ?_ fun h => absurd h.1 (not_le.mpr hShort)
      exact not_traffic_blank ((hAgree "transport" (by decide)).trans hBlank.transport)
    · rename_i hLong
      dsimp only
      rw [traffic_congr ((Sniffer.summaryOrFallback_unread sn _).mono ports_subset_unread),
        traffic_carried_iff hLower hFields _ _ (sn.carried_ipv6 _ _ _ _)]
      exact ⟨fun h => ⟨not_lt.mp hLong, h⟩, And.right⟩

end Traffic

/-! ## Dropped frames -/

def readingOf (data : Bytes) : Option (EtherKind × Bytes) :=
  if Sniffer.looks_like_raw_ipv4 data = true then some (.ipv4, data)
  else if Sniffer.looks_like_raw_ipv6 data = true then some (.ipv6, data)
  else Sniffer.linkPacket data

variable {data packet : Bytes} {kind : EtherKind}

theorem linkPacket_eq_some (h : Sniffer.linkPacket data = some (kind, packet)) :
    kind ≠ .arp ∧ 14 ≤ data.length ∧
      (Sniffer.stripVlan data data.length (data.num 12 14) 14).1 = kind.code ∧
      packet = data.drop (Sniffer.stripVlan data data.length (data.num 12 14) 14).2 := by
  rw [Sniffer.linkPacket] at h
  dsimp only at h
  split at h
  · exact absurd h nofun
  rename_i hLong
  split at h
  · rename_i hType
    cases h
    exact ⟨nofun, not_lt.mp hLong, hType, rfl⟩
  split at h
  · rename_i hType
    cases h
    exact ⟨nofun, not_lt.mp hLong, hType, rfl⟩
  · exact absurd h nofun

theorem parse_packet_readingOf (sn : Sniffer) (flows : List String) (now interface : String)
    (h : readingOf data = some (kind, packet)) :
    kind ≠ .arp ∧ ∃ base, Blank base ∧ sn.parse_packet flows ⟨now, interface, data⟩ =
      some (sn.finalize_packet (sn.parseNetwork base kind packet)) := by
  rw [readingOf] at h
  split at h
  · rename_i h4
    cases h
    exact ⟨nofun, _, blank_newPacket _ _ _ _ _ _, parse_packet_raw4 sn flows now interface h4⟩
  rename_i h4
  split at h
  · rename_i h6
    cases h
    exact ⟨nofun, _, blank_newPacket _ _ _ _ _ _, parse_packet_raw6 sn flows now interface h6⟩
  rename_i h6
  obtain ⟨hKind, hLong, hType, hPacket⟩ := linkPacket_eq_some h
  refine ⟨hKind, Sniffer.newPacket flows ⟨now, interface, data⟩ packet
    (format_mac (data.slice 6 12)) (format_mac (data.slice 0 6)) kind.code,
    blank_newPacket _ _ _ _ _ _, ?_⟩
  have hData : data ≠ [] := by
    rintro rfl
    exact absurd hLong (by decide)
  rw [Sniffer.parse_packet]
  dsimp only
  rw [if_neg hData, if_neg h4, if_neg h6, if_neg (not_lt.mpr hLong), Sniffer.parseEthernet]
  dsimp only
  rw [hType, ← hPacket, Sniffer.parseEtherType_code]

variable {dashboard_port : Int}

theorem eq_of_dropped (h : Sniffer.is_own_dashboard_frame dashboard_port data = true) :
    ∃ kind packet proto body, readingOf data = some (kind, packet) ∧
      Sniffer.frameBody packet = some (proto, body) ∧
      (proto = some IP_PROTO_TCP ∨ proto = some IP_PROTO_UDP) ∧ 4 ≤ body.length ∧
      Sniffer.usesDashboard dashboard_port body = true := by
  have hPayload : (if (Sniffer.looks_like_raw_ipv4 data || Sniffer.looks_like_raw_ipv6 data) = true
      then some data else (Sniffer.linkPacket data).map Prod.snd) =
        (readingOf data).map Prod.snd := by
    rw [readingOf]
    cases Sniffer.looks_like_raw_ipv4 data <;> cases Sniffer.looks_like_raw_ipv6 data <;> rfl
  rw [Sniffer.is_own_dashboard_frame, hPayload] at h
  cases hReading : readingOf data with
  | none =>
    rw [hReading] at h
    exact absurd h Bool.false_ne_true
  | some reading =>
    rw [hReading, Option.map_some, Option.bind_some] at h
    cases hBody : Sniffer.frameBody reading.2 with
    | none =>
      rw [hBody] at h
      exact absurd h Bool.false_ne_true
    | some found =>
      rw [hBody] at h
      simp only [Bool.and_eq_true, Bool.or_eq_true, decide_eq_true_eq] at h
      exact ⟨reading.1, reading.2, found.1, found.2, rfl, hBody, h.1.1, h.1.2, h.2⟩

def EtherKind.version : EtherKind → Nat
  | ipv4 => 4
  | ipv6 => 6
  | arp => 0

theorem ipv4Body_prefix (packet : Bytes) :
    Sniffer.ipv4Body packet <+: packet.drop (packet.byte 0 % 0x10 * 4) := by
  rw [Sniffer.ipv4Body]
  split
  · exact List.take_prefix _ _
  · exact List.prefix_rfl

variable {body : Bytes}

/-- Where filter and parser go by the same version, the parser's segment begins the filter's
body. -/
theorem dispatched_of_frameBody (hKind : kind ≠ .arp)
    (hVersion : packet.byte 0 / 0x10 = kind.version)
    (hBody : Sniffer.frameBody packet = some (proto, body)) :
    kind.headerLength ≤ packet.length ∧ (dispatched kind packet).1 = proto ∧
      (dispatched kind packet).2 <+: body := by
  rw [Sniffer.frameBody] at hBody
  cases kind with
  | arp => exact absurd rfl hKind
  | ipv4 =>
    have hVersion : packet.byte 0 / 0x10 = 4 := hVersion
    split at hBody
    · rename_i h4
      dsimp only at hBody
      split at hBody
      · exact absurd hBody nofun
      · cases hBody
        exact ⟨h4.1, rfl, ipv4Body_prefix packet⟩
    split at hBody
    · rename_i h6
      exact absurd (hVersion.symm.trans h6.2) (by decide)
    · exact absurd hBody nofun
  | ipv6 =>
    have hVersion : packet.byte 0 / 0x10 = 6 := hVersion
    split at hBody
    · rename_i h4
      exact absurd (hVersion.symm.trans h4.2) (by decide)
    split at hBody
    · rename_i h6
      cases hBody
      exact ⟨h6.1, rfl, List.prefix_rfl⟩
    · exact absurd hBody nofun

theorem usesDashboard_extend {segment : Bytes} (hPrefix : segment <+: body)
    (hLong : 4 ≤ segment.length) :
    Sniffer.usesDashboard dashboard_port segment = Sniffer.usesDashboard dashboard_port body := by
  obtain ⟨rest, rfl⟩ := hPrefix
  rw [Sniffer.usesDashboard, Sniffer.usesDashboard, num_append_left _ _ (by omega),
    num_append_left _ _ hLong]

theorem recognised_of_dropped {segment : Bytes}
    (hProto : proto = some IP_PROTO_TCP ∨ proto = some IP_PROTO_UDP) (hPrefix : segment <+: body)
    (hUses : Sniffer.usesDashboard dashboard_port body = true) :
    RecognisedSegment dashboard_port (segmentOf proto segment) ↔
      ∃ header body, segmentOf proto segment = some (header, body) ∧
        (header ≤ body.length ∨ dashboard_port = 0) := by
  have hHeader : ∃ header, 4 ≤ header ∧ segmentOf proto segment = some (header, segment) := by
    rcases hProto with rfl | rfl
    · exact ⟨20, by decide, rfl⟩
    · exact ⟨8, by decide, rfl⟩
  obtain ⟨header, hFour, hSegment⟩ := hHeader
  rw [hSegment, RecognisedSegment]
  split
  · rename_i hLong
    refine iff_of_true ?_ ⟨header, segment, rfl, Or.inl hLong⟩
    rw [usesDashboard_extend hPrefix (hFour.trans hLong)]
    exact hUses
  · rename_i hShort
    constructor
    · intro hZero
      exact ⟨header, segment, rfl, Or.inr hZero⟩
    · rintro ⟨_, _, hSome, hLong | hZero⟩
      · cases hSome
        exact absurd hLong hShort
      · exact hZero

/-- A dropped frame is dashboard traffic to the parser just when its packet is recognised; where
the two go by the same version, when the header of its segment is not cut short. -/
theorem dropped_frame_iff (sn : Sniffer) (hLower : sn.toRuntime.LowersAscii) (flows : List String)
    (now interface : String) (dashboard_port : Int) (data : Bytes)
    (hDropped : Sniffer.is_own_dashboard_frame dashboard_port data = true) :
    ∃ kind packet, readingOf data = some (kind, packet) ∧
      ((∃ c, sn.parse_packet flows ⟨now, interface, data⟩ = some c ∧
          sn.is_own_dashboard_traffic dashboard_port c = true) ↔
        RecognisedPacket dashboard_port kind packet) ∧
      (packet.byte 0 / 0x10 = kind.version → (RecognisedPacket dashboard_port kind packet ↔
        ∃ header body, segmentOf (dispatched kind packet).1 (dispatched kind packet).2 =
          some (header, body) ∧ (header ≤ body.length ∨ dashboard_port = 0))) := by
  obtain ⟨kind, packet, proto, body, hReading, hBody, hProto, -, hUses⟩ := eq_of_dropped hDropped
  obtain ⟨hKind, base, hBlank, hParsed⟩ :=
    parse_packet_readingOf sn flows now interface hReading
  refine ⟨kind, packet, hReading, ?_, ?_⟩
  · rw [← traffic_network_iff hLower hBlank hKind, hParsed]
    constructor
    · rintro ⟨c, hSome, hTraffic⟩
      cases hSome
      exact hTraffic
    · intro hTraffic
      exact ⟨_, rfl, hTraffic⟩
  · intro hVersion
    obtain ⟨hLong, hSame, hPrefix⟩ := dispatched_of_frameBody hKind hVersion hBody
    rw [RecognisedPacket, hSame, ← recognised_of_dropped hProto hPrefix hUses]
    exact and_iff_right hLong

/-- An Ethernet frame with an IPv4 packet to port 45678 that declares `total_length` bytes. -/
def dashboardFrame (total_length : UInt8) : Bytes :=
  [2, 0, 0, 0, 0, 2, 2, 0, 0, 0, 0, 1, 0x08, 0x00] ++
    ([0x45, 0, 0, total_length, 0, 7, 0, 0, 64, 6, 0, 0, 10, 0, 0, 1, 10, 0, 0, 2] ++
      [0x30, 0x39, 0xB2, 0x6E, 0, 0, 0, 0, 0, 0, 0, 0, 0x50, 0x02, 0, 0, 0, 0, 0, 0])

theorem dropped_frame_whole : ∃ kind packet,
    readingOf (dashboardFrame 40) = some (kind, packet) ∧
      ∃ c, Sniffer.ascii.parse_packet [] ⟨"", "", dashboardFrame 40⟩ = some c ∧
        Sniffer.ascii.is_own_dashboard_traffic 45678 c = true := by
  obtain ⟨kind, packet, hReading, hTraffic, hVersion⟩ := dropped_frame_iff Sniffer.ascii
    Runtime.lowersAscii_ascii [] "" "" 45678 (dashboardFrame 40) (by decide)
  refine ⟨kind, packet, hReading, hTraffic.mpr ?_⟩
  have hPacket : readingOf (dashboardFrame 40) = some (.ipv4, (dashboardFrame 40).drop 14) := by
    decide
  rw [hPacket] at hReading
  cases hReading
  exact (hVersion rfl).mpr ⟨20, _, rfl, Or.inl (by decide)⟩

/-- A frame whose packet ends after four bytes of TCP is dropped; the parser reads no port from
it. -/
theorem dropped_frame_lost : ¬∀ (sn : Sniffer) (flows : List String) (now interface : String)
    (dashboard_port : Int) (data : Bytes),
    Sniffer.is_own_dashboard_frame dashboard_port data = true →
      ∃ c, sn.parse_packet flows ⟨now, interface, data⟩ = some c ∧
        sn.is_own_dashboard_traffic dashboard_port c = true := by
  intro hAll
  obtain ⟨c, hSome, hTraffic⟩ := hAll Sniffer.ascii [] "" "" 45678 (dashboardFrame 24) (by decide)
  have hPacket : readingOf (dashboardFrame 24) = some (.ipv4, (dashboardFrame 24).drop 14) := by
    decide
  obtain ⟨hKind, base, hBlank, hParsed⟩ :=
    parse_packet_readingOf Sniffer.ascii [] "" "" hPacket
  rw [hParsed] at hSome
  cases hSome
  exact absurd ((traffic_network_iff Runtime.lowersAscii_ascii hBlank hKind).mp hTraffic).2
    (by decide)

end Sniff4Hound
