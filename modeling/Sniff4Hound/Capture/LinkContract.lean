import Sniff4Hound.Capture.Frames

/-!
# Frames against the headerless guess

An Ethernet frame is reported under its own addresses exactly when the guess that comes
before the Ethernet header rejects its bytes. The guess looks at bytes that are addresses of
the frame, so that a frame to `60:…` of at least 40 bytes is read as a bare IPv6 packet.

* `frame_reported_iff`: the condition, on the bytes of the frame.
-/

namespace Sniff4Hound

/-- `parse_packet` reports the frame's own link addresses, its EtherType and the network
addresses of the header inside. -/
def ReportsFrame (sn : Sniffer) (flows : List String) (now interface : String)
    (frame : EthernetFrame) : Prop :=
  ∃ c, sn.parse_packet flows ⟨now, interface, frame.bytes⟩ = some c ∧
    c.packet "eth_src" = .str (format_mac frame.src) ∧
    c.packet "eth_dst" = .str (format_mac frame.dst) ∧
    c.packet "eth_type" = .int frame.kind.code ∧
    c.packet "src_ip" = .str (frame.kind.addresses frame.body).1 ∧
    c.packet "dst_ip" = .str (frame.kind.addresses frame.body).2

/-- The frame is taken for a packet without a link header. -/
def GuessedRaw (data : Bytes) : Prop :=
  Sniffer.looks_like_raw_ipv4 data = true ∨ Sniffer.looks_like_raw_ipv6 data = true

/-! ## Addresses as text -/

theorem join_ne_empty {head : String} (separator : String) (rest : List String)
    (h : head ≠ "") : join separator (head :: rest) ≠ "" := by
  cases rest with
  | nil => exact h
  | cons next rest =>
    rw [show join separator (head :: next :: rest) =
      head ++ separator ++ join separator (next :: rest) from rfl]
    intro hEmpty
    have hList := congrArg String.toList hEmpty
    simp only [String.toList_append, String.toList_empty, List.append_eq_nil_iff] at hList
    exact h (String.toList_eq_nil_iff.mp hList.1.1)

theorem hexByte_ne_empty (b : UInt8) : hexByte b ≠ "" := by
  intro hEmpty
  have hList := congrArg String.toList hEmpty
  rw [hexByte, String.toList_ofList] at hList
  cases hList

theorem format_mac_ne_empty {raw : Bytes} (h : raw ≠ []) : format_mac raw ≠ "" := by
  obtain ⟨b, rest, rfl⟩ := List.exists_cons_of_ne_nil h
  exact join_ne_empty ":" _ (hexByte_ne_empty b)

theorem format_mac_src_ne (frame : EthernetFrame) : format_mac frame.src ≠ "" := by
  apply format_mac_ne_empty
  intro hEmpty
  have hLength := frame.length_src
  rw [hEmpty] at hLength
  cases hLength

/-! ## The two readings -/

section Reading

variable (sn : Sniffer) (flows : List String) (now interface : String)

theorem parseEtherType_addresses (c : Capture) (kind : EtherKind) (body : Bytes)
    (hLength : kind.headerLength ≤ body.length) :
    Agree LINK_KEYS c (sn.parseEtherType c kind.code body) ∧
      (sn.parseEtherType c kind.code body).packet "src_ip" = .str (kind.addresses body).1 ∧
      (sn.parseEtherType c kind.code body).packet "dst_ip" = .str (kind.addresses body).2 := by
  cases kind with
  | ipv4 =>
    have hAddresses := Sniffer.parse_ipv4_addresses sn c body hLength
    have hFields : Agree LINK_KEYS c (Sniffer.ipv4Fields c body) := by
      simp (disch := decide) only [Sniffer.ipv4Fields, agree_set, Agree.refl]
    exact ⟨hFields.trans (hAddresses.mono link_subset_address),
      hAddresses "src_ip" (by decide), hAddresses "dst_ip" (by decide)⟩
  | ipv6 =>
    have hAddresses := Sniffer.parse_ipv6_addresses sn c body hLength
    have hFields : Agree LINK_KEYS c (Sniffer.ipv6Fields c body) := by
      simp (disch := decide) only [Sniffer.ipv6Fields, agree_set, Agree.refl]
    exact ⟨hFields.trans (hAddresses.mono link_subset_address),
      hAddresses "src_ip" (by decide), hAddresses "dst_ip" (by decide)⟩
  | arp =>
    have hAddresses := (Sniffer.parse_arp_agree sn c body hLength).mono address_subset_core
    have hFields : Agree LINK_KEYS c (arpFields (c.set "proto" (.str "arp")) body) := by
      simp (disch := decide) only [arpFields, agree_set, Agree.refl]
    exact ⟨hFields.trans (hAddresses.mono link_subset_address),
      hAddresses "src_ip" (by decide), hAddresses "dst_ip" (by decide)⟩

theorem reports_of_not_guessed (frame : EthernetFrame) (hGuess : ¬ GuessedRaw frame.bytes) :
    ReportsFrame sn flows now interface frame := by
  obtain ⟨h4, h6⟩ := not_or.mp hGuess
  have hParsed := parse_packet_ethernet sn flows now interface frame h4 h6
  refine ⟨_, hParsed, ?_⟩
  rw [parseEthernet_bytes]
  generalize hBase : Sniffer.newPacket flows ⟨now, interface, frame.bytes⟩ frame.body
    (format_mac frame.src) (format_mac frame.dst) frame.kind.code = base
  obtain ⟨hLink, hSrc, hDst⟩ :=
    parseEtherType_addresses sn base frame.kind frame.body frame.length_body
  have hLast := Sniffer.finalize_packet_agree sn
    (sn.parseEtherType base frame.kind.code frame.body)
  rw [hLast "eth_src" (by decide), hLast "eth_dst" (by decide), hLast "eth_type" (by decide),
    hLast "src_ip" (by decide), hLast "dst_ip" (by decide), hLink "eth_src" (by decide),
    hLink "eth_dst" (by decide), hLink "eth_type" (by decide), hSrc, hDst, ← hBase]
  exact ⟨rfl, rfl, rfl, rfl, rfl⟩

theorem eth_src_of_guessed {data : Bytes} (hGuess : GuessedRaw data) {c : Capture}
    (hParsed : sn.parse_packet flows ⟨now, interface, data⟩ = some c) :
    c.packet "eth_src" = .str "" := by
  rcases hGuess with h4 | h6
  · rw [parse_packet_raw4 sn flows now interface h4] at hParsed
    obtain rfl := Option.some.inj hParsed
    have hLong : 20 ≤ data.length := by
      simp only [Sniffer.looks_like_raw_ipv4, Bool.and_eq_true, decide_eq_true_eq] at h4
      omega
    rw [Sniffer.finalize_packet_agree sn _ "eth_src" (by decide),
      Sniffer.parse_ipv4_addresses sn _ data hLong "eth_src" (by decide)]
    rfl
  · rw [parse_packet_raw6 sn flows now interface h6] at hParsed
    obtain rfl := Option.some.inj hParsed
    have hLong : 40 ≤ data.length := by
      simp only [Sniffer.looks_like_raw_ipv6, Bool.and_eq_true, decide_eq_true_eq] at h6
      omega
    rw [Sniffer.finalize_packet_agree sn _ "eth_src" (by decide),
      Sniffer.parse_ipv6_addresses sn _ data hLong "eth_src" (by decide)]
    rfl

theorem not_reports_of_guessed (frame : EthernetFrame) (hGuess : GuessedRaw frame.bytes) :
    ¬ ReportsFrame sn flows now interface frame := by
  rintro ⟨c, hParsed, hSrc, -⟩
  have hNone := eth_src_of_guessed sn flows now interface hGuess hParsed
  rw [hSrc] at hNone
  injection hNone with hEmpty
  exact format_mac_src_ne frame hEmpty

/-- A well-formed Ethernet frame is reported as what it is exactly when the guess for
headerless packets rejects its bytes. -/
theorem frame_reported_iff (frame : EthernetFrame) :
    ReportsFrame sn flows now interface frame ↔ ¬ GuessedRaw frame.bytes := by
  constructor
  · intro hReports hGuess
    exact not_reports_of_guessed sn flows now interface frame hGuess hReports
  · exact reports_of_not_guessed sn flows now interface frame

end Reading

/-! ## A frame that is lost -/

/-- An IPv4 packet with six bytes of payload to the address `60:01:02:03:04:05`. -/
def frameTo60 : EthernetFrame where
  dst := [0x60, 1, 2, 3, 4, 5]
  src := [2, 0, 0, 0, 0, 1]
  tags := []
  kind := .ipv4
  body := [0x45, 0, 0, 26, 0, 0, 0, 0, 64, 6, 0, 0, 10, 0, 0, 1, 10, 0, 0, 2, 0, 0, 0, 0, 0, 0]
  length_dst := rfl
  length_src := rfl
  tags_valid := nofun
  length_body := by decide

theorem frame_misread : ¬ ∀ (sn : Sniffer) (flows : List String) (now interface : String)
    (frame : EthernetFrame), ReportsFrame sn flows now interface frame := by
  intro hAll
  exact not_reports_of_guessed Sniffer.ascii [] "" "" frameTo60 (Or.inr (by decide))
    (hAll Sniffer.ascii [] "" "" frameTo60)

end Sniff4Hound
