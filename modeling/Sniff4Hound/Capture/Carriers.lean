import Sniff4Hound.Capture.Segments

/-!
# How packets come in frames

A network packet is captured bare, behind an Ethernet header with any number of VLAN tags, or
behind an 802.3 header with LLC and SNAP. `parse_packet` finds it behind any of these, unless it
takes the bytes for a bare packet that they are not; in both cases it hands one packet to the
parser of one network protocol (`parse_packet_reading`).
-/

namespace Sniff4Hound

/-! ## SNAP frames -/

def LLC_SNAP : Bytes := [0xAA, 0xAA, 0x03]

structure SnapFrame where
  dst : Bytes
  src : Bytes
  tags : List Bytes
  declared : Bytes
  oui : Bytes
  kind : EtherKind
  body : Bytes
  length_dst : dst.length = 6
  length_src : src.length = 6
  tags_valid : ∀ tag ∈ tags, IsVlanTag tag
  length_declared : declared.length = 2
  declared_valid : Bytes.big declared ≤ ETHERNET_MAX_PAYLOAD_LENGTH
  length_oui : oui.length = 3
  length_body : kind.headerLength ≤ body.length

namespace SnapFrame

def llc (frame : SnapFrame) : Bytes := LLC_SNAP ++ (frame.oui ++ (frame.kind.bytes ++ frame.body))

def bytes (frame : SnapFrame) : Bytes :=
  (frame.dst ++ frame.src) ++ (frame.tags.flatten ++ (frame.declared ++ frame.llc))

variable (frame : SnapFrame)

theorem length_llc : frame.llc.length = 8 + frame.body.length := by
  simp only [llc, LLC_SNAP, List.length_append, frame.length_oui, frame.kind.length_bytes,
    List.length_cons, List.length_nil]
  omega

theorem length_front : (frame.dst ++ frame.src).length = 12 := by
  rw [List.length_append, frame.length_dst, frame.length_src]

theorem length_bytes : frame.bytes.length = 14 + frame.tags.flatten.length + frame.llc.length := by
  rw [bytes, List.length_append, frame.length_front, List.length_append, List.length_append,
    frame.length_declared]
  omega

theorem declared_not_vlan : Bytes.big frame.declared ∉ ETHERTYPE_VLAN := by
  have hValid := frame.declared_valid
  intro hMem
  simp only [ETHERTYPE_VLAN, List.mem_cons, List.not_mem_nil, or_false] at hMem
  rw [ETHERNET_MAX_PAYLOAD_LENGTH] at hValid
  omega

theorem num_llc : frame.llc.num 6 8 = frame.kind.code := by
  have hNum := num_append (LLC_SNAP ++ frame.oui) (frame.kind.bytes ++ frame.body) 2
  have hLength : (LLC_SNAP ++ frame.oui).length = 6 := by
    rw [List.length_append, frame.length_oui]
    rfl
  rw [hLength, List.append_assoc] at hNum
  rw [llc, hNum, ← frame.kind.length_bytes, List.take_left, frame.kind.big_bytes]

theorem slice_oui : frame.llc.slice 3 6 = frame.oui := by
  have hSlice := slice_append LLC_SNAP (frame.oui ++ (frame.kind.bytes ++ frame.body)) 3
  rw [← frame.length_oui, List.take_left, frame.length_oui] at hSlice
  exact hSlice

theorem slice_dst : frame.bytes.slice 0 6 = frame.dst := by
  rw [bytes, List.append_assoc, Bytes.slice, List.drop_zero, ← frame.length_dst]
  exact List.take_left

theorem slice_src : frame.bytes.slice 6 12 = frame.src := by
  have hSlice := slice_append frame.dst
    (frame.src ++ (frame.tags.flatten ++ (frame.declared ++ frame.llc))) 6
  rw [frame.length_dst] at hSlice
  rw [bytes, List.append_assoc, hSlice, ← frame.length_src]
  exact List.take_left

def fields (frame : SnapFrame) (c : Capture) : Capture :=
  let c := c.set "llc_length" (.int (Bytes.big frame.declared))
  let c := c.set "llc_dsap" (.int 0xAA)
  let c := c.set "llc_ssap" (.int 0xAA)
  let c := c.set "llc_control" (.int 0x03)
  let c := c.set "llc_snap_oui" (.str (format_mac frame.oui))
  let c := c.set "llc_snap_ethertype" (.int frame.kind.code)
  c.set "eth_type" (.int frame.kind.code)

theorem drop_llc : frame.llc.drop 8 = frame.body := by
  have hLength : (LLC_SNAP ++ frame.oui ++ frame.kind.bytes).length = 8 := by
    rw [List.length_append, List.length_append, frame.length_oui, frame.kind.length_bytes]
    rfl
  rw [llc, ← List.append_assoc, ← List.append_assoc, ← hLength]
  exact List.drop_left

end SnapFrame

/-! ## The packet that is read -/

/-- A frame, with a SNAP header or without. -/
inductive Carrier where
  | plain (frame : Frame)
  | snap (frame : SnapFrame)

namespace Carrier

def bytes : Carrier → Bytes
  | plain frame => frame.bytes
  | snap frame => frame.bytes

def kind : Carrier → EtherKind
  | plain frame => frame.kind
  | snap frame => frame.kind

def packet : Carrier → Bytes
  | plain frame => frame.packet
  | snap frame => frame.body

/-- The network protocol and the packet that the parser goes by: what is sent, or all the bytes
when they look like a bare packet. -/
def reading (carrier : Carrier) : EtherKind × Bytes :=
  if Sniffer.looks_like_raw_ipv4 carrier.bytes = true then (.ipv4, carrier.bytes)
  else if Sniffer.looks_like_raw_ipv6 carrier.bytes = true then (.ipv6, carrier.bytes)
  else (carrier.kind, carrier.packet)

end Carrier

namespace Sniffer

def parseNetwork (sn : Sniffer) (c : Capture) : EtherKind → Bytes → Capture
  | .ipv4, packet => sn.parse_ipv4 c packet
  | .ipv6, packet => sn.parse_ipv6 c packet
  | .arp, packet => sn.parse_arp c packet

theorem parseEtherType_code (sn : Sniffer) (c : Capture) (kind : EtherKind) (packet : Bytes) :
    sn.parseEtherType c kind.code packet = sn.parseNetwork c kind packet := by
  cases kind with
  | ipv4 => exact if_pos rfl
  | ipv6 => exact (if_neg (by decide)).trans (if_pos rfl)
  | arp => exact (if_neg (by decide)).trans ((if_neg (by decide)).trans (if_pos rfl))

end Sniffer

structure Blank (c : Capture) : Prop where
  proto : c.packet "proto" = .str "unknown"
  transport : c.packet "transport" = .str ""
  src_port : c.packet "src_port" = .int 0
  dst_port : c.packet "dst_port" = .int 0
  tcp_flags : c.packet "tcp_flags" = .str ""
  domain : c.packet "domain" = .str ""

theorem blank_newPacket (flows : List String) (captured : Sniffer.Captured) (payload : Bytes)
    (eth_src eth_dst : String) (eth_type : Nat) :
    Blank (Sniffer.newPacket flows captured payload eth_src eth_dst eth_type) :=
  ⟨rfl, rfl, rfl, rfl, rfl, rfl⟩

section Reading

variable (sn : Sniffer) (flows : List String) (now interface : String)

theorem parseEtherType_llc (c : Capture) (frame : SnapFrame) :
    sn.parseEtherType c (Bytes.big frame.declared) frame.llc =
      sn.parseNetwork (frame.fields c) frame.kind frame.body := by
  have hBound : Bytes.big frame.declared ≤ 1500 := frame.declared_valid
  have hLength := frame.length_llc
  have hShort : ¬frame.llc.length < 3 := by omega
  have hStp : sn.is_stp_bpdu c frame.llc = false := by
    rw [Sniffer.is_stp_bpdu, Bool.and_eq_false_iff]
    refine Or.inr (decide_eq_false ?_)
    rintro ⟨rest, hRest⟩
    cases hRest
  have hType : ∀ code : Nat, 1500 < code → Bytes.big frame.declared ≠ code := by
    intro code hCode
    omega
  have hSnap : ∀ c, sn.parseSnap c frame.llc = sn.parseNetwork
      (((c.set "llc_snap_oui" (.str (format_mac frame.oui))).set "llc_snap_ethertype"
        (.int frame.kind.code)).set "eth_type" (.int frame.kind.code)) frame.kind frame.body := by
    intro c
    unfold Sniffer.parseSnap
    dsimp only
    rw [frame.num_llc, frame.drop_llc, frame.slice_oui]
    cases frame.kind with
    | ipv4 => exact if_pos rfl
    | ipv6 => exact (if_neg (by decide)).trans (if_pos rfl)
    | arp => exact (if_neg (by decide)).trans ((if_neg (by decide)).trans (if_pos rfl))
  rw [Sniffer.parseEtherType, if_neg (hType _ (by decide)), if_neg (hType _ (by decide)),
    if_neg (hType _ (by decide)), hStp, if_neg Bool.false_ne_true, if_pos frame.declared_valid]
  unfold Sniffer.parse_llc
  dsimp only
  rw [if_neg hShort]
  refine (if_pos ⟨rfl, rfl, rfl, by omega⟩).trans ?_
  exact hSnap _

def SnapFrame.base (frame : SnapFrame) : Capture :=
  frame.fields (Sniffer.newPacket flows ⟨now, interface, frame.bytes⟩ frame.llc
    (format_mac frame.src) (format_mac frame.dst) (Bytes.big frame.declared))

theorem parseEthernet_snap (frame : SnapFrame) :
    sn.parseEthernet flows ⟨now, interface, frame.bytes⟩ = sn.finalize_packet
      (sn.parseNetwork (frame.base flows now interface) frame.kind frame.body) := by
  have hFuel : frame.tags.length ≤ frame.bytes.length := by
    have hTags : frame.tags.length ≤ frame.tags.flatten.length := by
      have hValid := frame.tags_valid
      generalize frame.tags = tags at hValid
      induction tags with
      | nil => exact Nat.le_refl 0
      | cons tag rest ih =>
        have hRest := ih fun tag hTag => hValid tag (List.mem_cons_of_mem _ hTag)
        have hTag := (hValid tag List.mem_cons_self).1
        rw [List.flatten_cons, List.length_append, List.length_cons]
        omega
    rw [frame.length_bytes]
    omega
  have hWalk := stripVlan_tagged frame.length_declared frame.declared_not_vlan frame.tags
    frame.llc (frame.dst ++ frame.src) frame.bytes.length hFuel frame.tags_valid
  have hNum := num_append (frame.dst ++ frame.src)
    (frame.tags.flatten ++ (frame.declared ++ frame.llc)) 2
  rw [frame.length_front] at hNum hWalk
  rw [← hNum] at hWalk
  have hDrop : frame.bytes.drop (12 + frame.tags.flatten.length + 2) = frame.llc := by
    have hFront : ((frame.dst ++ frame.src) ++ frame.tags.flatten ++ frame.declared).length =
        12 + frame.tags.flatten.length + 2 := by
      rw [List.length_append, List.length_append, frame.length_front, frame.length_declared]
    rw [SnapFrame.bytes, ← List.append_assoc, ← List.append_assoc, ← hFront]
    exact List.drop_left
  have hWalk' : Sniffer.stripVlan frame.bytes frame.bytes.length (frame.bytes.num 12 14) 14 =
      (Bytes.big frame.declared, 12 + frame.tags.flatten.length + 2) := hWalk
  rw [Sniffer.parseEthernet]
  dsimp only
  rw [hWalk']
  dsimp only
  rw [hDrop, parseEtherType_llc, frame.slice_src, frame.slice_dst]
  rfl

theorem parse_packet_snap (frame : SnapFrame)
    (h4 : Sniffer.looks_like_raw_ipv4 frame.bytes ≠ true)
    (h6 : Sniffer.looks_like_raw_ipv6 frame.bytes ≠ true) :
    sn.parse_packet flows ⟨now, interface, frame.bytes⟩ = some (sn.finalize_packet
      (sn.parseNetwork (frame.base flows now interface) frame.kind frame.body)) := by
  have hLength := frame.length_bytes
  have hData : frame.bytes ≠ [] := by
    intro hEmpty
    rw [hEmpty, List.length_nil] at hLength
    omega
  have hLong : ¬frame.bytes.length < 14 := by omega
  rw [Sniffer.parse_packet]
  dsimp only
  rw [if_neg hData, if_neg h4, if_neg h6, if_neg hLong, parseEthernet_snap]

theorem blank_snap (frame : SnapFrame) : Blank (frame.base flows now interface) :=
  ⟨rfl, rfl, rfl, rfl, rfl, rfl⟩

theorem parse_packet_reading (carrier : Carrier) :
    ∃ base, Blank base ∧ sn.parse_packet flows ⟨now, interface, carrier.bytes⟩ = some
      (sn.finalize_packet (sn.parseNetwork base carrier.reading.1 carrier.reading.2)) := by
  rw [Carrier.reading]
  split
  · rename_i h4
    exact ⟨_, blank_newPacket _ _ _ _ _ _, parse_packet_raw4 sn flows now interface h4⟩
  rename_i h4
  split
  · rename_i h6
    exact ⟨_, blank_newPacket _ _ _ _ _ _, parse_packet_raw6 sn flows now interface h6⟩
  rename_i h6
  cases carrier with
  | plain frame =>
    cases frame with
    | ethernet frame =>
      refine ⟨Sniffer.newPacket flows ⟨now, interface, frame.bytes⟩ frame.body
        (format_mac frame.src) (format_mac frame.dst) frame.kind.code,
        blank_newPacket _ _ _ _ _ _, ?_⟩
      refine (parse_packet_ethernet sn flows now interface frame h4 h6).trans ?_
      rw [parseEthernet_bytes, Sniffer.parseEtherType_code]
      rfl
    | bare4 packet guessed => exact absurd guessed h4
    | bare6 packet guessed => exact absurd guessed h6
  | snap frame =>
    exact ⟨frame.base flows now interface, blank_snap flows now interface frame,
      parse_packet_snap sn flows now interface frame h4 h6⟩

theorem length_reading (carrier : Carrier) :
    carrier.reading.1.headerLength ≤ carrier.reading.2.length := by
  rw [Carrier.reading]
  split
  · rename_i h4
    simp only [Sniffer.looks_like_raw_ipv4, Bool.and_eq_true, decide_eq_true_eq] at h4
    exact h4.1.1.1.1.1
  split
  · rename_i h6
    simp only [Sniffer.looks_like_raw_ipv6, Bool.and_eq_true, decide_eq_true_eq] at h6
    exact h6.1
  rename_i h4 h6
  cases carrier with
  | plain frame =>
    cases frame with
    | ethernet frame => exact frame.length_body
    | bare4 packet guessed => exact absurd guessed h4
    | bare6 packet guessed => exact absurd guessed h6
  | snap frame => exact frame.length_body

end Reading

end Sniff4Hound
