import Sniff4Hound.Capture.ParserOutline

/-!
# Well-formed frames

An Ethernet II frame as a record that carries its own well-formedness, its bytes, and what
the parser reads back from them: the walk over the VLAN tags ends at the EtherType.
-/

namespace Sniff4Hound

/-! ## Slices of concatenations -/

variable (front rest : Bytes)

theorem slice_append (n : Nat) :
    Bytes.slice (front ++ rest) front.length (front.length + n) = rest.take n := by
  rw [Bytes.slice, List.drop_left, Nat.add_sub_cancel_left]

theorem num_append (n : Nat) :
    Bytes.num (front ++ rest) front.length (front.length + n) = Bytes.big (rest.take n) := by
  rw [Bytes.num, slice_append]

theorem slice_append_right (i j : Nat) :
    Bytes.slice (front ++ rest) (front.length + i) (front.length + j) = rest.slice i j := by
  rw [Bytes.slice, Bytes.slice, List.drop_append, Nat.add_sub_add_left,
    List.drop_of_length_le (Nat.le_add_right _ _), List.nil_append, Nat.add_sub_cancel_left]

theorem num_append_right (i j : Nat) :
    Bytes.num (front ++ rest) (front.length + i) (front.length + j) = rest.num i j := by
  rw [Bytes.num, Bytes.num, slice_append_right]

theorem byte_append (i : Nat) : Bytes.byte (front ++ rest) (front.length + i) = rest.byte i := by
  rw [Bytes.byte, Bytes.byte, List.getD_eq_getElem?_getD, List.getD_eq_getElem?_getD,
    List.getElem?_append_right (Nat.le_add_right _ _), Nat.add_sub_cancel_left]

theorem slice_append_left {i j : Nat} (hj : j ≤ front.length) :
    Bytes.slice (front ++ rest) i j = front.slice i j := by
  rw [Bytes.slice, Bytes.slice]
  rcases le_or_gt i j with hi | hi
  · rw [List.drop_append_of_le_length (hi.trans hj), List.take_append_of_le_length]
    rw [List.length_drop]
    omega
  · rw [Nat.sub_eq_zero_of_le hi.le, List.take_zero, List.take_zero]

theorem num_append_left {i j : Nat} (hj : j ≤ front.length) :
    Bytes.num (front ++ rest) i j = front.num i j := by
  rw [Bytes.num, Bytes.num, slice_append_left front rest hj]

theorem byte_append_left {i : Nat} (hi : i < front.length) :
    Bytes.byte (front ++ rest) i = front.byte i := by
  rw [Bytes.byte, Bytes.byte, List.getD_eq_getElem?_getD, List.getD_eq_getElem?_getD,
    List.getElem?_append_left hi]

/-! ## Frames -/

inductive EtherKind where
  | ipv4
  | ipv6
  | arp
deriving DecidableEq

namespace EtherKind

def code : EtherKind → Nat
  | ipv4 => ETHERTYPE_IPV4
  | ipv6 => ETHERTYPE_IPV6
  | arp => ETHERTYPE_ARP

def bytes : EtherKind → Bytes
  | ipv4 => [0x08, 0x00]
  | ipv6 => [0x86, 0xDD]
  | arp => [0x08, 0x06]

def headerLength : EtherKind → Nat
  | ipv4 => 20
  | ipv6 => 40
  | arp => 28

theorem length_bytes (kind : EtherKind) : kind.bytes.length = 2 := by
  cases kind <;> rfl

theorem big_bytes (kind : EtherKind) : Bytes.big kind.bytes = kind.code := by
  cases kind <;> decide

theorem code_not_vlan (kind : EtherKind) : kind.code ∉ ETHERTYPE_VLAN := by
  cases kind <;> decide

def addresses : EtherKind → Bytes → String × String
  | ipv4, packet => (ipv4Text (packet.slice 12 16), ipv4Text (packet.slice 16 20))
  | ipv6, packet => (ipv6Text (packet.slice 8 24), ipv6Text (packet.slice 24 40))
  | arp, packet => (ipv4Text (packet.slice 14 18), ipv4Text (packet.slice 24 28))

end EtherKind

def IsVlanTag (tag : Bytes) : Prop := tag.length = 4 ∧ Bytes.big (tag.take 2) ∈ ETHERTYPE_VLAN

/-- An Ethernet frame with room for its header. -/
structure EthernetFrame where
  dst : Bytes
  src : Bytes
  tags : List Bytes
  kind : EtherKind
  body : Bytes
  length_dst : dst.length = 6
  length_src : src.length = 6
  tags_valid : ∀ tag ∈ tags, IsVlanTag tag
  length_body : kind.headerLength ≤ body.length

namespace EthernetFrame

theorem length_receiver : ([2, 0, 0, 0, 0, 2] : Bytes).length = 6 := rfl

theorem length_sender : ([2, 0, 0, 0, 0, 1] : Bytes).length = 6 := rfl

theorem untagged : ∀ tag ∈ ([] : List Bytes), IsVlanTag tag :=
  fun _ hTag => absurd hTag List.not_mem_nil

theorem header_within : 20 ≤ 20 + 20 := Nat.le_add_left 20 20

def typed (tags : List Bytes) (kind : EtherKind) (body : Bytes) : Bytes :=
  tags.flatten ++ (kind.bytes ++ body)

def bytes (frame : EthernetFrame) : Bytes :=
  (frame.dst ++ frame.src) ++ typed frame.tags frame.kind frame.body

variable (frame : EthernetFrame)

theorem length_front : (frame.dst ++ frame.src).length = 12 := by
  rw [List.length_append, frame.length_dst, frame.length_src]

theorem length_tags : frame.tags.flatten.length = 4 * frame.tags.length := by
  have hTags := frame.tags_valid
  generalize frame.tags = tags at hTags
  induction tags with
  | nil => rfl
  | cons tag rest ih =>
    have hRest := ih fun tag hTag => hTags tag (List.mem_cons_of_mem _ hTag)
    have hTag := (hTags tag List.mem_cons_self).1
    rw [List.flatten_cons, List.length_append, List.length_cons, hTag, hRest]
    omega

theorem length_bytes : frame.bytes.length = 14 + 4 * frame.tags.length + frame.body.length := by
  rw [bytes, typed, List.length_append, frame.length_front, List.length_append,
    frame.length_tags, List.length_append, frame.kind.length_bytes]
  omega

theorem slice_dst : frame.bytes.slice 0 6 = frame.dst := by
  rw [bytes, List.append_assoc, Bytes.slice, List.drop_zero, ← frame.length_dst]
  exact List.take_left

theorem slice_src : frame.bytes.slice 6 12 = frame.src := by
  have hSlice := slice_append frame.dst
    (frame.src ++ typed frame.tags frame.kind frame.body) 6
  rw [frame.length_dst] at hSlice
  rw [bytes, List.append_assoc, hSlice, ← frame.length_src]
  exact List.take_left

end EthernetFrame

/-! ## The walk over the tags -/

/-- The loop is at an EtherType field behind `front`; it goes through the tags that are left
and stops at the type field behind them. -/
theorem stripVlan_tagged {type : Bytes} (hLength : type.length = 2)
    (hType : Bytes.big type ∉ ETHERTYPE_VLAN) (tags : List Bytes) (body : Bytes) :
    ∀ (front : Bytes) (fuel : Nat), tags.length ≤ fuel → (∀ tag ∈ tags, IsVlanTag tag) →
      Sniffer.stripVlan (front ++ (tags.flatten ++ (type ++ body))) fuel
          (Bytes.big ((tags.flatten ++ (type ++ body)).take 2)) (front.length + 2) =
        (Bytes.big type, front.length + tags.flatten.length + 2) := by
  induction tags with
  | nil =>
    intro front fuel _ _
    have hCode : Bytes.big ((List.flatten [] ++ (type ++ body)).take 2) = Bytes.big type := by
      rw [List.flatten_nil, List.nil_append, ← hLength, List.take_left]
    rw [hCode]
    cases fuel with
    | zero => rfl
    | succ fuel =>
      rw [Sniffer.stripVlan, if_neg fun h => hType h.1]
      rfl
  | cons tag rest ih =>
    intro front fuel hFuel hTags
    obtain ⟨fuel, rfl⟩ : ∃ n, fuel = n + 1 := ⟨fuel - 1, by
      rw [List.length_cons] at hFuel
      omega⟩
    have hTag := hTags tag List.mem_cons_self
    have hSplit : (tag :: rest).flatten ++ (type ++ body) =
        tag ++ (rest.flatten ++ (type ++ body)) := by
      rw [List.flatten_cons, List.append_assoc]
    have hHead : Bytes.big (((tag :: rest).flatten ++ (type ++ body)).take 2) =
        Bytes.big (tag.take 2) := by
      rw [hSplit, List.take_append_of_le_length (by rw [hTag.1]; omega)]
    have hTwo : 2 ≤ (rest.flatten ++ (type ++ body)).length := by
      rw [List.length_append, List.length_append, hLength]
      omega
    -- the tag moves to the part that has been read
    have hMoved : front ++ ((tag :: rest).flatten ++ (type ++ body)) =
        (front ++ tag) ++ (rest.flatten ++ (type ++ body)) := by
      rw [hSplit, List.append_assoc]
    have hFront : (front ++ tag).length = front.length + 4 := by
      rw [List.length_append, hTag.1]
    have hNext := num_append (front ++ tag) (rest.flatten ++ (type ++ body)) 2
    rw [hFront] at hNext
    have hRoom : front.length + 2 + 4 ≤
        ((front ++ tag) ++ (rest.flatten ++ (type ++ body))).length := by
      rw [List.length_append, hFront]
      omega
    have hWalk := ih (front ++ tag) fuel (by rw [List.length_cons] at hFuel; omega)
      fun tag hTag => hTags tag (List.mem_cons_of_mem _ hTag)
    rw [hFront] at hWalk
    rw [hHead, hMoved, Sniffer.stripVlan, if_pos ⟨hTag.2, hRoom⟩]
    rw [show front.length + 2 + 2 = front.length + 4 by omega,
      show front.length + 2 + 4 = front.length + 4 + 2 by omega, hNext, hWalk,
      List.flatten_cons, List.length_append, hTag.1]
    congr 1
    omega

theorem stripVlan_typed (tags : List Bytes) (kind : EtherKind) (body front : Bytes) (fuel : Nat)
    (hFuel : tags.length ≤ fuel) (hTags : ∀ tag ∈ tags, IsVlanTag tag) :
    Sniffer.stripVlan (front ++ EthernetFrame.typed tags kind body) fuel
        (Bytes.big ((EthernetFrame.typed tags kind body).take 2)) (front.length + 2) =
      (kind.code, front.length + tags.flatten.length + 2) := by
  rw [← kind.big_bytes]
  refine stripVlan_tagged kind.length_bytes ?_ tags body front fuel hFuel hTags
  rw [kind.big_bytes]
  exact kind.code_not_vlan

theorem stripVlan_bytes (frame : EthernetFrame) :
    Sniffer.stripVlan frame.bytes frame.bytes.length (frame.bytes.num 12 14) 14 =
      (frame.kind.code, 12 + frame.tags.flatten.length + 2) := by
  have hFuel : frame.tags.length ≤ frame.bytes.length := by
    rw [frame.length_bytes]
    omega
  have hNum := num_append (frame.dst ++ frame.src)
    (EthernetFrame.typed frame.tags frame.kind frame.body) 2
  have hWalk := stripVlan_typed frame.tags frame.kind frame.body (frame.dst ++ frame.src)
    frame.bytes.length hFuel frame.tags_valid
  rw [frame.length_front] at hNum hWalk
  rw [← hNum] at hWalk
  exact hWalk

theorem drop_bytes (frame : EthernetFrame) :
    frame.bytes.drop (12 + frame.tags.flatten.length + 2) = frame.body := by
  have hFront : ((frame.dst ++ frame.src) ++ frame.tags.flatten ++ frame.kind.bytes).length =
      12 + frame.tags.flatten.length + 2 := by
    rw [List.length_append, List.length_append, frame.length_front, frame.kind.length_bytes]
  rw [EthernetFrame.bytes, EthernetFrame.typed, ← List.append_assoc, ← List.append_assoc, ← hFront]
  exact List.drop_left

theorem parseEthernet_bytes (sn : Sniffer) (flows : List String) (now interface : String)
    (frame : EthernetFrame) :
    sn.parseEthernet flows ⟨now, interface, frame.bytes⟩ =
      sn.finalize_packet (sn.parseEtherType
        (Sniffer.newPacket flows ⟨now, interface, frame.bytes⟩ frame.body
          (format_mac frame.src) (format_mac frame.dst) frame.kind.code)
        frame.kind.code frame.body) := by
  rw [Sniffer.parseEthernet]
  dsimp only
  rw [stripVlan_bytes, drop_bytes, frame.slice_dst, frame.slice_src]

/-! ## The three readings of a capture -/

section Readings

variable (sn : Sniffer) (flows : List String) (now interface : String)

theorem parse_packet_raw4 {data : Bytes} (h : Sniffer.looks_like_raw_ipv4 data = true) :
    sn.parse_packet flows ⟨now, interface, data⟩ = some (sn.finalize_packet (sn.parse_ipv4
      (Sniffer.newPacket flows ⟨now, interface, data⟩ data "" "" ETHERTYPE_IPV4) data)) := by
  have hData : data ≠ [] := by
    rintro rfl
    exact absurd h (by decide)
  rw [Sniffer.parse_packet]
  dsimp only
  rw [if_neg hData, if_pos h]

theorem parse_packet_raw6 {data : Bytes} (h : Sniffer.looks_like_raw_ipv6 data = true) :
    sn.parse_packet flows ⟨now, interface, data⟩ = some (sn.finalize_packet (sn.parse_ipv6
      (Sniffer.newPacket flows ⟨now, interface, data⟩ data "" "" ETHERTYPE_IPV6) data)) := by
  have hData : data ≠ [] := by
    rintro rfl
    exact absurd h (by decide)
  have h4 : Sniffer.looks_like_raw_ipv4 data ≠ true := by
    intro h4
    simp only [Sniffer.looks_like_raw_ipv4, Sniffer.looks_like_raw_ipv6, Bool.and_eq_true,
      decide_eq_true_eq] at h4 h
    omega
  rw [Sniffer.parse_packet]
  dsimp only
  rw [if_neg hData, if_neg h4, if_pos h]

theorem parse_packet_ethernet (frame : EthernetFrame)
    (h4 : Sniffer.looks_like_raw_ipv4 frame.bytes ≠ true)
    (h6 : Sniffer.looks_like_raw_ipv6 frame.bytes ≠ true) :
    sn.parse_packet flows ⟨now, interface, frame.bytes⟩ =
      some (sn.parseEthernet flows ⟨now, interface, frame.bytes⟩) := by
  have hLength := frame.length_bytes
  have hData : frame.bytes ≠ [] := by
    intro hEmpty
    rw [hEmpty, List.length_nil] at hLength
    omega
  have hLong : ¬ frame.bytes.length < 14 := by omega
  rw [Sniffer.parse_packet]
  dsimp only
  rw [if_neg hData, if_neg h4, if_neg h6, if_neg hLong]

end Readings

end Sniff4Hound
