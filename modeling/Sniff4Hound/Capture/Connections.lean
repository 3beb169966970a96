import Sniff4Hound.Capture.Addresses
import Sniff4Hound.Capture.DashboardFilter
import Mathlib.Data.Sym.Sym2

/-!
# Connections and their flow keys

The rows of the flows table are told apart by `flow_key`: the two endpoints in the order of their
texts, behind the name of the protocol. The endpoints of a TCP connection can be read off the key;
the name depends on the payload of each segment, so that a connection keeps to one row just when
its segments are all named alike (`one_row_iff`).
-/

namespace Sniff4Hound

/-! ## Names of TCP segments -/

def TCP_NAMES : List String :=
  ["dns", "modbus", "dnp3", "mqtt", "tcp", "tls", "ssh", "sip", "http", "vnc", "telnet", "smb"] ++
    TCP_PORT_PROTOCOLS.map Prod.snd

theorem Table.name_mem {table : Table} {key : Nat} (h : table.name key ≠ "") :
    table.name key ∈ table.map Prod.snd := by
  rw [Table.name] at h ⊢
  cases hLookup : table.lookup key with
  | none =>
    rw [hLookup] at h
    exact absurd rfl h
  | some name =>
    obtain ⟨front, rest, hSplit, -⟩ := List.lookup_eq_some_iff.mp hLookup
    have hMem : (key, name) ∈ table := by
      rw [hSplit]
      exact List.mem_append_right _ List.mem_cons_self
    exact List.mem_map_of_mem hMem

theorem tcp_signature_mem {data : Bytes} (h : tcp_signature data ≠ "") :
    tcp_signature data ∈ TCP_NAMES := by
  rcases List.mem_cons.mp (tcp_signature_names data) with hNone | hNamed
  · exact absurd hNone h
  · exact List.mem_append_left _ ((List.drop_sublist 5 _).subset hNamed)

theorem tcp_proto_mem (rt : Runtime) (src_port dst_port : Nat) (payload : Bytes) :
    tcp_proto rt src_port dst_port payload ∈ TCP_NAMES := by
  rw [tcp_proto]
  cases tcpClaim rt src_port dst_port payload with
  | some decoder =>
    cases decoder with
    | dns => exact show "dns" ∈ TCP_NAMES by decide
    | modbus => exact show "modbus" ∈ TCP_NAMES by decide
    | dnp3 => exact show "dnp3" ∈ TCP_NAMES by decide
    | mqtt => exact show "mqtt" ∈ TCP_NAMES by decide
  | none =>
    dsimp only
    split
    · decide
    rename_i hNamed
    rw [classify_tcp] at hNamed ⊢
    split
    · exact tcp_signature_mem ‹_›
    rename_i hNone
    rw [if_neg hNone] at hNamed
    rw [port_protocol] at hNamed ⊢
    split
    · exact List.mem_append_right _ (Table.name_mem ‹_›)
    · rename_i hDst
      rw [if_neg hDst] at hNamed
      exact List.mem_append_right _ (Table.name_mem hNamed)

def PlainName (name : String) : Prop :=
  name ≠ "" ∧ strip name = name ∧ (∀ c ∈ name.toList, c.toNat < 128 ∧ c ≠ '|') ∧
    String.ofList (name.toList.map Char.toLower) = name

def isNameChar (c : Char) : Bool :=
  decide (c.toNat < 128 ∧ c ≠ '|' ∧ c.toLower = c) && !isSpace c

theorem plainName_of_chars {name : String}
    (hChars : name.toList ≠ [] ∧ name.toList.all isNameChar = true) : PlainName name := by
  have hSome : name ≠ "" := fun hNone => hChars.1 (by rw [hNone]; rfl)
  have hChar : ∀ c ∈ name.toList, (c.toNat < 128 ∧ c ≠ '|' ∧ c.toLower = c) ∧ isSpace c = false := by
    intro c hc
    have h := List.all_eq_true.mp hChars.2 c hc
    rw [isNameChar, Bool.and_eq_true, decide_eq_true_eq, Bool.not_eq_true'] at h
    exact h
  have hKept : ∀ chars : List Char, (∀ c ∈ chars, isSpace c = false) →
      chars.dropWhile isSpace = chars := by
    intro chars hNone
    cases chars with
    | nil => rfl
    | cons c chars =>
      rw [List.dropWhile_cons_of_neg (by rw [hNone c List.mem_cons_self]; exact Bool.false_ne_true)]
  have hSpaces : ∀ c ∈ name.toList, isSpace c = false := fun c hc => (hChar c hc).2
  refine ⟨hSome, ?_, fun c hc => ⟨(hChar c hc).1.1, (hChar c hc).1.2.1⟩, ?_⟩
  · rw [strip, hKept _ hSpaces, hKept _ fun c hc => hSpaces c (List.mem_reverse.mp hc),
      List.reverse_reverse, String.ofList_toList]
  · rw [List.map_congr_left fun c hc => (hChar c hc).1.2.2, List.map_id', String.ofList_toList]

theorem plain_tcp_names : ∀ name ∈ TCP_NAMES, PlainName name := by
  rw [TCP_NAMES, TCP_PORT_PROTOCOLS]
  simp only [List.map_cons, List.map_nil, List.cons_append, List.nil_append]
  repeat
    refine List.forall_mem_cons.mpr
      ⟨plainName_of_chars (by rw [String.toList_ofList]; exact ⟨nofun, rfl⟩), ?_⟩
  nofun

theorem PlainName.normalize {rt : Runtime} (hLower : rt.LowersAscii) {name : String}
    (h : PlainName name) : normalize_protocol_name rt (.str name) = name := by
  obtain ⟨hSome, hStrip, hAscii, hSmall⟩ := h
  have hName : rt.lower (strip name) = name := by
    rw [hStrip, hLower name fun c hc => (hAscii c hc).1, hSmall]
  rw [normalize_protocol_name, text_str, hName, if_neg hSome]

/-! ## Endpoints -/

def EtherKind.endpoints : EtherKind → Bytes → Bytes × Bytes
  | ipv4, packet => (packet.slice 12 16, packet.slice 16 20)
  | ipv6, packet => (packet.slice 8 24, packet.slice 24 40)
  | arp, _ => ([], [])

def addressText (address : Bytes) : String :=
  if address.length = 4 then ipv4Text address else ipv6Text address

def IsAddress (address : Bytes) : Prop := address.length = 4 ∨ address.length = 16

theorem addressText_inj {address address' : Bytes} (h : IsAddress address)
    (h' : IsAddress address') (hSame : addressText address = addressText address') :
    address = address' := by
  have hNoDot := notMem_ipv6Text (c := '.') (by decide) (by decide)
  rw [addressText, addressText] at hSame
  split at hSame <;> split at hSame
  · exact ipv4Text_inj hSame
  · rename_i h4 _
    have hMem := dot_mem_ipv4Text h4
    rw [hSame] at hMem
    exact absurd hMem (hNoDot _)
  · rename_i h4'
    have hMem := dot_mem_ipv4Text h4'
    rw [← hSame] at hMem
    exact absurd hMem (hNoDot _)
  · rename_i h4 h4'
    exact ipv6Text_inj (h.resolve_left h4) (h'.resolve_left h4') hSame

theorem addressText_ne_empty {address : Bytes} (h : IsAddress address) :
    addressText address ≠ "" := by
  intro hEmpty
  rw [addressText] at hEmpty
  split at hEmpty
  · rename_i h4
    have hMem := dot_mem_ipv4Text h4
    rw [hEmpty] at hMem
    cases hMem
  · rename_i h4
    have hMem := colon_mem_ipv6Text (h.resolve_left h4)
    rw [hEmpty] at hMem
    cases hMem

/-- `f"{ip}:{port}"`. -/
def endpointText (endpoint : Bytes × Nat) : String :=
  addressText endpoint.1 ++ ":" ++ toString endpoint.2

theorem toList_endpointText (endpoint : Bytes × Nat) : (endpointText endpoint).toList =
    (addressText endpoint.1).toList ++ ':' :: Nat.toDigits 10 endpoint.2 := by
  rw [endpointText, String.toList_append, String.toList_append, toList_toString, List.append_assoc]
  rfl

theorem endpointText_inj {endpoint endpoint' : Bytes × Nat} (h : IsAddress endpoint.1)
    (h' : IsAddress endpoint'.1) (hSame : endpointText endpoint = endpointText endpoint') :
    endpoint = endpoint' := by
  have hText := congrArg String.toList hSame
  rw [toList_endpointText, toList_endpointText] at hText
  obtain ⟨hAddress, hPort⟩ := append_sep_inj
    (notMem_toDigits (by decide) (by decide) (by decide) _)
    (notMem_toDigits (by decide) (by decide) (by decide) _) hText
  exact Prod.ext (addressText_inj h h' (String.toList_inj.mp hAddress))
    (toDigits_inj (by decide : 1 < 10) (by decide) hPort)

theorem bar_notMem_endpointText (endpoint : Bytes × Nat) :
    '|' ∉ (endpointText endpoint).toList := by
  rw [toList_endpointText]
  intro hMem
  rcases List.mem_append.mp hMem with hAddress | hPort
  · rw [addressText] at hAddress
    split at hAddress
    · exact notMem_ipv4Text (by decide) (by decide) _ hAddress
    · exact notMem_ipv6Text (by decide) (by decide) _ hAddress
  · rcases List.mem_cons.mp hPort with hColon | hDigit
    · exact absurd hColon (by decide)
    · exact notMem_toDigits (by decide) (by decide) (by decide) _ hDigit

/-! ## Keys -/

def flowText (name left right : String) : String :=
  name ++ "|" ++ if left ≤ right then left ++ "|" ++ right else right ++ "|" ++ left

def orderedEnds (left right : String) : String × String :=
  if left ≤ right then (left, right) else (right, left)

theorem orderedEnds_inj {left right left' right' : String} :
    orderedEnds left right = orderedEnds left' right' ↔ s(left, right) = s(left', right') := by
  rw [Sym2.eq_iff, orderedEnds, orderedEnds]
  constructor
  · intro h
    split at h <;> split at h <;> cases h
    · exact Or.inl ⟨rfl, rfl⟩
    · exact Or.inr ⟨rfl, rfl⟩
    · exact Or.inr ⟨rfl, rfl⟩
    · exact Or.inl ⟨rfl, rfl⟩
  · rintro (⟨rfl, rfl⟩ | ⟨rfl, rfl⟩)
    · rfl
    · split <;> split
      · rename_i hLe hGe
        rw [String.le_antisymm hLe hGe]
      · rfl
      · rfl
      · rename_i hLe hGe
        exact absurd (String.le_total left right) (not_or.mpr ⟨hLe, hGe⟩)

theorem toList_flowText (name left right : String) : (flowText name left right).toList =
    ['|'].intercalate [name.toList, (orderedEnds left right).1.toList,
      (orderedEnds left right).2.toList] := by
  have hBar : "|".toList = ['|'] := rfl
  rw [flowText, orderedEnds, List.intercalate_cons_cons, List.intercalate_cons_cons,
    List.intercalate_singleton]
  split <;> simp only [String.toList_append, hBar, List.append_assoc]

theorem flowText_inj {name name' left right left' right' : String} (hName : '|' ∉ name.toList)
    (hName' : '|' ∉ name'.toList) (hLeft : '|' ∉ left.toList) (hRight : '|' ∉ right.toList)
    (hLeft' : '|' ∉ left'.toList) (hRight' : '|' ∉ right'.toList) :
    flowText name left right = flowText name' left' right' ↔
      name = name' ∧ s(left, right) = s(left', right') := by
  rw [← orderedEnds_inj, ← String.toList_inj, toList_flowText, toList_flowText]
  constructor
  · intro h
    have hParts := congrArg (List.splitOn '|') h
    have hFree : ∀ {name left right : String}, '|' ∉ name.toList → '|' ∉ left.toList →
        '|' ∉ right.toList → ∀ part ∈ [name.toList, (orderedEnds left right).1.toList,
          (orderedEnds left right).2.toList], '|' ∉ part := by
      intro name left right hName hLeft hRight
      rw [orderedEnds]
      split
      · exact List.forall_mem_cons.mpr ⟨hName, List.forall_mem_cons.mpr ⟨hLeft,
          List.forall_mem_singleton.mpr hRight⟩⟩
      · exact List.forall_mem_cons.mpr ⟨hName, List.forall_mem_cons.mpr ⟨hRight,
          List.forall_mem_singleton.mpr hLeft⟩⟩
    rw [List.splitOn_intercalate _ (hFree hName hLeft hRight) (List.cons_ne_nil _ _),
      List.splitOn_intercalate _ (hFree hName' hLeft' hRight') (List.cons_ne_nil _ _)] at hParts
    obtain ⟨hNames, hEnds⟩ := List.cons.inj hParts
    obtain ⟨hFirst, hRest⟩ := List.cons.inj hEnds
    exact ⟨String.toList_inj.mp hNames, Prod.ext (String.toList_inj.mp hFirst)
      (String.toList_inj.mp (List.singleton_inj.mp hRest))⟩
  · rintro ⟨rfl, hEnds⟩
    rw [hEnds]

theorem finalize_flow_key (sn : Sniffer) (hLower : sn.toRuntime.LowersAscii) {c : Capture}
    {name src dst : String} {src_port dst_port : Nat} (hPlain : PlainName name)
    (hProto : c.packet "proto" = .str name) (hSrc : c.packet "src_ip" = .str src)
    (hSrcSome : src ≠ "") (hDst : c.packet "dst_ip" = .str dst) (hDstSome : dst ≠ "")
    (hSrcPort : c.packet "src_port" = .int src_port)
    (hDstPort : c.packet "dst_port" = .int dst_port) :
    (sn.finalize_packet c).packet "flow_key" = .str (flowText name
      (src ++ ":" ++ toString src_port) (dst ++ ":" ++ toString dst_port)) := by
  have hText : ∀ {text : String} (other : Value), text ≠ "" →
      (Value.str text).orElse other = .str text := by
    intro text other hSome
    exact if_pos (bne_iff_ne.mpr hSome)
  have hPort : ∀ port : Nat, (Value.int port).orElse (.int 0) = .int port := by
    intro port
    rw [Value.orElse]
    split
    · rfl
    · rename_i hZero
      rw [Value.truthy, bne_iff_ne, not_not] at hZero
      rw [hZero]
  have hKey : (sn.finalize_packet c).packet "flow_key" = .str (stable_flow_key sn.toRuntime
      ((c.packet "proto").orElse (.str "unknown"))
      (((c.packet "src_ip").orElse (c.packet "eth_src")).orElse (.str "unknown"))
      ((c.packet "src_port").orElse (.int 0))
      (((c.packet "dst_ip").orElse (c.packet "eth_dst")).orElse (.str "unknown"))
      ((c.packet "dst_port").orElse (.int 0))) := rfl
  rw [hKey, hProto, hSrc, hDst, hSrcPort, hDstPort, hText _ hPlain.1, hText _ hSrcSome,
    hText _ hSrcSome, hText _ hDstSome, hText _ hDstSome, hPort, hPort, stable_flow_key,
    hPlain.normalize hLower, flowText]
  rfl

/-! ## Segments on the wire -/

def Carrier.segment (carrier : Carrier) : Option Bytes :=
  match transport carrier.kind carrier.packet with
  | some (proto, body) =>
    match segmentOf (some proto) body with
    | some (header, segment) => if header = 20 ∧ 20 ≤ segment.length then some segment else none
    | none => none
  | none => none

theorem Carrier.segment_eq_some {carrier : Carrier} {segment : Bytes}
    (h : carrier.segment = some segment) :
    ∃ proto body, transport carrier.kind carrier.packet = some (proto, body) ∧
      segmentOf (some proto) body = some (20, segment) ∧ 20 ≤ segment.length := by
  rw [Carrier.segment] at h
  split at h
  · rename_i proto body hTransport
    split at h
    · rename_i header found hFound
      split at h
      · rename_i hTcp
        cases h
        rw [hTcp.1] at hFound
        exact ⟨proto, body, hTransport, hFound, hTcp.2⟩
      · cases h
    · cases h
  · cases h

theorem segmentOf_tcp {proto : Nat} {body segment : Bytes}
    (h : segmentOf (some proto) body = some (20, segment)) :
    (proto = IP_PROTO_TCP ∧ body = segment) ∨ (proto = IP_PROTO_IPV6_AH ∧ 12 ≤ body.length ∧
      body.byte 0 = IP_PROTO_TCP ∧ ahInner body = segment) := by
  rw [segmentOf] at h
  split at h
  · rename_i hTcp
    cases h
    exact Or.inl ⟨Option.some.inj hTcp, rfl⟩
  split at h
  · cases h
  split at h
  · rename_i hAh
    split at h
    · rename_i hTcp
      cases h
      exact Or.inr ⟨Option.some.inj hAh.1, hAh.2, hTcp, rfl⟩
    · split at h <;> cases h
  · cases h

section Segment

variable (sn : Sniffer) {c : Capture} {proto : Nat} {body segment : Bytes}
  (hSegment : segmentOf (some proto) body = some (20, segment)) (hLong : 20 ≤ segment.length)

def segmentFields (sn : Sniffer) (c : Capture) (segment : Bytes) : Capture :=
  (tcpFields c segment).set "proto" (.str (tcp_proto sn.toRuntime (segment.num 0 2)
    (segment.num 2 4) (tcpPayload segment)))

include hLong in
theorem parse_ah_segment (ip_version : Nat) (hBody : 12 ≤ body.length)
    (hTcp : body.byte 0 = IP_PROTO_TCP) (hInner : ahInner body = segment) :
    Agree CORE_KEYS (segmentFields sn c segment) (sn.parse_ah c body ip_version) := by
  rw [Sniffer.parse_ah, if_neg (by omega)]
  dsimp only
  rw [agree_summarize _ (by decide) (by decide), Sniffer.parseAhInner, if_pos hTcp, hInner]
  exact parse_tcp_agree sn c segment ip_version hLong

include hSegment hLong

theorem parseIpv4Body_segment :
    Agree CORE_KEYS (segmentFields sn c segment) (sn.parseIpv4Body c proto body) := by
  rw [Sniffer.parseIpv4Body]
  rcases segmentOf_tcp hSegment with ⟨rfl, rfl⟩ | ⟨rfl, hBody, hTcp, hInner⟩
  · rw [if_pos rfl]
    exact parse_tcp_agree sn c body 4 hLong
  · exact parse_ah_segment sn hLong 4 hBody hTcp hInner

theorem parseIpv6Body_segment (detail : String) :
    Agree CORE_KEYS (segmentFields sn c segment)
      (sn.parseIpv6Body c (some proto) body detail) := by
  rw [Sniffer.parseIpv6Body]
  rcases segmentOf_tcp hSegment with ⟨rfl, rfl⟩ | ⟨rfl, hBody, hTcp, hInner⟩
  · rw [if_pos rfl]
    exact parse_tcp_agree sn c body 6 hLong
  · exact parse_ah_segment sn hLong 6 hBody hTcp hInner

theorem parseNetwork_segment (base : Capture) {kind : EtherKind} {packet : Bytes}
    (h : transport kind packet = some (proto, body)) :
    ∃ fields, kind ≠ .arp ∧ kind.headerLength ≤ packet.length ∧
      fields.packet "src_ip" = .str (kind.addresses packet).1 ∧
      fields.packet "dst_ip" = .str (kind.addresses packet).2 ∧
      Agree CORE_KEYS (segmentFields sn fields segment) (sn.parseNetwork base kind packet) := by
  have hLast := fun c => Sniffer.summaryOrFallback_agree sn c
  cases kind with
  | arp => cases h
  | ipv4 =>
    rw [transport] at h
    split at h
    · rename_i hValid
      cases h
      have hBody : packet.byte 0 % 0x10 * 4 < packet.num 2 4 := by
        by_contra hNone
        have hEmpty : packet.slice (packet.byte 0 % 0x10 * 4) (packet.num 2 4) = [] := by
          rw [Bytes.slice, Nat.sub_eq_zero_of_le (not_lt.mp hNone), List.take_zero]
        rw [hEmpty] at hSegment
        rcases segmentOf_tcp hSegment with ⟨-, rfl⟩ | ⟨-, hShort, -⟩
        · exact absurd hLong (by decide)
        · exact absurd hShort (by decide)
      refine ⟨Sniffer.ipv4Fields base packet, by decide, (by omega : 20 ≤ packet.length), rfl, rfl,
        ?_⟩
      rw [Sniffer.parseNetwork, Sniffer.parse_ipv4, if_neg (by omega), Sniffer.ipv4Body,
        if_pos hBody]
      exact (parseIpv4Body_segment sn hSegment hLong).trans (hLast _)
    · cases h
  | ipv6 =>
    rw [transport] at h
    split at h
    · rename_i hValid
      split at h
      · rename_i next_header found detail hUnwrap
        cases h
        refine ⟨Sniffer.ipv6Fields base packet, by decide, hValid.2, rfl, rfl, ?_⟩
        rw [Sniffer.parseNetwork, Sniffer.parse_ipv6, if_neg (not_lt.mpr hValid.2), hUnwrap]
        exact (parseIpv6Body_segment sn hSegment hLong detail).trans (hLast _)
      · cases h
    · cases h

end Segment

/-! ## Rows of the flows table -/

/-- A carried segment, captured. -/
structure TcpSighting where
  carrier : Carrier
  segment : Bytes
  carried : carrier.segment = some segment
  flows : List String
  now : String
  interface : String

namespace TcpSighting

def source (s : TcpSighting) : Bytes × Nat :=
  ((s.carrier.kind.endpoints s.carrier.packet).1, s.segment.num 0 2)

def destination (s : TcpSighting) : Bytes × Nat :=
  ((s.carrier.kind.endpoints s.carrier.packet).2, s.segment.num 2 4)

def connection (s : TcpSighting) : Sym2 (Bytes × Nat) := s(s.source, s.destination)

def name (s : TcpSighting) (rt : Runtime) : String :=
  tcp_proto rt (s.segment.num 0 2) (s.segment.num 2 4) (tcpPayload s.segment)

def Misread (s : TcpSighting) : Prop := s.carrier.reading ≠ (s.carrier.kind, s.carrier.packet)

def flow_key (s : TcpSighting) (sn : Sniffer) : Option Value :=
  (sn.parse_packet s.flows ⟨s.now, s.interface, s.carrier.bytes⟩).map
    fun c => c.packet "flow_key"

theorem endpoints_valid (s : TcpSighting) :
    IsAddress s.source.1 ∧ IsAddress s.destination.1 ∧
      s.carrier.kind.addresses s.carrier.packet =
        (addressText s.source.1, addressText s.destination.1) := by
  obtain ⟨proto, body, hTransport, hSegment, hLong⟩ := Carrier.segment_eq_some s.carried
  obtain ⟨-, hKind, hPacket, -⟩ := parseNetwork_segment Sniffer.ascii hSegment hLong
    (Sniffer.newPacket [] ⟨"", "", []⟩ [] "" "" 0) hTransport
  rw [source, destination]
  generalize s.carrier.packet = packet at hPacket
  have hSlice : ∀ i j, j ≤ packet.length → (packet.slice i j).length = j - i := by
    intro i j hj
    rw [Bytes.slice, List.length_take, List.length_drop]
    omega
  cases hVersion : s.carrier.kind with
  | arp => exact absurd hVersion hKind
  | ipv4 =>
    rw [hVersion] at hPacket
    have hPacket : 20 ≤ packet.length := hPacket
    have hSrc : (packet.slice 12 16).length = 4 := hSlice 12 16 (by omega)
    have hDst : (packet.slice 16 20).length = 4 := hSlice 16 20 (by omega)
    exact ⟨Or.inl hSrc, Or.inl hDst,
      Prod.ext (if_pos hSrc).symm (if_pos hDst).symm⟩
  | ipv6 =>
    rw [hVersion] at hPacket
    have hPacket : 40 ≤ packet.length := hPacket
    have hSrc : (packet.slice 8 24).length = 16 := hSlice 8 24 (by omega)
    have hDst : (packet.slice 24 40).length = 16 := hSlice 24 40 (by omega)
    have hNot : ∀ {address : Bytes}, address.length = 16 → ¬address.length = 4 := by omega
    exact ⟨Or.inr hSrc, Or.inr hDst,
      Prod.ext (if_neg (hNot hSrc)).symm (if_neg (hNot hDst)).symm⟩

theorem flow_key_eq (s : TcpSighting) (sn : Sniffer) (hLower : sn.toRuntime.LowersAscii)
    (hRead : ¬s.Misread) : s.flow_key sn = some (.str (flowText (s.name sn.toRuntime)
      (endpointText s.source) (endpointText s.destination))) := by
  obtain ⟨proto, body, hTransport, hSegment, hLong⟩ := Carrier.segment_eq_some s.carried
  obtain ⟨base, -, hParsed⟩ :=
    parse_packet_reading sn s.flows s.now s.interface s.carrier
  rw [not_not.mp hRead] at hParsed
  obtain ⟨fields, -, -, hSrc, hDst, hAgree⟩ :=
    parseNetwork_segment sn hSegment hLong base hTransport
  obtain ⟨hSource, hDestination, hAddresses⟩ := s.endpoints_valid
  rw [hAddresses] at hSrc hDst
  have hPlain := plain_tcp_names _ (tcp_proto_mem sn.toRuntime (s.segment.num 0 2)
    (s.segment.num 2 4) (tcpPayload s.segment))
  have hKey := finalize_flow_key sn hLower hPlain (hAgree "proto" (by decide))
    ((hAgree "src_ip" (by decide)).trans hSrc) (addressText_ne_empty hSource)
    ((hAgree "dst_ip" (by decide)).trans hDst) (addressText_ne_empty hDestination)
    (hAgree "src_port" (by decide)) (hAgree "dst_port" (by decide))
  rw [flow_key, hParsed, Option.map_some, hKey]
  rfl

theorem flow_key_iff (s t : TcpSighting) (sn : Sniffer) (hLower : sn.toRuntime.LowersAscii)
    (hs : ¬s.Misread) (ht : ¬t.Misread) :
    s.flow_key sn = t.flow_key sn ↔
      s.name sn.toRuntime = t.name sn.toRuntime ∧ s.connection = t.connection := by
  have hName : ∀ s : TcpSighting, '|' ∉ (s.name sn.toRuntime).toList := by
    intro s hBar
    exact ((plain_tcp_names _ (tcp_proto_mem _ _ _ _)).2.2.1 _ hBar).2 rfl
  have hEnds : s(endpointText s.source, endpointText s.destination) =
      s(endpointText t.source, endpointText t.destination) ↔ s.connection = t.connection := by
    obtain ⟨hSrc, hDst, -⟩ := s.endpoints_valid
    obtain ⟨hSrc', hDst', -⟩ := t.endpoints_valid
    rw [connection, connection, Sym2.eq_iff, Sym2.eq_iff]
    constructor
    · rintro (⟨hLeft, hRight⟩ | ⟨hLeft, hRight⟩)
      · exact Or.inl ⟨endpointText_inj hSrc hSrc' hLeft, endpointText_inj hDst hDst' hRight⟩
      · exact Or.inr ⟨endpointText_inj hSrc hDst' hLeft, endpointText_inj hDst hSrc' hRight⟩
    · rintro (⟨hLeft, hRight⟩ | ⟨hLeft, hRight⟩)
      · exact Or.inl ⟨congrArg _ hLeft, congrArg _ hRight⟩
      · exact Or.inr ⟨congrArg _ hLeft, congrArg _ hRight⟩
  rw [s.flow_key_eq sn hLower hs, t.flow_key_eq sn hLower ht, Option.some_inj, Value.str.injEq,
    flowText_inj (hName s) (hName t) (bar_notMem_endpointText _) (bar_notMem_endpointText _)
      (bar_notMem_endpointText _) (bar_notMem_endpointText _), hEnds]

end TcpSighting

/-- Segments of different connections never share a key. A set of segments has one key for each
connection just when the segments of a connection are named alike. -/
theorem one_row_iff (sn : Sniffer) (hLower : sn.toRuntime.LowersAscii)
    (sightings : Set TcpSighting) (hRead : ∀ s ∈ sightings, ¬s.Misread) :
    (∀ s ∈ sightings, ∃ key, s.flow_key sn = some (.str key)) ∧
    (∀ s ∈ sightings, ∀ t ∈ sightings, s.connection ≠ t.connection →
      s.flow_key sn ≠ t.flow_key sn) ∧
    ((∀ s ∈ sightings, ∀ t ∈ sightings,
        s.flow_key sn = t.flow_key sn ↔ s.connection = t.connection) ↔
      ∀ s ∈ sightings, ∀ t ∈ sightings, s.connection = t.connection →
        s.name sn.toRuntime = t.name sn.toRuntime) := by
  have hKeys := fun s hs t ht =>
    TcpSighting.flow_key_iff s t sn hLower (hRead s hs) (hRead t ht)
  refine ⟨fun s hs => ⟨_, s.flow_key_eq sn hLower (hRead s hs)⟩, ?_, ?_, ?_⟩
  · intro s hs t ht hOther hSame
    exact hOther ((hKeys s hs t ht).mp hSame).2
  · intro hRows s hs t ht hSame
    exact ((hKeys s hs t ht).mp ((hRows s hs t ht).mpr hSame)).1
  · intro hNames s hs t ht
    rw [hKeys s hs t ht]
    exact ⟨And.right, fun hSame => ⟨hNames s hs t ht hSame, hSame⟩⟩

def greetingSighting (greeting : Bool) : TcpSighting where
  carrier := .plain (.ethernet {
    dst := [2, 0, 0, 0, 0, 2]
    src := [2, 0, 0, 0, 0, 1]
    tags := []
    kind := .ipv4
    body := [0x45, 0, 0, if greeting then 47 else 40, 0, 7, 0, 0, 64, 6, 0, 0, 10, 0, 0, 1,
      10, 0, 0, 2] ++ ([0x9C, 0x40, 0x27, 0x0F, 0, 0, 0, 0, 0, 0, 0, 0, 0x50, 0x18, 0, 0, 0, 0, 0,
        0] ++ if greeting then Bytes.ofText "SSH-2.0" else [])
    length_dst := EthernetFrame.length_receiver
    length_src := EthernetFrame.length_sender
    tags_valid := EthernetFrame.untagged
    length_body := by cases greeting <;> decide })
  segment := [0x9C, 0x40, 0x27, 0x0F, 0, 0, 0, 0, 0, 0, 0, 0, 0x50, 0x18, 0, 0, 0, 0, 0,
        0] ++ if greeting then Bytes.ofText "SSH-2.0" else []
  carried := by cases greeting <;> decide
  flows := []
  now := ""
  interface := ""

theorem greetingSighting_read (greeting : Bool) : ¬(greetingSighting greeting).Misread := by
  rw [TcpSighting.Misread, not_not]
  cases greeting <;> decide

theorem one_row_greetings : ∃ sightings : Set TcpSighting, greetingSighting true ∈ sightings ∧
    ∀ s ∈ sightings, ∀ t ∈ sightings,
      s.flow_key Sniffer.ascii = t.flow_key Sniffer.ascii ↔ s.connection = t.connection :=
  ⟨{greetingSighting true}, rfl, (one_row_iff Sniffer.ascii Runtime.lowersAscii_ascii
    {greetingSighting true} (fun s hs => Set.mem_singleton_iff.mp hs ▸
      greetingSighting_read true)).2.2.mpr fun s hs t ht _ => by
        rw [Set.mem_singleton_iff.mp hs, Set.mem_singleton_iff.mp ht]⟩

/-- The connection has a row under `tcp` and another one under `ssh`. -/
theorem two_rows_greeting : ¬∀ (sn : Sniffer) (sightings : Set TcpSighting),
    ∀ s ∈ sightings, ∀ t ∈ sightings,
      s.flow_key sn = t.flow_key sn ↔ s.connection = t.connection := by
  intro hAll
  have hRows := hAll Sniffer.ascii Set.univ (greetingSighting false) (Set.mem_univ _)
    (greetingSighting true) (Set.mem_univ _)
  rw [TcpSighting.flow_key_iff _ _ _ Runtime.lowersAscii_ascii (greetingSighting_read false)
    (greetingSighting_read true)] at hRows
  exact absurd (hRows.mpr (by decide)).1 (by decide)

end Sniff4Hound
