import Sniff4Hound.Capture.Packet

/-!
# The server of a conversation

`_record_intel` records a domain with the destination address of its packet and with the port that
`service_endpoint` names, which takes one of the two ends for the server. So the pair is no endpoint
of the conversation when the source is taken for it, and two packets in different directions are
recorded under different addresses (`intel_consistent_iff`).
-/

namespace Sniff4Hound

structure Endpoint where
  ip : String
  port : Nat
  ip_ne : ip ≠ ""
  ip_strip : strip ip = ip

/-- The address and port under which `_record_intel` records the domain of a packet. -/
def intelEndpoint (rt : Runtime) (packet : Packet) : String × Int :=
  (strip (((packet "dst_ip").orElse (packet "src_ip")).text rt), (service_endpoint rt packet).2)

/-- A packet between the two endpoints, as the parser reports it, with a name. -/
structure Travels (rt : Runtime) (transport : String) (source destination : Endpoint)
    (packet : Packet) : Prop where
  named : rt.lower (((packet "transport").orElse (packet "proto")).text rt) = transport
  src_ip : packet "src_ip" = .str source.ip
  src_port : packet "src_port" = .int source.port
  dst_ip : packet "dst_ip" = .str destination.ip
  dst_port : packet "dst_port" = .int destination.port
  domain : strip ((packet "domain").text rt) ≠ ""

/-- The test of `service_endpoint` that takes the source for the server. -/
def serverSrc (rt : Runtime) (transport : String) (source destination : Endpoint)
    (packet : Packet) : Bool :=
  let flags := rt.upper ((packet "tcp_flags").text rt)
  let known := if transport = "tcp" then TCP_PORT_PROTOCOLS else UDP_PORT_PROTOCOLS
  if transport = "tcp" && contains flags "SYN" then contains flags "ACK"
  else if known.has source.port != known.has destination.port then known.has source.port
  else decide (source.port < destination.port)

def serverEnd (rt : Runtime) (transport : String) (source destination : Endpoint)
    (packet : Packet) : Endpoint :=
  if serverSrc rt transport source destination packet then source else destination

def Endpoint.pair (e : Endpoint) : String × Int := (e.ip, e.port)

/-- Both packets are recorded under one endpoint of the conversation, the one that
`service_endpoint` names for both. -/
def Consistent (rt : Runtime) (a b : Endpoint) (p q : Packet) : Prop :=
  intelEndpoint rt p = intelEndpoint rt q ∧
    (intelEndpoint rt p = a.pair ∨ intelEndpoint rt p = b.pair) ∧
      service_endpoint rt p = intelEndpoint rt p ∧ service_endpoint rt q = intelEndpoint rt q

variable {rt : Runtime} {transport : String} {source destination : Endpoint} {packet : Packet}

variable (h : Travels rt transport source destination packet)

include h

theorem service_endpoint_eq (hTransport : transport ∈ ["tcp", "udp"]) : service_endpoint rt packet =
      if source.port = 0 ∨ destination.port = 0 then ("", 0)
      else (serverEnd rt transport source destination packet).pair := by
  have hListed : transport ∈ ["tcp", "udp", "sctp"] := by
    rcases List.mem_pair.mp hTransport with rfl | rfl <;> decide
  rw [service_endpoint, h.named, h.src_ip, h.src_port, h.dst_ip, h.dst_port]
  simp only [Value.safe_int, Value.toInt?, Option.getD_some, text_str, not_true_eq_false, hListed,
    false_or, Int.natCast_eq_zero, Int.ofNat_lt]
  refine if_congr Iff.rfl rfl ?_
  rw [serverEnd, apply_ite Endpoint.pair]
  rfl

theorem intelEndpoint_eq :
    intelEndpoint rt packet = (destination.ip, (service_endpoint rt packet).2) := by
  rw [intelEndpoint, h.dst_ip, Value.orElse,
    if_pos (by simpa [Value.truthy] using destination.ip_ne), text_str, destination.ip_strip]

/-- The endpoint that is named is the one that is recorded when the destination is taken for the
server, or when both ends have one address. -/
theorem service_endpoint_eq_intel_iff (hTransport : transport ∈ ["tcp", "udp"]) :
    service_endpoint rt packet = intelEndpoint rt packet ↔
      (source.port ≠ 0 ∧ destination.port ≠ 0) ∧
        (source.ip = destination.ip ∨ serverSrc rt transport source destination packet = false) := by
  rw [intelEndpoint_eq h, service_endpoint_eq h hTransport, ← not_or]
  by_cases hPorts : source.port = 0 ∨ destination.port = 0
  · rw [if_pos hPorts, Prod.mk.injEq]
    exact iff_of_false (fun hSame => destination.ip_ne hSame.1.symm) fun hBoth => hBoth.1 hPorts
  · rw [if_neg hPorts, serverEnd, Endpoint.pair, Prod.mk.injEq, and_iff_left rfl,
      and_iff_right hPorts]
    cases serverSrc rt transport source destination packet with
    | true => simp
    | false => simp

omit h

/-! ## Two packets of a conversation -/

/-- The ports are not zero. With one address at both ends, the packets name the same port; otherwise
they go the same way and the destination is taken for the server in both. -/
structure SameServer (rt : Runtime) (transport : String) (a b source destination : Endpoint)
    (p q : Packet) : Prop where
  ports : a.port ≠ 0 ∧ b.port ≠ 0
  one : a.ip = b.ip → (serverEnd rt transport a b p).port =
    (serverEnd rt transport source destination q).port
  two : a.ip ≠ b.ip → source = a ∧ serverSrc rt transport a b p = false ∧
    serverSrc rt transport source destination q = false

/-- Two packets of a conversation, the second one in either direction, are recorded alike, under the
endpoint that is named for them, exactly when they name the same server and it is the
destination. -/
theorem intel_consistent_iff (rt : Runtime) (transport : String)
    (hTransport : transport ∈ ["tcp", "udp"]) (a b source destination : Endpoint)
    (hEnds : source = a ∧ destination = b ∨ source = b ∧ destination = a) (p q : Packet)
    (hp : Travels rt transport a b p) (hq : Travels rt transport source destination q) :
    Consistent rt a b p q ↔ SameServer rt transport a b source destination p q := by
  have hNamed := service_endpoint_eq_intel_iff hp hTransport
  have hNamed' := service_endpoint_eq_intel_iff hq hTransport
  have hSwap : (source.port ≠ 0 ∧ destination.port ≠ 0 ↔ a.port ≠ 0 ∧ b.port ≠ 0) ∧
      (source.ip = destination.ip ↔ a.ip = b.ip) := by
    rcases hEnds with ⟨rfl, rfl⟩ | ⟨rfl, rfl⟩
    · exact ⟨Iff.rfl, Iff.rfl⟩
    · exact ⟨and_comm, eq_comm⟩
  rw [hSwap.1, hSwap.2] at hNamed'
  have hServer := service_endpoint_eq hp hTransport
  have hServer' := service_endpoint_eq hq hTransport
  constructor
  · rintro ⟨hSame, -, hFirst, hSecond⟩
    obtain ⟨hPorts, hWay⟩ := hNamed.mp hFirst
    have hWay' := (hNamed'.mp hSecond).2
    rw [if_neg (not_or.mpr hPorts)] at hServer
    rw [if_neg (not_or.mpr (hSwap.1.mpr hPorts))] at hServer'
    have hPairs := (hFirst.trans hSame).trans hSecond.symm
    rw [hServer, hServer', Endpoint.pair, Endpoint.pair, Prod.mk.injEq, Int.natCast_inj] at hPairs
    refine ⟨hPorts, fun _ => hPairs.2, fun hTwo => ?_⟩
    have hDst := hWay.resolve_left hTwo
    have hDst' := hWay'.resolve_left hTwo
    refine ⟨?_, hDst, hDst'⟩
    rcases hEnds with ⟨rfl, -⟩ | ⟨rfl, rfl⟩
    · rfl
    · rw [serverEnd, serverEnd, hDst, hDst'] at hPairs
      exact absurd hPairs.1.symm hTwo
  · intro h
    rw [if_neg (not_or.mpr h.ports)] at hServer
    rw [if_neg (not_or.mpr (hSwap.1.mpr h.ports))] at hServer'
    have hWays : (a.ip = b.ip ∨ serverSrc rt transport a b p = false) ∧
        (a.ip = b.ip ∨ serverSrc rt transport source destination q = false) := by
      by_cases hOne : a.ip = b.ip
      · exact ⟨.inl hOne, .inl hOne⟩
      · exact ⟨.inr (h.two hOne).2.1, .inr (h.two hOne).2.2⟩
    have hFirst := hNamed.mpr ⟨h.ports, hWays.1⟩
    have hSecond := hNamed'.mpr ⟨h.ports, hWays.2⟩
    refine ⟨?_, ?_, hFirst, hSecond⟩
    · rw [intelEndpoint_eq hp, intelEndpoint_eq hq, hServer, hServer', Prod.mk.injEq]
      by_cases hOne : a.ip = b.ip
      · refine ⟨?_, congrArg Nat.cast (h.one hOne)⟩
        rcases hEnds with ⟨-, rfl⟩ | ⟨-, rfl⟩
        · rfl
        · exact hOne.symm
      · obtain ⟨rfl, hDst, hDst'⟩ := h.two hOne
        have hSame : destination = b := by
          rcases hEnds with ⟨-, rfl⟩ | ⟨rfl, rfl⟩ <;> rfl
        rw [serverEnd, serverEnd, hDst, hDst', hSame]
        exact ⟨rfl, rfl⟩
    · rw [← hFirst, hServer, serverEnd]
      split
      · exact .inl rfl
      · exact .inr rfl

/-! ## A request and its answer -/

def client : Endpoint := ⟨"10.0.0.5", 50000, by decide, by decide⟩
def resolver : Endpoint := ⟨"10.0.0.1", 53, by decide, by decide⟩

def datagram (source destination : Endpoint) : Packet := fun key =>
  (([("transport", .str "udp"), ("src_ip", .str source.ip), ("src_port", .int source.port),
    ("dst_ip", .str destination.ip), ("dst_port", .int destination.port),
    ("domain", .str "example.org")] : List (String × Value)).lookup key).getD .null

theorem travels_datagram (source destination : Endpoint) :
    Travels Runtime.ascii "udp" source destination (datagram source destination) :=
  ⟨show Runtime.ascii.lower ((Value.str "udp").text Runtime.ascii) = "udp" by decide, rfl, rfl, rfl,
    rfl, show strip ((Value.str "example.org").text Runtime.ascii) ≠ "" by decide⟩

theorem intel_consistent_query :
    Consistent Runtime.ascii client resolver (datagram client resolver)
      (datagram client resolver) :=
  (intel_consistent_iff Runtime.ascii "udp" (by decide) client resolver client resolver
    (.inl ⟨rfl, rfl⟩) _ _ (travels_datagram _ _) (travels_datagram _ _)).mpr
    ⟨by decide, fun h => absurd h (by decide), fun _ => ⟨rfl, by decide, by decide⟩⟩

/-- The answer is recorded under the address of the client and the port of the resolver. -/
theorem intel_of_answer :
    Travels Runtime.ascii "udp" client resolver (datagram client resolver) ∧
      Travels Runtime.ascii "udp" resolver client (datagram resolver client) ∧
      ¬ Consistent Runtime.ascii client resolver (datagram client resolver)
        (datagram resolver client) := by
  refine ⟨travels_datagram _ _, travels_datagram _ _, fun h => ?_⟩
  have hSame := h.1
  rw [intelEndpoint_eq (travels_datagram _ _), intelEndpoint_eq (travels_datagram _ _)] at hSame
  exact absurd (Prod.ext_iff.mp hSame).1 (by decide)

end Sniff4Hound
