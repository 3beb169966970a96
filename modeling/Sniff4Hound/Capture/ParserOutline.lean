import Sniff4Hound.Capture.Parser

/-!
# What a parsed packet says

Outlines of the parsers, one for each: which keys a parser leaves as they are, and which
values it writes. Whatever a frame carries, the link addresses come from its first bytes and
the network addresses from the header behind them.
-/

namespace Sniff4Hound

def ADDRESS_KEYS : List String := ["eth_src", "eth_dst", "eth_type", "src_ip", "dst_ip"]

def LINK_KEYS : List String := ["eth_src", "eth_dst", "eth_type"]

def NAMED_KEYS : List String := "proto" :: "dhcp_msg_type" :: ADDRESS_KEYS

def PLAIN_KEYS : List String := "domain" :: CORE_KEYS

theorem named_subset_core : NAMED_KEYS ⊆ CORE_KEYS := by decide

theorem address_subset_core : ADDRESS_KEYS ⊆ CORE_KEYS := by decide

theorem address_subset_header : ADDRESS_KEYS ⊆ HEADER_KEYS := by decide

theorem link_subset_address : LINK_KEYS ⊆ ADDRESS_KEYS := by decide

def NETWORK_NAMES : List String :=
  ["unknown", "icmp", "icmpv6", "igmp", "gre", "esp", "ah", "sctp"] ++ IP_PROTOCOLS.map Prod.snd

theorem name_network (proto : Nat) :
    (if IP_PROTOCOLS.name proto = "" then "unknown" else IP_PROTOCOLS.name proto) ∈
      NETWORK_NAMES := by
  split
  · decide
  · rename_i hNamed
    rw [Table.name] at hNamed ⊢
    cases hLookup : IP_PROTOCOLS.lookup proto with
    | none =>
      rw [hLookup] at hNamed
      exact absurd rfl hNamed
    | some name =>
      obtain ⟨front, rest, hSplit, -⟩ := List.lookup_eq_some_iff.mp hLookup
      have hMem : (proto, name) ∈ IP_PROTOCOLS := by
        rw [hSplit]
        exact List.mem_append_right _ List.mem_cons_self
      exact List.mem_append_right _ (List.mem_map_of_mem hMem)

namespace Sniffer

variable (sn : Sniffer) (c : Capture)

/-! ## Transports keep the addresses -/

variable (body : Bytes)

theorem parse_tcp_addresses (ip_version : Nat) :
    Agree ADDRESS_KEYS c (sn.parse_tcp c body ip_version) := by
  by_cases hShort : body.length < 20
  · have hNamed := (parse_tcp_short_agree sn c body ip_version hShort).mono address_subset_core
    refine Agree.trans ?_ hNamed
    simp (disch := decide) only [agree_set, Agree.refl]
  · have hNamed := (parse_tcp_agree sn c body ip_version (by omega)).mono address_subset_core
    refine Agree.trans ?_ hNamed
    simp (disch := decide) only [tcpFields, agree_set, Agree.refl]

theorem parse_udp_addresses (ip_version : Nat) :
    Agree ADDRESS_KEYS c (sn.parse_udp c body ip_version) := by
  by_cases hShort : body.length < 8
  · have hNamed := (parse_udp_short_agree sn c body ip_version hShort).mono address_subset_core
    refine Agree.trans ?_ hNamed
    simp (disch := decide) only [agree_set, Agree.refl]
  · have hNamed := (parse_udp_agree sn c body ip_version (by omega)).mono address_subset_header
    refine Agree.trans ?_ hNamed
    simp (disch := decide) only [udpFields, agree_set, Agree.refl]

theorem shortBody_named (c' : Capture) (summary : String) (body : Bytes)
    (h : Agree NAMED_KEYS c c') : Agree NAMED_KEYS c (sn.shortBody c' summary body) :=
  h.trans ((shortBody_agree sn c' summary body).mono named_subset_core)

theorem addresses_of_named {c c' : Capture} {value : Value}
    (h : Agree NAMED_KEYS (c.set "proto" value) c') : Agree ADDRESS_KEYS c c' := by
  have hAddresses : ADDRESS_KEYS ⊆ NAMED_KEYS := by decide
  refine Agree.trans ?_ (h.mono hAddresses)
  exact (agree_set value (by decide)).mpr (Agree.refl _ c)

theorem parse_sctp_agree (ip_version : Nat) :
    Agree NAMED_KEYS (c.set "proto" (.str "sctp")) (sn.parse_sctp c body ip_version) := by
  rw [parse_sctp]
  dsimp only
  split
  · apply shortBody_named
    simp (disch := decide) only [agree_set, Agree.refl]
  · rw [agree_hopDefault _ (by decide), summaryOrLine, agree_set _ (by decide)]
    refine Agree.trans ?_ (bannerPayload_agree sn _ _ (by decide) (by decide) (by decide))
    simp (disch := decide) only [agree_set, Agree.refl]

theorem parse_icmp_agree (ipv6 : Bool) :
    Agree PLAIN_KEYS (c.set "proto" (.str (if ipv6 then "icmpv6" else "icmp")))
      (sn.parse_icmp c body ipv6) := by
  rw [parse_icmp]
  dsimp only
  by_cases hShort : body.length < 4
  · rw [if_pos hShort]
    refine Agree.trans ?_ (bannerPayload_agree sn _ body (by decide) (by decide) (by decide))
    exact (agree_set _ (by decide)).mpr (Agree.refl _ _)
  · rw [if_neg hShort, agree_set _ (by decide), agree_set _ (by decide)]
    refine Agree.trans ?_ (readPayload_agree sn _ _ (by decide) (by decide))
    simp (disch := decide) only [agree_set, Agree.refl]

theorem parse_igmp_agree :
    Agree PLAIN_KEYS (c.set "proto" (.str "igmp")) (sn.parse_igmp c body) := by
  rw [parse_igmp]
  dsimp only
  split
  · refine Agree.trans ?_ (readPayload_agree sn _ _ (by decide) (by decide))
    simp (disch := decide) only [agree_summarize, Agree.refl]
  · split <;> simp (disch := decide) only [agree_describe, agree_set, Agree.refl]

theorem parse_gre_agree : Agree PLAIN_KEYS (c.set "proto" (.str "gre")) (parse_gre c body) := by
  rw [parse_gre]
  dsimp only
  split <;> simp (disch := decide) only [agree_describe, agree_summarize, Agree.refl]

theorem parse_esp_agree : Agree PLAIN_KEYS (c.set "proto" (.str "esp")) (parse_esp c body) := by
  rw [parse_esp]
  split <;> simp (disch := decide) only [agree_summarize, Agree.refl]

theorem nameIpProtocol_agree (proto label : String) (body : Bytes) :
    Agree PLAIN_KEYS (c.set "proto" (.str (if proto = "" then "unknown" else proto)))
      (sn.nameIpProtocol c proto label body) := by
  refine Agree.trans ?_ (bannerPayload_agree sn _ _ (by decide) (by decide) (by decide))
  simp (disch := decide) only [agree_set, Agree.refl]

theorem parse_ah_addresses (ip_version : Nat) :
    Agree ADDRESS_KEYS c (sn.parse_ah c body ip_version) := by
  have hInner : Agree ADDRESS_KEYS c (sn.parseAhInner c body ip_version) := by
    rw [parseAhInner]
    split_ifs
    · exact parse_tcp_addresses sn c _ ip_version
    · exact parse_udp_addresses sn c _ ip_version
    · exact addresses_of_named ((parse_icmp_agree sn c _ _).mono (by decide))
    · simp (disch := decide) only [agree_summarize, agree_set, Agree.refl]
  rw [parse_ah]
  dsimp only
  split
  · simp (disch := decide) only [agree_summarize, agree_set, Agree.refl]
  · exact (agree_summarize _ (by decide) (by decide)).mpr hInner

/-! ## The network layer -/

/-- What becomes of the body of a network packet: the transports and the authentication header
have parsers of their own, and what else there is only names a protocol and keeps a banner. -/
inductive Carried (body : Bytes) (ip_version : Nat) (proto : Option Nat) : Capture → Prop
  | tcp : proto = some IP_PROTO_TCP → Carried body ip_version proto (sn.parse_tcp c body ip_version)
  | udp : proto = some IP_PROTO_UDP → Carried body ip_version proto (sn.parse_udp c body ip_version)
  | sctp : proto = some IP_PROTO_SCTP →
    Carried body ip_version proto (sn.parse_sctp c body ip_version)
  | ah : proto = some IP_PROTO_IPV6_AH →
    Carried body ip_version proto (sn.parse_ah c body ip_version)
  | plain {name : String} {c' : Capture} : proto ≠ some IP_PROTO_TCP →
    proto ≠ some IP_PROTO_UDP → proto ≠ some IP_PROTO_SCTP → proto ≠ some IP_PROTO_IPV6_AH →
    name ∈ NETWORK_NAMES → Agree PLAIN_KEYS (c.set "proto" (.str name)) c' →
    Carried body ip_version proto c'

theorem carried_ipv4 (proto : Nat) (body : Bytes) :
    sn.Carried c body 4 (some proto) (sn.parseIpv4Body c proto body) := by
  by_cases hTcp : proto = IP_PROTO_TCP
  · subst hTcp
    exact .tcp rfl
  by_cases hUdp : proto = IP_PROTO_UDP
  · subst hUdp
    exact .udp rfl
  by_cases hSctp : proto = IP_PROTO_SCTP
  · subst hSctp
    exact .sctp rfl
  by_cases hAh : proto = IP_PROTO_IPV6_AH
  · subst hAh
    exact .ah rfl
  have hPlain : ∀ {name : String} {c' : Capture}, name ∈ NETWORK_NAMES →
      Agree PLAIN_KEYS (c.set "proto" (.str name)) c' → sn.Carried c body 4 (some proto) c' :=
    .plain (by simpa using hTcp) (by simpa using hUdp) (by simpa using hSctp) (by simpa using hAh)
  rw [parseIpv4Body, if_neg hTcp, if_neg hUdp, if_neg hSctp]
  split
  · exact hPlain (by decide) (parse_icmp_agree sn c body false)
  split
  · exact hPlain (by decide) (parse_igmp_agree sn c body)
  split
  · exact hPlain (by decide) (parse_gre_agree c body)
  split
  · exact hPlain (by decide) (parse_esp_agree c body)
  exact hPlain (name_network proto) (nameIpProtocol_agree sn c _ _ body)

theorem carried_ipv6 (next_header : Option Nat) (body : Bytes) (detail : String) :
    sn.Carried c body 6 next_header (sn.parseIpv6Body c next_header body detail) := by
  unfold parseIpv6Body
  split
  · exact .tcp ‹_›
  split
  · exact .udp ‹_›
  split
  · exact .sctp ‹_›
  by_cases hAh : next_header = some IP_PROTO_IPV6_AH
  · subst hAh
    exact .ah rfl
  have hPlain : ∀ {name : String} {c' : Capture}, name ∈ NETWORK_NAMES →
      Agree PLAIN_KEYS (c.set "proto" (.str name)) c' → sn.Carried c body 6 next_header c' :=
    .plain ‹_› ‹_› ‹_› hAh
  split
  · exact hPlain (by decide) (parse_icmp_agree sn c body true)
  split
  · exact hPlain (by decide) (parse_esp_agree c body)
  cases next_header with
  | none => exact hPlain (by decide) (nameIpProtocol_agree sn c "" _ body)
  | some proto => exact hPlain (name_network proto) (nameIpProtocol_agree sn c _ _ body)

theorem Carried.addresses {c c' : Capture} {body : Bytes} {ip_version : Nat} {proto : Option Nat}
    (h : sn.Carried c body ip_version proto c') : Agree ADDRESS_KEYS c c' := by
  cases h with
  | tcp => exact parse_tcp_addresses sn c body ip_version
  | udp => exact parse_udp_addresses sn c body ip_version
  | sctp => exact addresses_of_named (parse_sctp_agree sn c body ip_version)
  | ah => exact parse_ah_addresses sn c body ip_version
  | plain _ _ _ _ _ hAgree => exact addresses_of_named (hAgree.mono (by decide))

theorem summaryOrFallback_agree : Agree CORE_KEYS c (sn.summaryOrFallback c) := by
  rw [summaryOrFallback, Capture.orSet, agree_set _ (by decide)]
  exact Agree.refl _ c

theorem parse_ipv4_addresses (payload : Bytes) (hLong : 20 ≤ payload.length) :
    Agree ADDRESS_KEYS (ipv4Fields c payload) (sn.parse_ipv4 c payload) := by
  rw [parse_ipv4, if_neg (by omega)]
  exact (carried_ipv4 sn _ _ _).addresses.trans
    ((summaryOrFallback_agree sn _).mono address_subset_core)

theorem parse_ipv6_addresses (payload : Bytes) (hLong : 40 ≤ payload.length) :
    Agree ADDRESS_KEYS (ipv6Fields c payload) (sn.parse_ipv6 c payload) := by
  rw [parse_ipv6, if_neg (by omega)]
  exact (carried_ipv6 sn _ _ _ _).addresses.trans
    ((summaryOrFallback_agree sn _).mono address_subset_core)

theorem arpMismatch_agree (rt : Runtime) (sender_mac : String) :
    Agree CORE_KEYS c (arpMismatch rt c sender_mac) := by
  rw [arpMismatch]
  split
  · exact (agree_set _ (by decide)).mpr (Agree.refl _ c)
  · exact Agree.refl _ c

theorem bannerOrSummary_agree (payload : Bytes) :
    Agree CORE_KEYS c (sn.bannerOrSummary c payload) :=
  (agree_set _ (by decide)).mpr (readPayload_agree sn c payload (by decide) (by decide))

theorem parse_arp_agree (payload : Bytes) (hLong : 28 ≤ payload.length) :
    Agree CORE_KEYS (arpFields (c.set "proto" (.str "arp")) payload) (sn.parse_arp c payload) := by
  rw [parse_arp]
  dsimp only
  rw [if_neg (by omega)]
  refine Agree.trans ?_ (bannerOrSummary_agree sn _ payload)
  exact (agree_set _ (by decide)).mpr (arpMismatch_agree _ sn.toRuntime _)

theorem finalize_packet_agree : Agree CORE_KEYS c (sn.finalize_packet c) := by
  refine Agree.trans ?_ (summaryOrFallback_agree sn _)
  simp (disch := decide) only [Capture.orSet, agree_set, Agree.refl]

end Sniffer

end Sniff4Hound
