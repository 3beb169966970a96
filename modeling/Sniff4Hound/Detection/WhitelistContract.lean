import Sniff4Hound.Capture.Parser
import Sniff4Hound.Detection.PacketText
import Sniff4Hound.Pipeline.PacketGates

/-!
# What an exact whitelist exempts

Addresses, ports and protocols are compared with the header fields of a packet. A domain or
a path is looked for in the text of the packet, whose fields hold what was read from the
payload, so it exempts every packet that carries it there as a name of its own.

* `whitelisted_iff`: the condition under which a packet is exempted as the entry says.
-/

namespace Sniff4Hound

open Store

variable (env : GateEnv)

structure WhitelistEntry.Exact (entry : WhitelistEntry) : Prop where
  enabled : entry.enabled = true
  literal : env.lower (strip (if entry.match_type = "" then "exact" else entry.match_type)) ≠
    "regex"

/-- The entry names a field of the header. -/
def HeaderNames (entry : WhitelistEntry) (packet : Packet) : Prop :=
  let rt := env.toRuntime
  let category := env.lower (strip entry.category)
  let value := strip entry.value
  (category = "ip" ∧
      (packet.name rt "src_ip" = env.lower value ∨ packet.name rt "dst_ip" = env.lower value)) ∨
    (category = "port" ∧ (toString (packet.number rt "src_port") = value ∨
      toString (packet.number rt "dst_port") = value)) ∨
    (category = "protocol" ∧
      (normalize_protocol_name rt (packet "proto") = normalize_protocol_name rt (.str value) ∨
        packet.name rt "transport" = normalize_protocol_name rt (.str value)))

def WhitelistEntry.literal (entry : WhitelistEntry) : List Char :=
  (strip (env.lower (strip entry.value))).toList

/-- The entry is found, as a whole name, in the text of the packet. -/
def TextNames (entry : WhitelistEntry) (packet : Packet) : Prop :=
  env.lower (strip entry.category) ∈ ["domain", "path"] ∧
    Delimited (nameBoundary id) (entry.literal env) (build_packet_text env.toEnv packet).toList

instance (entry : WhitelistEntry) (packet : Packet) : Decidable (HeaderNames env entry packet) :=
  inferInstanceAs (Decidable (_ ∨ _ ∨ _))

variable {env}

theorem search_literal_iff
    (hSearch : SearchesLiterals env.toCatalogEnv id env.searchCase) (value : String)
    (packet : Packet) :
    regex_search_case env (literal_packet_text_pattern env.toCatalogEnv value)
        (build_packet_text env.toEnv packet) = true ↔
      Delimited (nameBoundary id) (strip value).toList
        (build_packet_text env.toEnv packet).toList := by
  rw [regex_search_case, strip_literal, limit_packet_text]
  exact hSearch value _

theorem entry_matches_iff (hSearch : SearchesLiterals env.toCatalogEnv id env.searchCase)
    {entry : WhitelistEntry} (hExact : entry.Exact env) (packet : Packet) :
    whitelist_entry_matches_packet env entry packet = true ↔
      strip entry.value ≠ "" ∧ (HeaderNames env entry packet ∨ TextNames env entry packet) := by
  have hText := search_literal_iff hSearch (env.lower (strip entry.value)) packet
  simp only [whitelist_entry_matches_packet, hExact.enabled, hExact.literal, HeaderNames,
    TextNames, WhitelistEntry.literal, ← hText]
  by_cases hValue : strip entry.value = ""
  · simp [hValue]
  · generalize env.lower (strip entry.category) = category
    by_cases hIp : category = "ip"
    · subst hIp
      simp [hValue]
    · by_cases hPort : category = "port"
      · subst hPort
        simp [hValue]
      · by_cases hProtocol : category = "protocol"
        · subst hProtocol
          simp [hValue]
        · by_cases hKnown : category = "domain" ∨ category = "path"
          · rcases hKnown with rfl | rfl
            · simp [hValue]
            · simp [hValue]
          · push Not at hKnown
            simp [hValue, hIp, hPort, hProtocol, hKnown.1, hKnown.2]

/-- Exact entries exempt a packet by a header field or by a domain or path in its text; one
without spaces stands within a single field there. -/
theorem whitelisted_iff {gates : Gates}
    (hSearch : SearchesLiterals env.toCatalogEnv id env.searchCase)
    (hLower : LowerJoins env.toRuntime)
    (hExact : ∀ entry ∈ gates.whitelist_cache, entry.Exact env) (packet : Packet) :
    (whitelisted env gates packet = true ↔ ∃ entry ∈ gates.whitelist_cache,
      strip entry.value ≠ "" ∧ (HeaderNames env entry packet ∨ TextNames env entry packet)) ∧
    ∀ entry, TextNames env entry packet → entry.literal env ≠ [] → ' ' ∉ entry.literal env →
      ∃ key ∈ PACKET_TEXT_FIELDS, ∃ k, Delimited (nameBoundary id) (entry.literal env)
        ((env.lower ((packet key).toText env.toRuntime)).toList.take k) := by
  constructor
  · rw [whitelisted, List.any_eq_true]
    refine exists_congr fun entry => and_congr_right fun hEntry => ?_
    exact entry_matches_iff hSearch (hExact entry hEntry) packet
  · rintro entry ⟨-, hStands⟩ hNe hSpace
    refine field_of_text hLower ?_ hNe ?_ hStands
    · intro a hMem hEq
      rw [id_eq, id_eq] at hEq
      exact space_not_name (hEq ▸ hMem)
    · intro v hv hEq
      rw [id_eq, id_eq] at hEq
      exact hSpace (hEq ▸ hv)

/-! ## A name in the payload of other traffic -/

def GateEnv.literals : GateEnv where
  toEnv := { Env.ascii with search := findsLiteral Char.toLower }
  json_dumps _ := ""
  json_dumps_match _ := ""
  json_dumps_action _ := ""
  compressed _ := none
  encode_idna := some
  re_escape := escape
  searchCase := findsLiteral id
  ip_address _ := none
  is_loopback _ := false
  is_multicast _ := false
  is_private _ := false
  is_link_local _ := false
  is_reserved _ := false
  is_global _ := false

theorem lowerJoins_ascii : LowerJoins Runtime.ascii := by
  intro a c
  apply String.toList_injective
  simp [Runtime.ascii]

def domainEntry : WhitelistEntry := ⟨"domain", "exact", "example.com", true⟩

def domainGates : Gates where
  dashboard_port := 45678
  whitelist_cache := [domainEntry]
  detection_exclude_scopes := []
  exclusion_filters := ⟨[], [], [], []⟩
  exclusion_networks := []

theorem domainGates_exact : ∀ entry ∈ domainGates.whitelist_cache, entry.Exact .literals := by
  intro entry hEntry
  rw [List.mem_singleton.mp hEntry]
  exact ⟨rfl, by decide +kernel⟩

def mentioningFrame : Bytes :=
  let payload := Bytes.ofText "see example.com"
  sampleFrame 17 ([0xC0, 0, 0x27, 0x0F, 0, UInt8.ofNat (8 + payload.length), 0, 0] ++ payload)

def hostName (rt : Runtime) (value : Value) : String :=
  String.ofList (((rt.lower (strip (value.text rt))).toList.takeWhile (· ≠ ':')).reverse.dropWhile
    (· = '.')).reverse

def FieldNames (env : GateEnv) (entry : WhitelistEntry) (packet : Packet) : Prop :=
  let rt := env.toRuntime
  let category := env.lower (strip entry.category)
  HeaderNames env entry packet ∨
    (category = "domain" ∧ hostName rt (.str entry.value) ∈
      [hostName rt (packet "domain"), hostName rt (packet "http_host")]) ∨
    (category = "path" ∧ packet.name rt "http_path" = env.lower (strip entry.value))

instance (env : GateEnv) (entry : WhitelistEntry) (packet : Packet) :
    Decidable (FieldNames env entry packet) :=
  inferInstanceAs (Decidable (_ ∨ _ ∨ _))

/-- The datagram is exempt, and none of its fields is the domain. -/
theorem payload_exempts : ¬ ∀ (env : GateEnv) (gates : Gates) (sn : Sniffer)
    (flows : List String) (captured : Sniffer.Captured) (c : Capture),
    SearchesLiterals env.toCatalogEnv id env.searchCase → LowerJoins env.toRuntime →
      (∀ entry ∈ gates.whitelist_cache, entry.Exact env) →
      sn.parse_packet flows captured = some c → whitelisted env gates c.packet = true →
      ∃ entry ∈ gates.whitelist_cache, FieldNames env entry c.packet := by
  intro hAll
  have hParsed : (Sniffer.parse_packet .ascii [] ⟨"", "", mentioningFrame⟩).any (fun c =>
      whitelisted .literals domainGates c.packet &&
        !decide (FieldNames .literals domainEntry c.packet)) = true := by
    decide +kernel
  obtain ⟨c, hParse, hBoth⟩ := Option.any_eq_true _ _ |>.mp hParsed
  rw [Bool.and_eq_true, Bool.not_eq_true', decide_eq_false_iff_not] at hBoth
  obtain ⟨hExempt, hField⟩ := hBoth
  obtain ⟨entry, hEntry, hNames⟩ := hAll .literals domainGates .ascii [] _ c
    (findsLiteral_searches rfl id) lowerJoins_ascii domainGates_exact hParse hExempt
  exact hField (List.mem_singleton.mp hEntry ▸ hNames)

theorem whitelisted_iff_domainGates : whitelisted .literals domainGates
      (Value.get [("payload_text", .str "see example.com")]) = true ↔
    ∃ entry ∈ domainGates.whitelist_cache, strip entry.value ≠ "" ∧
      (HeaderNames .literals entry (Value.get [("payload_text", .str "see example.com")]) ∨
        TextNames .literals entry (Value.get [("payload_text", .str "see example.com")])) := by
  exact (whitelisted_iff (findsLiteral_searches rfl id) lowerJoins_ascii domainGates_exact _).1

end Sniff4Hound
