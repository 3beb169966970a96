import Sniff4Hound.Capture.Parser
import Sniff4Hound.Detection.PacketText

/-!
# What an exact blacklist entry finds

The monitor that mirrors an address, port or protocol compares it with the header fields.
For a domain or a path it searches the text of the packet for the value as it was stored,
so a field that only names the value counts when its letters stand in that text with no
letter of a name next to them: a name with the root dot, or one behind the end of the text,
is missed (`mirror_matches_iff`).
-/

namespace Sniff4Hound

open Store

/-! ## The mirrored monitor -/

/-- The criteria of a stored `match`, for the keys that a mirrored monitor has. -/
def storedCriteria (rt : Runtime) (stored : Value) : Criteria :=
  let items (key : String) : List Value :=
    match Value.get stored.entriesOf key with
    | .list items => items
    | _ => []
  let texts (key : String) : List String := (items key).map (Value.toText rt)
  { protocols := texts "protocols"
    ports := (items "ports").map fun item => item.safe_int rt 0
    port_regex := texts "port_regex"
    ips := texts "ips"
    ip_regex := texts "ip_regex"
    protocol_regex := texts "protocol_regex"
    payload_regex := texts "payload_regex" }

def mirror_matches (env : CatalogEnv) (entry : BlacklistEntry) (packet : Packet) : Bool :=
  rule_matches_packet env.toEnv entry.enabled
    (.node (storedCriteria env.toRuntime (blacklistMatch env entry)) [] [] []) packet
    (build_packet_text env.toEnv packet)

section Criteria

variable {env : Env} {packet : Packet} {packet_text : String}

abbrev exactCriteria (protocols : List String) (ports : List Int) (ips payload_regex : List String) :
    Criteria :=
  { protocols := protocols, ports := ports, ips := ips, payload_regex := payload_regex }

theorem accepts_exact (protocols : List String) (ports : List Int)
    (ips payload_regex : List String) :
    match_accepts env packet packet_text
        (.node (exactCriteria protocols ports ips payload_regex) [] [] []) = true ↔
      protocolsOk env.toRuntime (exactCriteria protocols ports ips payload_regex)
          (header env.toRuntime packet) = true ∧
        portListsOk (exactCriteria protocols ports ips payload_regex)
          (header env.toRuntime packet) = true ∧
        addressesOk env (exactCriteria protocols ports ips payload_regex)
          (header env.toRuntime packet) = true ∧
        hasCriteria env.toRuntime (exactCriteria protocols ports ips payload_regex) [] [] = true ∧
        wantsFound env payload_regex [packet_text] = true := by
  simp [match_accepts, criteriaOk, nonblank, versionsOk, wants, nonzero, portExclusionsOk,
    portPatternsOk, wantsFound, regex_matches_any, anyFound, protocolPatternsOk, flagsOk,
    parse_tcp_flags_list, flagSet, controlOk, literalsOk, needles, payloadOk, hexPrefixes, lengthsOk,
    all_accept, any_accepts, and_assoc]

theorem accepts_ips {ip : String} (hIp : strip ip ≠ "") :
    match_accepts env packet packet_text (.node { ips := [ip] } [] [] []) = true ↔
      packet.name env.toRuntime "src_ip" = env.lower (strip ip) ∨
        packet.name env.toRuntime "dst_ip" = env.lower (strip ip) := by
  refine (accepts_exact [] [] [ip] []).trans ?_
  simp [protocolsOk, protocolNames, portListsOk, addressesOk, wantsFound, regex_matches_any, anyFound,
    hasCriteria, nonblank, nonzero, wants, header, hIp]

theorem accepts_ports {port : Int} (hPort : port ≠ 0) :
    match_accepts env packet packet_text (.node { ports := [port] } [] [] []) = true ↔
      packet.number env.toRuntime "src_port" = port ∨
        packet.number env.toRuntime "dst_port" = port := by
  refine (accepts_exact [] [port] [] []).trans ?_
  simp [protocolsOk, protocolNames, portListsOk, addressesOk, wantsFound, regex_matches_any, anyFound,
    hasCriteria, nonblank, nonzero, wants, header, hPort]

theorem accepts_protocols {name : String} (hName : strip name ≠ "") :
    match_accepts env packet packet_text (.node { protocols := [name] } [] [] []) = true ↔
      normalize_protocol_name env.toRuntime (packet "proto") =
          normalize_protocol_name env.toRuntime (.str name) ∨
        packet.name env.toRuntime "transport" ≠ "" ∧ packet.name env.toRuntime "transport" =
          normalize_protocol_name env.toRuntime (.str name) := by
  refine (accepts_exact [name] [] [] []).trans ?_
  by_cases hTransport : packet.name env.toRuntime "transport" = ""
  · simp [protocolsOk, protocolNames, portListsOk, addressesOk, wantsFound, regex_matches_any,
      anyFound, hasCriteria, nonblank, nonzero, wants, header, hName, hTransport]
  · simp [protocolsOk, protocolNames, portListsOk, addressesOk, wantsFound, regex_matches_any,
      anyFound, hasCriteria, nonblank, nonzero, wants, header, hName, hTransport]

theorem accepts_payload_regex {pattern : String} (hPattern : strip pattern ≠ "") :
    match_accepts env packet packet_text (.node { payload_regex := [pattern] } [] [] []) = true ↔
      regex_search env (strip pattern) packet_text = true := by
  refine (accepts_exact [] [] [] [pattern]).trans ?_
  simp [protocolsOk, protocolNames, portListsOk, addressesOk, wantsFound, regex_matches_any, anyFound,
    hasCriteria, nonblank, nonzero, wants, header, hPattern]

end Criteria

/-! ## What an entry is about -/

/-- `str.lower` changes nothing twice, and no address is blank. -/
structure Settled (env : CatalogEnv) : Prop where
  lower : ∀ text, env.lower (strip (env.lower (strip text))) = env.lower (strip text)
  unknown : env.lower "unknown" = "unknown"
  compressed : ∀ text canonical, env.compressed text = some canonical →
    strip (env.lower canonical) ≠ ""

def withoutPort (text : String) : String :=
  String.ofList (text.toList.takeWhile (· ≠ ':'))

def NamesDomain (env : CatalogEnv) (value : String) (packet : Packet) : Prop :=
  let domain := strip ((packet "domain").text env.toRuntime)
  let host := withoutPort (strip ((packet "http_host").text env.toRuntime))
  (domain ≠ "" ∧ env.idna domain = value) ∨ (host ≠ "" ∧ env.idna host = value)

instance (env : CatalogEnv) (value : String) (packet : Packet) :
    Decidable (NamesDomain env value packet) :=
  inferInstanceAs (Decidable (_ ∨ _))

/-- The packet is one that the entry is meant for, by the fields of its category. -/
def EntryNames (env : CatalogEnv) (entry : BlacklistEntry) (packet : Packet) : Prop :=
  let rt := env.toRuntime
  (entry.category = "ip" ∧
      (packet.name rt "src_ip" = env.lower (strip entry.value) ∨
        packet.name rt "dst_ip" = env.lower (strip entry.value))) ∨
    (entry.category = "port" ∧
      (packet.number rt "src_port" = (Value.str entry.value).safe_int rt 0 ∨
        packet.number rt "dst_port" = (Value.str entry.value).safe_int rt 0)) ∨
    (entry.category = "protocol" ∧ normalize_protocol_name rt (packet "proto") = entry.value) ∨
    (entry.category = "domain" ∧ NamesDomain env entry.value packet) ∨
    (entry.category = "path" ∧ (packet "http_path").text rt = entry.value)

/-- An exact entry as `create_blacklist_entry` stores it. -/
structure CreatedExact (env : CatalogEnv) (entry : BlacklistEntry) : Prop where
  exact : entry.match_type = "exact"
  enabled : entry.enabled = true
  category : entry.category ∈ BLACKLIST_CATEGORIES
  value : ∃ given, strip given ≠ "" ∧
    normalize_list_value env entry.category (strip given) = .ok entry.value

theorem created_of_create {env : CatalogEnv} {s s' : Store.Catalog}
    {entry_id category match_type value label : String} {entry : BlacklistEntry}
    (hCreate : create_blacklist_entry env s entry_id category match_type value label = .ok s')
    (hEntry : s'.blacklist.lookup entry_id = some entry) (hExact : entry.match_type = "exact") :
    CreatedExact env entry := by
  obtain ⟨stored, hCategory, hEnabled, hKind, -, rfl⟩ := create_blacklist_entry_ok hCreate
  have hStored : some stored = some entry := by
    rw [← hEntry]
    show some stored = (s.blacklist.set entry_id stored).lookup entry_id
    rw [Dict.lookup_set, if_pos rfl]
  obtain rfl := Option.some.inj hStored
  rcases hKind with hRegex | ⟨-, hGiven, hValue⟩
  · rw [hExact] at hRegex
    exact absurd hRegex (by decide)
  · exact ⟨hExact, hEnabled, hCategory, value, hGiven, hValue⟩

section Created

variable {env : CatalogEnv} {entry : BlacklistEntry}

theorem Settled.strip_lower (h : Settled env) {text : String} (hText : strip text ≠ "") :
    strip (env.lower (strip text)) ≠ "" := by
  intro hEmpty
  have hTwice := h.lower text
  rw [hEmpty, (env.lower_eq_empty "").mpr rfl] at hTwice
  exact hText ((env.lower_eq_empty _).mp hTwice.symm)

theorem Settled.strip_compressed (h : Settled env) {text : String} (hText : strip text ≠ "") :
    strip (env.compressed_ip (strip text)) ≠ "" := by
  rw [CatalogEnv.compressed_ip]
  cases hCanonical : env.compressed (strip text) with
  | none => rwa [Option.elim_none, strip_strip]
  | some canonical => exact h.compressed _ _ hCanonical

theorem Settled.normalize (h : Settled env) (v : Value) :
    normalize_protocol_name env.toRuntime (.str (normalize_protocol_name env.toRuntime v)) =
      normalize_protocol_name env.toRuntime v := by
  have hUnknown : strip "unknown" = "unknown" := by decide
  have hOnce : env.lower (strip (normalize_protocol_name env.toRuntime v)) =
      normalize_protocol_name env.toRuntime v := by
    rw [normalize_protocol_name]
    split
    · rw [hUnknown, h.unknown]
    · exact h.lower _
  rw [normalize_protocol_name, text_str]
  simp only [hOnce, normalize_protocol_name_ne_empty, if_false]

theorem Settled.strip_normalize (h : Settled env) (v : Value) :
    strip (normalize_protocol_name env.toRuntime v) ≠ "" := by
  intro hEmpty
  have hTwice := h.normalize v
  rw [normalize_protocol_name, text_str, hEmpty, (env.lower_eq_empty "").mpr rfl, if_pos rfl]
    at hTwice
  rw [← hTwice] at hEmpty
  exact absurd hEmpty (by decide)

variable {packet : Packet}

theorem ip_mirror (hSettled : Settled env) (hCreated : CreatedExact env entry)
    (hIp : entry.category = "ip") (hValue : strip entry.value ≠ "")
    (hNames : packet.name env.toRuntime "src_ip" = env.lower (strip entry.value) ∨
      packet.name env.toRuntime "dst_ip" = env.lower (strip entry.value)) :
    mirror_matches env entry packet = true := by
  have hStored : storedCriteria env.toRuntime (blacklistMatch env entry) =
      { ips := [env.lower (strip entry.value)] } := by
    rw [blacklistMatch, hIp, hCreated.exact]
    rfl
  rw [mirror_matches, rule_matches_packet, hCreated.enabled, Bool.true_and, hStored,
    accepts_ips (hSettled.strip_lower hValue), hSettled.lower]
  exact hNames

theorem port_mirror (hCreated : CreatedExact env entry) (hPort : entry.category = "port")
    (hNames :
      packet.number env.toRuntime "src_port" = (Value.str entry.value).safe_int env.toRuntime 0 ∨
        packet.number env.toRuntime "dst_port" = (Value.str entry.value).safe_int env.toRuntime 0) :
    mirror_matches env entry packet = true := by
  have hStored : storedCriteria env.toRuntime (blacklistMatch env entry) =
      { ports := [(Value.str entry.value).safe_int env.toRuntime 0] } := by
    rw [blacklistMatch, hPort, hCreated.exact]
    generalize (Value.str entry.value).safe_int env.toRuntime 0 = port
    rfl
  obtain ⟨given, -, hValue⟩ := hCreated.value
  have hPositive : (Value.str entry.value).safe_int env.toRuntime 0 ≠ 0 := by
    rw [hPort, normalize_list_value] at hValue
    simp only [throw, throwThe, MonadExceptOf.throw, pure, Except.pure] at hValue
    split at hValue
    · cases hValue
    · simp only [String.reduceEq, if_false, if_true] at hValue
      split at hValue
      · cases hValue
      · next hRange =>
        obtain ⟨hLow, -, hText⟩ := by simpa only [not_or] using hRange
        rw [not_not] at hText
        rw [hText] at hValue
        rw [← Except.ok.inj hValue]
        omega
  rw [mirror_matches, rule_matches_packet, hCreated.enabled, Bool.true_and, hStored,
    accepts_ports hPositive]
  exact hNames

theorem protocol_mirror (hSettled : Settled env) (hCreated : CreatedExact env entry)
    (hProtocol : entry.category = "protocol")
    (hNames : normalize_protocol_name env.toRuntime (packet "proto") = entry.value) :
    mirror_matches env entry packet = true := by
  have hStored : storedCriteria env.toRuntime (blacklistMatch env entry) =
      { protocols := [normalize_protocol_name env.toRuntime (.str entry.value)] } := by
    rw [blacklistMatch, hProtocol, hCreated.exact]
    rfl
  rw [mirror_matches, rule_matches_packet, hCreated.enabled, Bool.true_and, hStored,
    accepts_protocols (hSettled.strip_normalize _), hSettled.normalize, ← hNames,
    hSettled.normalize]
  exact Or.inl rfl

theorem text_mirror_iff {fold : Char → Char} (hSearch : SearchesLiterals env fold env.search)
    (hCreated : CreatedExact env entry)
    (hText : entry.category = "domain" ∨ entry.category = "path") :
    mirror_matches env entry packet = true ↔
      Delimited (nameBoundary fold) (strip entry.value).toList
        (build_packet_text env.toEnv packet).toList := by
  have hStored : storedCriteria env.toRuntime (blacklistMatch env entry) =
      { payload_regex := [literal_packet_text_pattern env entry.value] } := by
    rcases hText with hCategory | hCategory
    · rw [blacklistMatch, hCategory, hCreated.exact]
      rfl
    · rw [blacklistMatch, hCategory, hCreated.exact]
      rfl
  have hPattern : strip (literal_packet_text_pattern env entry.value) ≠ "" := by
    intro hEmpty
    obtain ⟨mid, hList⟩ := literal_ends env entry.value
    rw [strip_literal] at hEmpty
    rw [hEmpty] at hList
    cases hList
  rw [mirror_matches, rule_matches_packet, hCreated.enabled, Bool.true_and, hStored,
    accepts_payload_regex hPattern, regex_search, limit_packet_text, strip_literal, strip_literal]
  exact hSearch entry.value _

/-- An exact entry finds a packet with its value in a field when it is about the header, or
when the value stands in the text of the packet with no letter of a name next to it. -/
theorem mirror_matches_iff {fold : Char → Char} (hSearch : SearchesLiterals env fold env.search)
    (hSettled : Settled env) {s s' : Store.Catalog}
    {entry_id category match_type value label : String}
    (hCreate : create_blacklist_entry env s entry_id category match_type value label = .ok s')
    (hEntry : s'.blacklist.lookup entry_id = some entry) (hExact : entry.match_type = "exact")
    (hNames : EntryNames env entry packet) :
    mirror_matches env entry packet = true ↔ entry.category ∈ ["ip", "port", "protocol"] ∨
      Delimited (nameBoundary fold) (strip entry.value).toList
        (build_packet_text env.toEnv packet).toList := by
  have hCreated := created_of_create hCreate hEntry hExact
  have hHeader : ∀ name, entry.category = name → name ∈ ["ip", "port", "protocol"] →
      mirror_matches env entry packet = true → (mirror_matches env entry packet = true ↔
        entry.category ∈ ["ip", "port", "protocol"] ∨ Delimited (nameBoundary fold)
          (strip entry.value).toList (build_packet_text env.toEnv packet).toList) := by
    rintro name rfl hName hMatches
    exact iff_of_true hMatches (Or.inl hName)
  rcases hNames with ⟨hIp, hFound⟩ | ⟨hPort, hFound⟩ | ⟨hProtocol, hFound⟩ | hText
  · refine hHeader _ hIp (by decide) (ip_mirror hSettled hCreated hIp ?_ hFound)
    obtain ⟨given, hGiven, hValue⟩ := hCreated.value
    rw [hIp, normalize_list_value] at hValue
    simp only [hGiven, if_false, if_true, pure, Except.pure, Except.ok.injEq] at hValue
    rw [← hValue]
    exact hSettled.strip_compressed hGiven
  · exact hHeader _ hPort (by decide) (port_mirror hCreated hPort hFound)
  · exact hHeader _ hProtocol (by decide) (protocol_mirror hSettled hCreated hProtocol hFound)
  · have hCategory : entry.category = "domain" ∨ entry.category = "path" :=
      hText.imp And.left And.left
    rw [text_mirror_iff hSearch hCreated hCategory]
    rcases hCategory with hDomain | hPath
    · simp [hDomain]
    · simp [hPath]

end Created

/-! ## A name with the root dot -/

def literalEnv : CatalogEnv where
  toEnv := { Env.ascii with search := findsLiteral Char.toLower }
  json_dumps _ := ""
  json_dumps_match _ := ""
  json_dumps_action _ := ""
  compressed _ := none
  encode_idna := some
  re_escape := escape

theorem isSpace_toLower (c : Char) : isSpace c.toLower = isSpace c := by
  rw [isSpace, isSpace, toNat_toLower]
  split
  · next hUpper =>
    rw [Bool.eq_iff_iff]
    simp only [Bool.or_eq_true, Bool.and_eq_true, decide_eq_true_eq, beq_iff_eq]
    omega
  · rfl

theorem toLower_toLower (c : Char) : c.toLower.toLower = c.toLower := by
  apply Char.ext
  apply UInt32.toNat_inj.mp
  show c.toLower.toLower.toNat = c.toLower.toNat
  have hOnce := toNat_toLower c
  have hTwice := toNat_toLower c.toLower
  grind

theorem dropWhile_map_toLower (letters : List Char) :
    (letters.map Char.toLower).dropWhile isSpace = (letters.dropWhile isSpace).map Char.toLower := by
  rw [List.dropWhile_map]
  congr 2
  funext c
  exact isSpace_toLower c

theorem strip_lower_ascii (s : String) :
    strip (Runtime.ascii.lower s) = Runtime.ascii.lower (strip s) := by
  simp only [strip, Runtime.ascii, String.toList_ofList, dropWhile_map_toLower, ← List.map_reverse]

theorem settled_literals : Settled literalEnv := by
  refine ⟨?_, by decide, ?_⟩
  · intro text
    show Runtime.ascii.lower (strip (Runtime.ascii.lower (strip text))) =
      Runtime.ascii.lower (strip text)
    rw [strip_lower_ascii, strip_strip]
    have hTwice : Char.toLower ∘ Char.toLower = Char.toLower := funext toLower_toLower
    simp [Runtime.ascii, hTwice]
  · intro text canonical hNone
    cases hNone

def evilEntry : BlacklistEntry := ⟨"domain", "exact", "evil.com", "", true⟩

def evilCatalog : Store.Catalog :=
  sync_blacklist_monitor literalEnv ⟨[], [("blacklist-domain-0", evilEntry)], 0, 0⟩
    "blacklist-domain-0" evilEntry

theorem evil_created : create_blacklist_entry literalEnv ⟨[], [], 0, 0⟩ "blacklist-domain-0"
    "domain" "exact" "evil.com" "" = .ok evilCatalog := by
  decide +kernel

def requestTo (host : String) : Bytes :=
  sampleFrame 6 ([0xC0, 0, 0, 80, 0, 0, 0, 1, 0, 0, 0, 0, 0x50, 0x18, 1, 0, 0, 0, 0, 0] ++
    Bytes.ofText ("GET / HTTP/1.1\r\nHost: " ++ host ++ "\r\n\r\n"))

/-- The text of the packet of a request to `evil.com.`. -/
def requestText : String :=
  "http get / http/1.1 get / http/1.1 host: evil.com. evil.com. evil.com. / get"

/-- The host is named with the root dot, which the literal does not stand next to. -/
theorem root_dot_missed : ¬ ∀ (env : CatalogEnv) (fold : Char → Char) (s s' : Store.Catalog)
    (entry_id category match_type value label : String) (entry : BlacklistEntry) (sn : Sniffer)
    (flows : List String) (captured : Sniffer.Captured) (c : Capture),
    SearchesLiterals env fold env.search → Settled env →
      create_blacklist_entry env s entry_id category match_type value label = .ok s' →
      s'.blacklist.lookup entry_id = some entry → entry.match_type = "exact" →
      sn.parse_packet flows captured = some c → EntryNames env entry c.packet →
      mirror_matches env entry c.packet = true := by
  intro hAll
  have hParsed : (Sniffer.parse_packet .ascii [] ⟨"", "", requestTo "evil.com."⟩).any (fun c =>
      decide (NamesDomain literalEnv "evil.com" c.packet) &&
        build_packet_text literalEnv.toEnv c.packet == requestText) = true := by
    decide +kernel
  obtain ⟨c, hParse, hBoth⟩ := Option.any_eq_true _ _ |>.mp hParsed
  rw [Bool.and_eq_true, decide_eq_true_eq, beq_iff_eq] at hBoth
  obtain ⟨hNames, hText⟩ := hBoth
  have hMatches := hAll literalEnv Char.toLower _ _ _ _ _ _ _ evilEntry .ascii [] _ c
    (findsLiteral_searches rfl _) settled_literals evil_created rfl rfl hParse
    (Or.inr (Or.inr (Or.inr (Or.inl ⟨rfl, hNames⟩))))
  rw [text_mirror_iff (findsLiteral_searches rfl _) (created_of_create evil_created rfl rfl)
    (Or.inl rfl), hText] at hMatches
  exact absurd hMatches (by decide +kernel)

theorem mirror_matches_iff_plain : mirror_matches literalEnv evilEntry
      (Value.get [("domain", .str "EVIL.com"), ("http_host", .str "EVIL.com:80")]) = true := by
  refine (mirror_matches_iff (findsLiteral_searches rfl Char.toLower) settled_literals evil_created
    rfl rfl (Or.inr (Or.inr (Or.inr (Or.inl ⟨rfl, ?_⟩))))).mpr ?_
  · decide +kernel
  · decide +kernel

end Sniff4Hound
