import Sniff4Hound.Capture.Connections
import Sniff4Hound.Detection.Rulesets

/-!
# Rules about TCP flags

The flags of a segment are written down as a text and read back from it as the same set. A rule that
asks for flags is applied to packets named `tcp` only, and the parser names a segment after its
application: a scan of a port with a name goes unnoticed (`scan_unnoticed`).
`flag_rule_iff` says for which segments the rule asks for its flags.
-/

namespace Sniff4Hound

/-- `str.upper` on a text of ASCII characters. -/
def Runtime.UppersAscii (rt : Runtime) : Prop :=
  ∀ s : String, (∀ c ∈ s.toList, c.toNat < 128) →
    rt.upper s = String.ofList (s.toList.map Char.toUpper)

theorem Runtime.uppersAscii_ascii : Runtime.ascii.UppersAscii := fun _ _ => rfl

structure FlagCriteria where
  tcp_flags : List String := []
  tcp_flags_any : List String := []
  tcp_flags_all : List String := []

namespace FlagCriteria

def rule (f : FlagCriteria) : Match :=
  .node { tcp_flags := f.tcp_flags, tcp_flags_any := f.tcp_flags_any
          tcp_flags_all := f.tcp_flags_all } [] [] []

def Given (rt : Runtime) (f : FlagCriteria) : Prop :=
  nonblank f.tcp_flags ≠ [] ∨ (∃ text ∈ f.tcp_flags_any, parse_tcp_flags rt text ≠ []) ∨
    ∃ text ∈ f.tcp_flags_all, parse_tcp_flags rt text ≠ []

/-- The flags are one of the sets of `tcp_flags`, share one with `tcp_flags_any` and include those
of `tcp_flags_all`. -/
structure Satisfied (rt : Runtime) (f : FlagCriteria) (flags : List String) : Prop where
  exact : nonblank f.tcp_flags ≠ [] → ∃ spec ∈ nonblank f.tcp_flags,
    ∀ flag, flag ∈ flags ↔ flag ∈ parse_tcp_flags rt spec
  any : (∃ text ∈ f.tcp_flags_any, parse_tcp_flags rt text ≠ []) →
    ∃ text ∈ f.tcp_flags_any, ∃ flag ∈ parse_tcp_flags rt text, flag ∈ flags
  all : ∀ text ∈ f.tcp_flags_all, ∀ flag ∈ parse_tcp_flags rt text, flag ∈ flags

end FlagCriteria

/-! ## Sets of flags -/

theorem mem_flagSet {names : List String} {flag : String} :
    flag ∈ flagSet names ↔ flag ∈ TCP_FLAGS ∧ flag ∈ names := by
  rw [flagSet, List.mem_filter, decide_eq_true_iff]

theorem flagSet_eq_iff {names names' : List String} :
    flagSet names = flagSet names' ↔ ∀ flag, flag ∈ flagSet names ↔ flag ∈ flagSet names' := by
  constructor
  · intro h flag
    rw [h]
  · intro h
    refine List.filter_congr ?_
    intro flag hFlag
    have hSame := h flag
    rw [mem_flagSet, mem_flagSet, and_iff_right hFlag, and_iff_right hFlag] at hSame
    exact decide_eq_decide.mpr hSame

theorem parse_tcp_flags_set (rt : Runtime) (value : String) :
    ∃ names, parse_tcp_flags rt value = flagSet names := by
  rw [parse_tcp_flags]
  dsimp only
  split
  · exact ⟨[], rfl⟩
  · exact ⟨_, rfl⟩

theorem mem_TCP_FLAGS {rt : Runtime} {value flag : String} (h : flag ∈ parse_tcp_flags rt value) :
    flag ∈ TCP_FLAGS := by
  obtain ⟨names, hNames⟩ := parse_tcp_flags_set rt value
  rw [hNames] at h
  exact (mem_flagSet.mp h).1

theorem mem_parse_tcp_flags_list {rt : Runtime} {values : List String} {flag : String} :
    flag ∈ parse_tcp_flags_list rt values ↔
      ∃ value ∈ values, flag ∈ parse_tcp_flags rt value := by
  rw [parse_tcp_flags_list, mem_flagSet, List.mem_flatMap]
  refine and_iff_right_of_imp ?_
  rintro ⟨value, -, hFlag⟩
  exact mem_TCP_FLAGS hFlag

theorem parse_tcp_flags_list_eq_nil {rt : Runtime} {values : List String} :
    parse_tcp_flags_list rt values = [] ↔ ¬∃ value ∈ values, parse_tcp_flags rt value ≠ [] := by
  rw [List.eq_nil_iff_forall_not_mem]
  simp only [mem_parse_tcp_flags_list]
  constructor
  · rintro hNone ⟨value, hValue, hSome⟩
    obtain ⟨flag, hFlag⟩ := List.exists_mem_of_ne_nil _ hSome
    exact hNone flag ⟨value, hValue, hFlag⟩
  · rintro hNone flag ⟨value, hValue, hFlag⟩
    exact hNone ⟨value, hValue, List.ne_nil_of_mem hFlag⟩

/-! ## The flags of a segment -/

def CapitalText (s : String) : Prop :=
  ∀ c ∈ s.toList, c.toNat < 128 ∧ isSpace c = false ∧ c.toUpper = c

theorem CapitalText.upper_strip {rt : Runtime} (hUpper : rt.UppersAscii) {s : String}
    (h : CapitalText s) : rt.upper (strip s) = s ∧ strip s = s := by
  have hSolid : ∀ letters : List Char, (∀ c ∈ letters, isSpace c = false) →
      letters.dropWhile isSpace = letters := by
    intro letters hLetters
    cases letters with
    | nil => rfl
    | cons c rest =>
      refine List.dropWhile_cons_of_neg ?_
      rw [hLetters c List.mem_cons_self]
      exact Bool.false_ne_true
  have hStrip : strip s = s := by
    rw [strip, hSolid s.toList fun c hc => (h c hc).2.1,
      hSolid s.toList.reverse fun c hc => (h c (List.mem_reverse.mp hc)).2.1, List.reverse_reverse,
      String.ofList_toList]
  refine ⟨?_, hStrip⟩
  rw [hStrip, hUpper s fun c hc => (h c hc).1, List.map_congr_left fun c hc => (h c hc).2.2,
    List.map_id', String.ofList_toList]

structure FlagName (name : String) : Prop where
  capital : CapitalText name
  plain : ∀ c ∈ name.toList, c ∉ [',', '+', '|', '/', ' ']
  some : name ≠ ""
  flag : name ∈ TCP_FLAGS
  read : flagsOfPart name = [name]

theorem flagName_of_flag {name : String} (h : name ∈ TCP_FLAGS) : FlagName name := by
  have hAll : ∀ name ∈ TCP_FLAGS,
      (name.toList.all fun c => decide (c.toNat < 128) && !isSpace c && decide (c.toUpper = c) &&
        decide (c ∉ [',', '+', '|', '/', ' '])) = true ∧ name ≠ "" ∧ flagsOfPart name = [name] := by
    decide
  obtain ⟨hLetters, hSome, hRead⟩ := hAll name h
  simp only [List.all_eq_true, Bool.and_eq_true, decide_eq_true_iff, Bool.not_eq_true'] at hLetters
  exact ⟨fun c hc => ⟨(hLetters c hc).1.1.1, (hLetters c hc).1.1.2, (hLetters c hc).1.2⟩,
    fun c hc => (hLetters c hc).2, hSome, h, hRead⟩

theorem flagName_of_mem {flags_byte : Nat} {name : String} (h : name ∈ tcpFlags flags_byte) :
    FlagName name := by
  have hName : name ∈ TCP_FLAG_NAMES.map Prod.snd :=
    (List.filter_sublist.map Prod.snd).subset h
  exact flagName_of_flag ((by decide : TCP_FLAG_NAMES.map Prod.snd ⊆ TCP_FLAGS) hName)

section FlagNames

variable {names : List String} (hNames : ∀ name ∈ names, FlagName name)

include hNames

theorem separable_names : Separable ',' (names.map String.toList) := by
  intro part hPart
  obtain ⟨name, hName, rfl⟩ := List.mem_map.mp hPart
  refine ⟨fun hEmpty => (hNames name hName).some (String.toList_eq_nil_iff.mp hEmpty), ?_⟩
  exact fun hComma => (hNames name hName).plain ',' hComma List.mem_cons_self

omit hNames in
theorem mem_joined_names {c : Char} (h : c ∈ (join "," names).toList) :
    c = ',' ∨ ∃ name ∈ names, c ∈ name.toList := by
  rw [show "," = String.singleton ',' from rfl, toList_join] at h
  rcases mem_joined h with hComma | ⟨part, hPart, hIn⟩
  · exact Or.inl hComma
  · obtain ⟨name, hName, rfl⟩ := List.mem_map.mp hPart
    exact Or.inr ⟨name, hName, hIn⟩

theorem capital_joined_names : CapitalText (join "," names) := by
  intro c hc
  rcases mem_joined_names hc with rfl | ⟨name, hName, hIn⟩
  · decide
  · exact (hNames name hName).capital c hIn

variable (hSome : names ≠ [])

include hSome

theorem splitOn_joined_names : ((join "," names).toList.splitOn ',').map String.ofList = names := by
  rw [show "," = String.singleton ',' from rfl, toList_join,
    splitOn_joined (separable_names hNames), if_neg (by simpa using hSome), List.map_map]
  exact (List.map_congr_left fun name _ => String.ofList_toList).trans (List.map_id _)

theorem joined_names_ne_empty : join "," names ≠ "" := by
  intro hEmpty
  have hSplit := splitOn_joined_names hNames hSome
  rw [hEmpty] at hSplit
  exact (hNames "" (hSplit ▸ by decide)).some rfl

theorem parse_joined_names {rt : Runtime} (hUpper : rt.UppersAscii) :
    parse_tcp_flags rt (join "," names) = flagSet names := by
  have hSplit := splitOn_joined_names hNames hSome
  have hNone : ∀ text ∈ ["", "NONE"], join "," names ≠ text := by
    intro text hText hSame
    rw [hSame] at hSplit
    rcases List.mem_pair.mp hText with rfl | rfl
    · exact (hNames "" (hSplit ▸ by decide)).some rfl
    · exact absurd (hNames "NONE" (hSplit ▸ by decide)).flag (by decide)
  have hLetters : (join "," names).toList.map
      (fun c => if c ∈ [',', '+', '|', '/', ' '] then ',' else c) = (join "," names).toList := by
    refine (List.map_congr_left fun c hc => ?_).trans (List.map_id _)
    rcases mem_joined_names hc with rfl | ⟨name, hName, hIn⟩
    · rfl
    · exact if_neg ((hNames name hName).plain c hIn)
  rw [parse_tcp_flags, ((capital_joined_names hNames).upper_strip hUpper).1]
  dsimp only
  rw [if_neg (not_or.mpr ⟨hNone "" (by decide), hNone "NONE" (by decide)⟩), hLetters, hSplit,
    List.filter_eq_self.mpr fun name hName => decide_eq_true (hNames name hName).some,
    List.flatMap_congr fun name hName => (hNames name hName).read, List.flatMap_singleton']

end FlagNames

/-- The flags that are read from the text of a flag byte are those that are set in it, also when
none is. -/
theorem parse_tcpFlagsText {rt : Runtime} (hUpper : rt.UppersAscii) (flags_byte : Nat) :
    strip (tcpFlagsText flags_byte) = tcpFlagsText flags_byte ∧ tcpFlagsText flags_byte ≠ "" ∧
      parse_tcp_flags rt (tcpFlagsText flags_byte) = flagSet (tcpFlags flags_byte) := by
  have hNames : ∀ name ∈ tcpFlags flags_byte, FlagName name := fun _ h => flagName_of_mem h
  rw [tcpFlagsText]
  split
  · rename_i hNone
    have hCapital : CapitalText "NONE" := by
      have hLetters : ("NONE".toList.all fun c =>
          decide (c.toNat < 128 ∧ isSpace c = false ∧ c.toUpper = c)) = true := by decide
      exact fun c hc => of_decide_eq_true (List.all_eq_true.mp hLetters c hc)
    refine ⟨(hCapital.upper_strip hUpper).2, by decide, ?_⟩
    rw [parse_tcp_flags, (hCapital.upper_strip hUpper).1, hNone]
    rfl
  · rename_i hSome
    exact ⟨((capital_joined_names hNames).upper_strip hUpper).2,
      joined_names_ne_empty hNames hSome, parse_joined_names hNames hSome hUpper⟩

/-! ## The rule -/

theorem header_proto (rt : Runtime) (packet : Packet) :
    (header rt packet).proto = normalize_protocol_name rt (packet "proto") := rfl

theorem header_tcp_flags (rt : Runtime) (packet : Packet) :
    (header rt packet).tcp_flags = strip ((packet "tcp_flags").text rt) := rfl

theorem mem_tcpFlags {flags_byte : Nat} {flag : String} :
    flag ∈ flagSet (tcpFlags flags_byte) ↔ flag ∈ tcpFlags flags_byte :=
  mem_flagSet.trans (and_iff_right_of_imp fun h => (flagName_of_mem h).flag)

theorem flagsOk_iff {rt : Runtime} (hUpper : rt.UppersAscii) {f : FlagCriteria}
    (hGiven : f.Given rt) {h : Header} {flags_byte : Nat}
    (hFlags : h.tcp_flags = tcpFlagsText flags_byte) :
    flagsOk rt f.rule.criteria h = true ↔
      h.proto = "tcp" ∧ f.Satisfied rt (tcpFlags flags_byte) := by
  obtain ⟨-, hText, hRead⟩ := parse_tcpFlagsText hUpper flags_byte
  have hSpec : ∀ spec, (flagSet (tcpFlags flags_byte) = parse_tcp_flags rt spec) ↔
      ∀ flag, flag ∈ tcpFlags flags_byte ↔ flag ∈ parse_tcp_flags rt spec := by
    intro spec
    obtain ⟨names, hNames⟩ := parse_tcp_flags_set rt spec
    rw [hNames, flagSet_eq_iff]
    simp only [mem_tcpFlags]
  simp only [flagsOk, FlagCriteria.rule, Match.criteria, hFlags, Bool.or_eq_true, Bool.and_eq_true,
    List.isEmpty_iff, and_assoc, decide_eq_true_iff, List.any_eq_true, List.all_eq_true, hRead,
    hSpec, ne_eq, hText, not_false_eq_true, true_and, mem_tcpFlags, mem_parse_tcp_flags_list,
    parse_tcp_flags_list_eq_nil]
  refine (or_iff_right ?_).trans (and_congr_right fun _ => ?_)
  · rintro ⟨hExact, hAny, hAll⟩
    rcases hGiven with hGiven | hGiven | hGiven
    · exact hGiven hExact
    · exact hAny hGiven
    · exact hAll hGiven
  constructor
  · rintro ⟨hExact, hAny, hAll⟩
    refine ⟨fun hSet => hExact.resolve_left hSet, ?_, ?_⟩
    · intro hAsked
      obtain ⟨flag, ⟨text, hIn, hFlag⟩, hHas⟩ := hAny.resolve_left (not_not.mpr hAsked)
      exact ⟨text, hIn, flag, hFlag, hHas⟩
    · exact fun text hIn flag hFlag => hAll flag ⟨text, hIn, hFlag⟩
  · rintro ⟨hExact, hAny, hAll⟩
    refine ⟨Classical.or_iff_not_imp_left.mpr hExact, ?_, ?_⟩
    · refine Classical.or_iff_not_imp_left.mpr fun hAsked => ?_
      obtain ⟨text, hIn, flag, hFlag, hHas⟩ := hAny (not_not.mp hAsked)
      exact ⟨flag, ⟨text, hIn, hFlag⟩, hHas⟩
    · rintro flag ⟨text, hIn, hFlag⟩
      exact hAll text hIn flag hFlag

theorem flag_rule_accepts {env : Env} {f : FlagCriteria} (hGiven : f.Given env.toRuntime)
    (packet : Packet) (packet_text : String) :
    rule_matches_packet env true f.rule packet packet_text =
      flagsOk env.toRuntime f.rule.criteria (header env.toRuntime packet) := by
  have hCriteria : hasCriteria env.toRuntime f.rule.criteria [] [] = true := by
    rcases hGiven with hGiven | hGiven | hGiven
    · simp [hasCriteria, FlagCriteria.rule, Match.criteria, hGiven]
    · have hAny := mt parse_tcp_flags_list_eq_nil.mp (not_not.mpr hGiven)
      simp [hasCriteria, FlagCriteria.rule, Match.criteria, hAny]
    · have hAll := mt parse_tcp_flags_list_eq_nil.mp (not_not.mpr hGiven)
      simp [hasCriteria, FlagCriteria.rule, Match.criteria, hAll]
  rw [FlagCriteria.rule, Match.criteria] at hCriteria
  simp [rule_matches_packet, FlagCriteria.rule, Match.criteria, match_accepts, criteriaOk, nonblank,
    protocolsOk, protocolNames, versionsOk, wants, nonzero, portListsOk, portExclusionsOk,
    portPatternsOk, addressesOk, wantsFound, regex_matches_any, anyFound, protocolPatternsOk,
    controlOk, hCriteria, literalsOk, needles, payloadOk, hexPrefixes, lengthsOk, all_accept,
    any_accepts]

/-! ## Segments that are named after their application -/

namespace TcpSighting

def Unnamed (s : TcpSighting) (rt : Runtime) : Prop :=
  tcpClaim rt (s.segment.num 0 2) (s.segment.num 2 4) (tcpPayload s.segment) = none ∧
    classify_tcp (s.segment.num 0 2) (s.segment.num 2 4) (tcpPayload s.segment) = ""

theorem name_eq_tcp (s : TcpSighting) (rt : Runtime) : s.name rt = "tcp" ↔ s.Unnamed rt := by
  rw [name, tcp_proto, Unnamed]
  cases tcpClaim rt (s.segment.num 0 2) (s.segment.num 2 4) (tcpPayload s.segment) with
  | some decoder => cases decoder <;> simp
  | none =>
    dsimp only
    rw [and_iff_right rfl]
    split
    · rename_i hNone
      exact iff_of_true rfl hNone
    · rename_i hSome
      exact iff_of_false (classify_tcp_ne _ _ _) hSome

def flags (s : TcpSighting) : List String := tcpFlags (s.segment.byte 13)

theorem parsed_flags (s : TcpSighting) (sn : Sniffer) (hRead : ¬s.Misread) :
    ∃ c, sn.parse_packet s.flows ⟨s.now, s.interface, s.carrier.bytes⟩ = some c ∧
      c.packet "proto" = .str (s.name sn.toRuntime) ∧
      c.packet "tcp_flags" = .str (tcpFlagsText (s.segment.byte 13)) := by
  obtain ⟨proto, body, hTransport, hSegment, hLong⟩ := Carrier.segment_eq_some s.carried
  obtain ⟨base, -, hParsed⟩ := parse_packet_reading sn s.flows s.now s.interface s.carrier
  rw [not_not.mp hRead] at hParsed
  obtain ⟨fields, -, -, -, -, hAgree⟩ := parseNetwork_segment sn hSegment hLong base hTransport
  have hLast := hAgree.trans (Sniffer.finalize_packet_agree sn _)
  exact ⟨_, hParsed, hLast "proto" (by decide), hLast "tcp_flags" (by decide)⟩

end TcpSighting

theorem flag_rule_parsed {env : Env} (hLower : env.LowersAscii) (hUpper : env.UppersAscii)
    (sn : Sniffer) {s : TcpSighting} (hRead : ¬s.Misread) {f : FlagCriteria}
    (hGiven : f.Given env.toRuntime) :
    ∃ c, sn.parse_packet s.flows ⟨s.now, s.interface, s.carrier.bytes⟩ = some c ∧
      ∀ packet_text, rule_matches_packet env true f.rule c.packet packet_text = true ↔
        s.name sn.toRuntime = "tcp" ∧ f.Satisfied env.toRuntime s.flags := by
  obtain ⟨c, hParsed, hProto, hFlags⟩ := s.parsed_flags sn hRead
  refine ⟨c, hParsed, fun packet_text => ?_⟩
  have hName : (header env.toRuntime c.packet).proto = s.name sn.toRuntime := by
    rw [header_proto, hProto]
    exact PlainName.normalize hLower (plain_tcp_names _ (tcp_proto_mem _ _ _ _))
  have hText : (header env.toRuntime c.packet).tcp_flags = tcpFlagsText (s.segment.byte 13) := by
    rw [header_tcp_flags, hFlags, text_str]
    exact (parse_tcpFlagsText hUpper _).1
  rw [flag_rule_accepts hGiven, flagsOk_iff hUpper hGiven hText, hName, TcpSighting.flags]

/-- A rule that asks for flags accepts a segment by its flags just when the segment has no name of
an application or does not have the flags. -/
theorem flag_rule_iff (env : Env) (hLower : env.LowersAscii) (hUpper : env.UppersAscii)
    (sn : Sniffer) (s : TcpSighting) (hRead : ¬s.Misread) (f : FlagCriteria)
    (hGiven : f.Given env.toRuntime) :
    ∃ c, sn.parse_packet s.flows ⟨s.now, s.interface, s.carrier.bytes⟩ = some c ∧
      ∀ packet_text, (rule_matches_packet env true f.rule c.packet packet_text = true ↔
          f.Satisfied env.toRuntime s.flags) ↔
        s.Unnamed sn.toRuntime ∨ ¬f.Satisfied env.toRuntime s.flags := by
  obtain ⟨c, hParsed, hRule⟩ := flag_rule_parsed hLower hUpper sn hRead hGiven
  refine ⟨c, hParsed, fun packet_text => ?_⟩
  rw [hRule, s.name_eq_tcp]
  constructor
  · intro hSame
    rw [Classical.or_iff_not_imp_right, not_not]
    exact fun hSatisfied => (hSame.mpr hSatisfied).1
  · rintro (hUnnamed | hNot)
    · exact and_iff_right hUnnamed
    · exact iff_of_false (fun h => hNot h.2) hNot

/-! ## A scan -/

def scanSegment (named : Bool) : Bytes :=
  [0x9C, 0x40] ++ (if named then [0, 22] else [0x27, 0x0F]) ++
    [0, 0, 0, 0, 0, 0, 0, 0, 0x50, 0x29, 0, 0, 0, 0, 0, 0]

def scanSighting (named : Bool) : TcpSighting where
  carrier := .plain (.ethernet {
    dst := [2, 0, 0, 0, 0, 2]
    src := [2, 0, 0, 0, 0, 1]
    tags := []
    kind := .ipv4
    body := [0x45, 0, 0, 40, 0, 7, 0, 0, 64, 6, 0, 0, 10, 0, 0, 1, 10, 0, 0, 2] ++
      scanSegment named
    length_dst := EthernetFrame.length_receiver
    length_src := EthernetFrame.length_sender
    tags_valid := EthernetFrame.untagged
    length_body := by cases named <;> decide })
  segment := scanSegment named
  carried := by cases named <;> decide
  flows := []
  now := ""
  interface := ""

theorem scanSighting_read (named : Bool) : ¬(scanSighting named).Misread := by
  rw [TcpSighting.Misread, not_not]
  cases named <;> decide

def xmasCriteria : FlagCriteria where
  tcp_flags := ["FIN,PSH,URG"]

theorem xmasCriteria_given : xmasCriteria.Given Runtime.ascii := Or.inl (by decide +kernel)

theorem xmasCriteria_satisfied (named : Bool) :
    xmasCriteria.Satisfied Runtime.ascii (scanSighting named).flags := by
  have hFlags : (scanSighting named).flags = ["FIN", "PSH", "URG"] := by
    cases named <;> decide
  have hSpec : parse_tcp_flags Runtime.ascii "FIN,PSH,URG" = ["FIN", "PSH", "URG"] := by
    decide +kernel
  refine ⟨fun _ => ⟨"FIN,PSH,URG", by decide +kernel, fun flag => ?_⟩, ?_, nofun⟩
  · rw [hFlags, hSpec]
  · rintro ⟨text, hText, -⟩
    cases hText

theorem flag_rule_unassigned :
    ∃ c, Sniffer.ascii.parse_packet [] ⟨"", "", (scanSighting false).carrier.bytes⟩ = some c ∧
      ∀ packet_text, rule_matches_packet Env.ascii true xmasCriteria.rule c.packet packet_text =
        true := by
  obtain ⟨c, hParsed, hRule⟩ := flag_rule_iff Env.ascii Runtime.lowersAscii_ascii
    Runtime.uppersAscii_ascii Sniffer.ascii (scanSighting false) (scanSighting_read false)
    xmasCriteria xmasCriteria_given
  refine ⟨c, hParsed, fun packet_text => ?_⟩
  have hUnnamed : (scanSighting false).Unnamed Sniffer.ascii.toRuntime :=
    ⟨by decide +kernel, by decide +kernel⟩
  exact ((hRule packet_text).mpr (Or.inl hUnnamed)).mpr (xmasCriteria_satisfied false)

/-- The scan of port 22 is a segment of `ssh`, to which the rule does not apply. -/
theorem scan_unnoticed : ¬∀ (env : Env) (sn : Sniffer) (s : TcpSighting) (f : FlagCriteria),
    ¬s.Misread → f.Given env.toRuntime → ∀ c,
      sn.parse_packet s.flows ⟨s.now, s.interface, s.carrier.bytes⟩ = some c → ∀ packet_text,
        (rule_matches_packet env true f.rule c.packet packet_text = true ↔
          f.Satisfied env.toRuntime s.flags) := by
  intro hAll
  obtain ⟨c, hParsed, hRule⟩ := @flag_rule_parsed Env.ascii Runtime.lowersAscii_ascii
    Runtime.uppersAscii_ascii Sniffer.ascii _ (scanSighting_read true) _ xmasCriteria_given
  have hAccepts := (hAll Env.ascii Sniffer.ascii (scanSighting true) xmasCriteria
    (scanSighting_read true) xmasCriteria_given c hParsed "").mpr (xmasCriteria_satisfied true)
  exact absurd ((hRule "").mp hAccepts).1 (by decide +kernel)

end Sniff4Hound
