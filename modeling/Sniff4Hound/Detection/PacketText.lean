import Sniff4Hound.Capture.Bytes
import Sniff4Hound.Library.DelimitedText
import Sniff4Hound.Store.CatalogContract

/-!
# Literals in the text of a packet

Exact domains and paths are looked for in `build_packet_text` with the pattern of
`literal_packet_text_pattern`: the escaped value between two assertions that no letter of a
name touches it. `SearchesLiterals` is what the regular expression engine promises for such
a pattern; the text is the lower-cased fields with spaces between them, cut off at
`PAYLOAD_TEXT_MAX_CHARS`, so a value without spaces is found within one field
(`field_of_text`).
-/

namespace Sniff4Hound

open Store

/-- The class `[A-Za-z0-9_.-]`. -/
def NAME_CHARS : List Char :=
  "ABCDEFGHIJKLMNOPQRSTUVWXYZabcdefghijklmnopqrstuvwxyz0123456789_.-".toList

/-- Letters are compared after `fold`, the identity for a pattern without flags. -/
def nameBoundary (fold : Char → Char) : Boundary Char where
  same a c := fold a == fold c
  word c := NAME_CHARS.any fun a => fold a == fold c

/-- The engine finds an escaped literal between two negative lookarounds exactly where it
stands delimited. -/
def SearchesLiterals (env : CatalogEnv) (fold : Char → Char) (search : String → String → Bool) :
    Prop :=
  ∀ value text, search (literal_packet_text_pattern env value) text = true ↔
    Delimited (nameBoundary fold) (strip value).toList text.toList

/-- A space is a word boundary for `str.lower`. -/
def LowerJoins (rt : Runtime) : Prop :=
  ∀ a c, rt.lower (a ++ " " ++ c) = rt.lower a ++ " " ++ rt.lower c

/-! ## The pattern -/

theorem toList_append₃ (a x c : String) :
    (a ++ x ++ c).toList = a.toList ++ x.toList ++ c.toList := by
  rw [String.toList_append, String.toList_append]

def LITERAL_HEAD : String := "(?<![A-Za-z0-9_.-])"

def LITERAL_TAIL : String := "(?![A-Za-z0-9_.-])"

theorem literal_toList (env : CatalogEnv) (value : String) :
    (literal_packet_text_pattern env value).toList =
      LITERAL_HEAD.toList ++ (env.re_escape (strip value)).toList ++ LITERAL_TAIL.toList :=
  toList_append₃ LITERAL_HEAD _ LITERAL_TAIL

theorem literal_ends (env : CatalogEnv) (value : String) :
    ∃ mid, (literal_packet_text_pattern env value).toList = '(' :: (mid ++ [')']) := by
  have hHead : LITERAL_HEAD.toList = '(' :: LITERAL_HEAD.toList.tail := by decide
  have hTail : LITERAL_TAIL.toList = LITERAL_TAIL.toList.dropLast ++ [')'] := by decide
  refine ⟨LITERAL_HEAD.toList.tail ++ (env.re_escape (strip value)).toList ++
    LITERAL_TAIL.toList.dropLast, ?_⟩
  rw [literal_toList, hHead, hTail]
  simp only [List.tail_cons, List.dropLast_concat, List.cons_append, List.append_assoc]

theorem strip_literal (env : CatalogEnv) (value : String) :
    strip (literal_packet_text_pattern env value) = literal_packet_text_pattern env value := by
  obtain ⟨mid, hList⟩ := literal_ends env value
  exact strip_eq_self hList (by decide) (by decide)

/-! ## The text -/

theorem toList_slice (s : String) (n : Nat) : (slice s n).toList = s.toList.take n := by
  simp [slice]

def packetTexts (env : Env) (packet : Packet) : List String :=
  ((PACKET_TEXT_FIELDS.map packet).filter fun v => !isUnset v).map (Value.toText env.toRuntime)

theorem mem_packetTexts {env : Env} {packet : Packet} {text : String}
    (h : text ∈ packetTexts env packet) :
    ∃ key ∈ PACKET_TEXT_FIELDS, text = (packet key).toText env.toRuntime := by
  obtain ⟨v, hv, rfl⟩ := List.mem_map.mp h
  obtain ⟨key, hKey, rfl⟩ := List.mem_map.mp (List.mem_filter.mp hv).1
  exact ⟨key, hKey, rfl⟩

theorem lower_join {rt : Runtime} (hLower : LowerJoins rt) (parts : List String) :
    (rt.lower (join " " parts)).toList =
      joinWith ' ' (parts.map fun part => (rt.lower part).toList) := by
  induction parts with
  | nil =>
    have hEmpty : rt.lower "" = "" := (rt.lower_eq_empty "").mpr rfl
    simp [join, joinWith, hEmpty]
  | cons part rest ih =>
    cases rest with
    | nil => rfl
    | cons next rest =>
      rw [join, hLower, List.map_cons, List.map_cons, joinWith, String.toList_append,
        String.toList_append, ih]
      · simp
      · intro h
        cases h

theorem build_packet_text_toList {env : Env} (hLower : LowerJoins env.toRuntime)
    (packet : Packet) : (build_packet_text env packet).toList =
      (joinWith ' ' ((packetTexts env packet).map fun text => (env.lower text).toList)).take
        (max 1 env.PAYLOAD_TEXT_MAX_CHARS) := by
  rw [build_packet_text, limit_regex_subject, toList_slice, lower_join hLower]
  rfl

theorem limit_packet_text (env : Env) (packet : Packet) :
    limit_regex_subject env (build_packet_text env packet) = build_packet_text env packet := by
  apply String.toList_injective
  rw [limit_regex_subject, toList_slice, build_packet_text, limit_regex_subject, toList_slice,
    List.take_take, Nat.min_self]

theorem space_not_name : ' ' ∉ NAME_CHARS := by decide +kernel

theorem word_space {fold : Char → Char} (hFold : ∀ a ∈ NAME_CHARS, fold a ≠ fold ' ') :
    (nameBoundary fold).word ' ' = false := by
  simp only [nameBoundary, List.any_eq_false, beq_iff_eq]
  exact hFold

/-- A value without spaces that stands in the text stands in one of the fields, or in what
is left of it where the text ends. -/
theorem field_of_text {env : Env} (hLower : LowerJoins env.toRuntime) {fold : Char → Char}
    (hFold : ∀ a ∈ NAME_CHARS, fold a ≠ fold ' ') {packet : Packet} {value : List Char}
    (hNe : value ≠ []) (hSpace : ∀ v ∈ value, fold v ≠ fold ' ')
    (h : Delimited (nameBoundary fold) value (build_packet_text env packet).toList) :
    ∃ key ∈ PACKET_TEXT_FIELDS, ∃ k, Delimited (nameBoundary fold) value
      ((env.lower ((packet key).toText env.toRuntime)).toList.take k) := by
  rw [build_packet_text_toList hLower] at h
  obtain ⟨part, hPart, k, hIn⟩ := delimited_take_joinWith (word_space hFold)
    (fun v hv => by simpa [nameBoundary] using hSpace v hv) hNe h
  obtain ⟨text, hText, rfl⟩ := List.mem_map.mp hPart
  obtain ⟨key, hKey, rfl⟩ := mem_packetTexts hText
  exact ⟨key, hKey, k, hIn⟩

/-! ## An engine for literals -/

/-- The characters that `re.escape` writes with a backslash. -/
def ESCAPED_CHARS : List Char := "()[]\x7b\x7d?*+-|^$\\.&~# \t\n\r\x0b\x0c".toList

def escapeLetters (letters : List Char) : List Char :=
  letters.flatMap fun c => if c ∈ ESCAPED_CHARS then ['\\', c] else [c]

def unescapeLetters : List Char → List Char
  | '\\' :: c :: rest => c :: unescapeLetters rest
  | c :: rest => c :: unescapeLetters rest
  | [] => []

/-- `re.escape(value)` -/
def escape (value : String) : String := String.ofList (escapeLetters value.toList)

/-- The search for a pattern of `literal_packet_text_pattern`. -/
def findsLiteral (fold : Char → Char) (pattern text : String) : Bool :=
  let body := pattern.toList.drop LITERAL_HEAD.toList.length
  decide (Delimited (nameBoundary fold)
    (unescapeLetters (body.take (body.length - LITERAL_TAIL.toList.length))) text.toList)

theorem unescape_escape (letters : List Char) :
    unescapeLetters (escapeLetters letters) = letters := by
  induction letters with
  | nil => rfl
  | cons c rest ih =>
    rw [escapeLetters, List.flatMap_cons]
    split
    · show unescapeLetters ('\\' :: c :: escapeLetters rest) = c :: rest
      rw [unescapeLetters, ih]
    · next hPlain =>
      have hSlash : c ≠ '\\' := by
        rintro rfl
        exact hPlain (by decide)
      show unescapeLetters (c :: escapeLetters rest) = c :: rest
      rw [unescapeLetters.eq_2 _ _ fun _ _ h _ => hSlash h, ih]

theorem findsLiteral_searches {env : CatalogEnv} (hEscape : env.re_escape = escape)
    (fold : Char → Char) : SearchesLiterals env fold (findsLiteral fold) := by
  intro value text
  have hBody : (literal_packet_text_pattern env value).toList.drop LITERAL_HEAD.toList.length =
      escapeLetters (strip value).toList ++ LITERAL_TAIL.toList := by
    rw [literal_toList, hEscape, List.append_assoc, List.drop_left, escape, String.toList_ofList]
  rw [findsLiteral, decide_eq_true_iff, hBody, List.length_append, Nat.add_sub_cancel,
    List.take_left, unescape_escape]

def sampleFrame (protocol : UInt8) (segment : Bytes) : Bytes :=
  [2, 0, 0, 0, 0, 2, 2, 0, 0, 0, 0, 1, 8, 0] ++
    [0x45, 0, 0, UInt8.ofNat (20 + segment.length), 0, 0, 0, 0, 64, protocol, 0, 0, 10, 0, 0, 1,
      10, 0, 0, 2] ++ segment

end Sniff4Hound
