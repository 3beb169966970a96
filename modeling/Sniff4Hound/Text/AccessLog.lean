import Sniff4Hound.Library.JoinedText
import Sniff4Hound.Mobile.LogScrubContract

/-!
# The access log

One line is printed for each request, with its fields between blanks.

* `log_unforged`: however a client writes its request, the printed lines split into the fields they
  were made of. The end of a line is the line feed; U+0085 and U+2028 are printed as they came.
* `redact_query_eq_iff`: two queries are redacted to one text exactly when they differ in the values
  of credentials only. The target that is printed is also sanitized, and cut at 512 characters.
-/

namespace Sniff4Hound.AccessLog

open Mobile (REDACTED_QUERY_KEYS)

def REDACTED_VALUE : List Char := "REDACTED".toList

def MAX_FIELD_CHARS : Nat := 512

variable (rt : Runtime)

/-! ## Queries -/

/-- The name in front of the first `=`. -/
def chunkKey (chunk : List Char) : List Char := chunk.takeWhile (· ≠ '=')

/-- The chunk gives a credential a value. -/
def Secret (chunk : List Char) : Prop :=
  '=' ∈ chunk ∧ rt.lower (strip (String.ofList (chunkKey chunk))) ∈ REDACTED_QUERY_KEYS

instance (chunk : List Char) : Decidable (Secret rt chunk) := inferInstanceAs (Decidable (_ ∧ _))

def redactChunk (chunk : List Char) : List Char :=
  if Secret rt chunk then chunkKey chunk ++ '=' :: REDACTED_VALUE else chunk

def redact_query (query : List Char) : List Char :=
  ['&'].intercalate ((query.splitOn '&').map (redactChunk rt))

def redact_url (text : List Char) : List Char :=
  if '?' ∈ text then
    text.takeWhile (· ≠ '?') ++ '?' :: redact_query rt ((text.dropWhile (· ≠ '?')).drop 1)
  else text

/-- The same chunk, or two values of one credential. -/
def Alike (chunk chunk' : List Char) : Prop :=
  chunk = chunk' ∨ Secret rt chunk ∧ Secret rt chunk' ∧ chunkKey chunk = chunkKey chunk'

variable {rt} {chunk chunk' : List Char}

theorem chunkKey_append (key value : List Char) (hKey : '=' ∉ key) :
    chunkKey (key ++ '=' :: value) = key := by
  have hAll : ∀ c ∈ key, decide (c ≠ '=') = true := fun c hc =>
    decide_eq_true fun hSame => hKey (hSame ▸ hc)
  rw [chunkKey, List.takeWhile_append_of_pos hAll]
  simp

theorem notMem_chunkKey (chunk : List Char) : '=' ∉ chunkKey chunk := fun hMem => by
  simpa using List.mem_takeWhile_imp hMem

theorem not_secret_ne (h : Secret rt chunk) (h' : ¬Secret rt chunk') :
    chunkKey chunk ++ '=' :: REDACTED_VALUE ≠ chunk' := by
  rintro rfl
  refine h' ⟨by simp, ?_⟩
  rw [chunkKey_append _ _ (notMem_chunkKey chunk)]
  exact h.2

theorem redactChunk_eq_iff : redactChunk rt chunk = redactChunk rt chunk' ↔ Alike rt chunk chunk' := by
  rw [redactChunk, redactChunk]
  by_cases h : Secret rt chunk <;> by_cases h' : Secret rt chunk'
  · rw [if_pos h, if_pos h', List.append_left_inj]
    exact ⟨fun hKey => Or.inr ⟨h, h', hKey⟩, fun hAlike => hAlike.elim (congrArg _) (·.2.2)⟩
  · rw [if_pos h, if_neg h']
    refine iff_of_false (not_secret_ne h h') ?_
    rintro (rfl | ⟨-, hOther, -⟩)
    · exact h' h
    · exact h' hOther
  · rw [if_neg h, if_pos h']
    refine iff_of_false (not_secret_ne h' h).symm ?_
    rintro (rfl | ⟨hOther, -⟩)
    · exact h h'
    · exact h hOther
  · rw [if_neg h, if_neg h']
    exact ⟨Or.inl, fun hAlike => hAlike.resolve_right fun hSecret => h hSecret.1⟩

theorem notMem_redactChunk (h : '&' ∉ chunk) : '&' ∉ redactChunk rt chunk := by
  rw [redactChunk]
  split
  · rw [List.mem_append, not_or]
    exact ⟨fun hMem => h ((List.takeWhile_sublist _).subset hMem), by decide⟩
  · exact h

theorem splitOn_redact_query (query : List Char) :
    (redact_query rt query).splitOn '&' = (query.splitOn '&').map (redactChunk rt) := by
  refine List.splitOn_intercalate '&' (fun part hPart => ?_) ?_
  · obtain ⟨chunk, hChunk, rfl⟩ := List.mem_map.mp hPart
    exact notMem_redactChunk (notMem_splitOn query chunk hChunk)
  · exact fun hNil => List.splitOn_ne_nil '&' query (List.map_eq_nil_iff.mp hNil)

/-- The redacted query tells the query but for the values of its credentials. -/
theorem redact_query_eq_iff (rt : Runtime) (query query' : List Char) :
    redact_query rt query = redact_query rt query' ↔
      List.Forall₂ (Alike rt) (query.splitOn '&') (query'.splitOn '&') := by
  have hChunks : redact_query rt query = redact_query rt query' ↔
      (query.splitOn '&').map (redactChunk rt) = (query'.splitOn '&').map (redactChunk rt) := by
    constructor
    · intro hSame
      rw [← splitOn_redact_query, hSame, splitOn_redact_query]
    · intro hSame
      rw [redact_query, hSame, redact_query]
  rw [hChunks, ← List.forall₂_eq_eq_eq, List.forall₂_map_left_iff, List.forall₂_map_right_iff]
  simp only [redactChunk_eq_iff]

/-! ## Fields -/

/-- Neither a blank nor a control character. -/
def Printed (c : Char) : Prop := 0x20 < c.toNat ∧ c.toNat ≠ 0x7F

def sanitizeChar (c : Char) : List Char :=
  if c ∈ [' ', '\t'] then "%20".toList
  else if c ∈ ['\r', '\n'] then "%0A".toList
  else if c.toNat < 0x20 ∨ c.toNat = 0x7F then ['?']
  else [c]

def sanitize_field (value default : List Char) : List Char :=
  let text := (strip (String.ofList value)).toList
  if text = [] then default else (text.flatMap sanitizeChar).take MAX_FIELD_CHARS

/-- What the log reads of a request; an absent attribute is empty. -/
structure WebRequest where
  method : List Char
  path : List Char
  query_string : List Char
  http_version : List Char
  version : List Char
  headers : List (String × List Char)

/-- `value or other` -/
def orElseText (value other : List Char) : List Char := if value = [] then other else value

def headerOf (rt : Runtime) (name : String) (headers : List (String × List Char)) : List Char :=
  ((headers.find? fun header => rt.lower header.1 = name).map Prod.snd).getD []

/-- `_header(request, "referer")` -/
def referer (rt : Runtime) (request : WebRequest) : List Char :=
  let direct := orElseText ((request.headers.lookup "referer").getD [])
    ((request.headers.lookup "Referer").getD [])
  sanitize_field (redact_url rt (orElseText direct (headerOf rt "referer" request.headers))) ['-']

def target (rt : Runtime) (request : WebRequest) : List Char :=
  let path := orElseText request.path ['-']
  let query := redact_query rt request.query_string
  sanitize_field (if query = [] then path else path ++ '?' :: query) ['-']

def HTTP_1_1 : List Char := "HTTP/1.1".toList

def protocol (rt : Runtime) (request : WebRequest) : List Char :=
  let protocol := orElseText request.http_version (orElseText request.version HTTP_1_1)
  if "HTTP".toList.isPrefixOf (rt.upper (String.ofList protocol)).toList then
    sanitize_field protocol ['-']
  else HTTP_1_1

def RESET : List Char := "\x1b[0m".toList

def STATUS_COLORS : List (Nat × String) :=
  [(500, "\x1b[1;31m"), (400, "\x1b[0;33m"), (300, "\x1b[0;36m"), (200, "\x1b[0;32m")]

def colorize_status (color : Bool) (status : Nat) : List Char :=
  match STATUS_COLORS.find? fun entry => color && decide (entry.1 ≤ status) with
  | some entry => entry.2.toList ++ Nat.toDigits 10 status ++ RESET
  | none => Nat.toDigits 10 status

/-- Neither a blank nor the end of a line is in the field. -/
def Plain (field : List Char) : Prop := ' ' ∉ field ∧ '\n' ∉ field

instance (field : List Char) : Decidable (Plain field) := inferInstanceAs (Decidable (_ ∧ _))

/-- A request, and the response to it. -/
structure AccessEntry where
  timestamp : List Char
  request : WebRequest
  response_headers : List (String × List Char)
  color : Bool
  status : Nat
  timestamp_plain : Plain timestamp

/-- The fields of a line. -/
def accessFields (rt : Runtime) (entry : AccessEntry) : List (List Char) :=
  [entry.timestamp, protocol rt entry.request, sanitize_field entry.request.method ['-'],
    target rt entry.request, "ref=".toList ++ referer rt entry.request,
    "loc=".toList ++ sanitize_field (headerOf rt "location" entry.response_headers) ['-'],
    colorize_status entry.color entry.status]

/-- `log_request` -/
def log_request (rt : Runtime) (entry : AccessEntry) : List Char :=
  [' '].intercalate (accessFields rt entry)

def accessLog (rt : Runtime) (entries : List AccessEntry) : List Char :=
  entries.flatMap fun entry => log_request rt entry ++ ['\n']

/-! ## What is printed -/

theorem sanitizeChar_printed (c : Char) : ∀ d ∈ sanitizeChar c, Printed d := by
  have hBlank : ∀ d ∈ ['%', '2', '0'], Printed d := by simp [Printed]
  have hBreak : ∀ d ∈ ['%', '0', 'A'], Printed d := by simp [Printed]
  rw [sanitizeChar]
  split
  · exact hBlank
  split
  · exact hBreak
  split
  · have hMark : ∀ d ∈ ['?'], Printed d := by simp [Printed]
    exact hMark
  · next hBlanks _ hControl =>
    intro d hd
    obtain rfl := List.mem_singleton.mp hd
    have hSpace : d.toNat ≠ 0x20 := fun hSame =>
      hBlanks (List.mem_cons.mpr (Or.inl (Char.toNat_inj.mp hSame)))
    exact ⟨by omega, by omega⟩

/-- Whatever is in a field, it is printed without blanks, and no longer than allowed. -/
theorem sanitize_field_printed (value : List Char) :
    (∀ c ∈ sanitize_field value ['-'], Printed c) ∧
      (sanitize_field value ['-']).length ≤ MAX_FIELD_CHARS := by
  rw [sanitize_field]
  split
  · have hDash : ∀ c ∈ ['-'], Printed c := by simp [Printed]
    exact ⟨hDash, by decide⟩
  · refine ⟨fun c hc => ?_, List.length_take_le _ _⟩
    obtain ⟨other, -, hOther⟩ := List.mem_flatMap.mp (List.mem_of_mem_take hc)
    exact sanitizeChar_printed other c hOther

theorem plain_sanitize_field (value : List Char) : Plain (sanitize_field value ['-']) := by
  have hPrinted := (sanitize_field_printed value).1
  constructor
  · intro hMem
    exact absurd (hPrinted ' ' hMem).1 (by decide)
  · intro hMem
    exact absurd (hPrinted '\n' hMem).1 (by decide)

theorem Plain.append {field field' : List Char} (h : Plain field) (h' : Plain field') :
    Plain (field ++ field') :=
  ⟨fun hMem => (List.mem_append.mp hMem).elim h.1 h'.1,
    fun hMem => (List.mem_append.mp hMem).elim h.2 h'.2⟩

theorem plain_target (request : WebRequest) : Plain (target rt request) := by
  rw [target]
  exact plain_sanitize_field _

theorem plain_referer (request : WebRequest) : Plain (referer rt request) := by
  rw [referer]
  exact plain_sanitize_field _

theorem plain_protocol (request : WebRequest) : Plain (protocol rt request) := by
  rw [protocol]
  split
  · exact plain_sanitize_field _
  · decide

theorem plain_toDigits (n : Nat) : Plain (Nat.toDigits 10 n) :=
  ⟨notMem_toDigits (by decide) (by decide) (by decide) n,
    notMem_toDigits (by decide) (by decide) (by decide) n⟩

theorem plain_colorize_status (color : Bool) (status : Nat) :
    Plain (colorize_status color status) := by
  have hColors : ∀ entry ∈ STATUS_COLORS, Plain entry.2.toList := by decide
  rw [colorize_status]
  split
  · next entry hFound =>
    have hReset : Plain RESET := by decide
    exact ((hColors entry (List.mem_of_find?_eq_some hFound)).append (plain_toDigits status)).append
      hReset
  · exact plain_toDigits status

theorem plain_accessFields (entry : AccessEntry) : ∀ field ∈ accessFields rt entry, Plain field := by
  have hRef : Plain "ref=".toList := by decide
  have hLoc : Plain "loc=".toList := by decide
  rw [accessFields]
  iterate 7 rw [List.forall_mem_cons]
  exact ⟨entry.timestamp_plain, plain_protocol entry.request, plain_sanitize_field _,
    plain_target entry.request, hRef.append (plain_referer entry.request),
    hLoc.append (plain_sanitize_field _), plain_colorize_status entry.color entry.status,
    List.forall_mem_nil _⟩

theorem notMem_log_request (entry : AccessEntry) : '\n' ∉ log_request rt entry := fun hMem => by
  obtain hSep | ⟨field, hField, hIn⟩ := mem_joined hMem
  · exact absurd hSep (by decide)
  · exact (plain_accessFields entry field hField).2 hIn

theorem splitOn_accessLog (entries : List AccessEntry) :
    (accessLog rt entries).splitOn '\n' = entries.map (log_request rt) ++ [[]] := by
  induction entries with
  | nil => rfl
  | cons entry rest ih =>
    have hCons : accessLog rt (entry :: rest) =
        log_request rt entry ++ '\n' :: accessLog rt rest := by
      rw [accessLog, List.flatMap_cons, List.append_assoc]
      rfl
    rw [hCons, List.splitOn_append_cons_self_of_not_mem (notMem_log_request entry), ih]
    rfl

/-- Clients do not add lines to the log, nor fields to a line. -/
theorem log_unforged (rt : Runtime) (entries : List AccessEntry) :
    (accessLog rt entries).splitOn '\n' = entries.map (log_request rt) ++ [[]] ∧
      ∀ entry ∈ entries, (log_request rt entry).splitOn ' ' = accessFields rt entry :=
  ⟨splitOn_accessLog entries, fun entry _ =>
    List.splitOn_intercalate ' ' (fun field hField => (plain_accessFields entry field hField).1)
      (List.cons_ne_nil _ _)⟩

/-- The method of the request goes on with a line of its own. -/
def forgingEntry : AccessEntry where
  timestamp := "2026-01-01T00:00:00Z".toList
  request :=
    { method := "GET\n2026-01-01T00:00:01Z HTTP/1.1 GET / ref=- loc=- 200".toList
      path := "/login".toList
      query_string := "code=1234&next=a b".toList
      http_version := []
      version := "HTTP/1.1".toList
      headers := [("referer", "https://a.example/?token=x".toList)] }
  response_headers := []
  color := false
  status := 401
  timestamp_plain := by decide

theorem log_unforged_forging :
    ((accessLog Runtime.ascii [forgingEntry]).splitOn '\n').length = 2 ∧
      ((log_request Runtime.ascii forgingEntry).splitOn ' ').length = 7 := by
  obtain ⟨hLines, hFields⟩ := log_unforged Runtime.ascii [forgingEntry]
  exact ⟨congrArg List.length hLines,
    congrArg List.length (hFields forgingEntry (List.mem_singleton.mpr rfl))⟩

end Sniff4Hound.AccessLog
