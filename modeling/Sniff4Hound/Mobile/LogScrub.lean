import Sniff4Hound.Library.Regex
import Sniff4Hound.Library.SpacedWords
import Sniff4Hound.Text.Value

/-!
# What a phone sees of a log message

`_scrub_log_text` of `mobile_stream.py` takes secrets out of a message: control characters and runs
of blanks become single blanks, three expressions are replaced, and a long text is cut off.

The passes are written for letters of any type, read and written as characters. On characters they
are the function of the source (`scrub_log_text`); on characters that carry a mark they show what
became of each letter of the message (`scrub_map`).
-/

namespace Sniff4Hound.Mobile

structure Words where
  alnum : Char → Bool
  alnum_of_space : ∀ c, isSpace c = true → alnum c = false

namespace Words

variable (words : Words)

/-- `str.isalnum` of one character. -/
def isAlnum (c : Char) : Bool := if c.toNat < 128 then c.isAlphanum else words.alnum c

/-- `\w` -/
def isWord (c : Char) : Bool := words.isAlnum c || c == '_'

def ascii : Words := ⟨fun _ => false, fun _ _ => rfl⟩

theorem isWord_ascii {c : Char} (h : c.toNat < 128) : words.isWord c = ascii.isWord c := by
  rw [isWord, isWord, isAlnum, isAlnum, if_pos h, if_pos h]

end Words

def LOG_MESSAGE_LIMIT : Nat := 240

/-- `[\x00-\x1f\x7f]` -/
def isControl (c : Char) : Bool := c.toNat ≤ 0x1F || c.toNat == 0x7F

/-- The letter `p` under `(?i)`, with the four letters that other scripts add to ASCII. -/
def anyCase (p c : Char) : Bool :=
  c.toLower == p || (p == 'i' && (c == '\u0130' || c == '\u0131')) || (p == 's' && c == '\u017F') ||
    (p == 'k' && c == '\u212A')

def anyCaseWord (letters : String) : Regex Char := Regex.letters (letters.toList.map anyCase)

/-! ## The expressions -/

def API_KEY : Regex Char :=
  .seq (anyCaseWord "api")
    (.seq (.alt (.letter fun c => c == '_' || c == '-') .empty) (anyCaseWord "key"))

def SECRET_NAMES : List (Regex Char) :=
  ["code", "token", "ticket", "session", "secret", "password", "passwd", "pwd"].map anyCaseWord ++
    API_KEY :: ["authorization", "cookie"].map anyCaseWord

/-- `:` or `=` -/
def assigns (c : Char) : Bool := c == ':' || c == '='

/-- `\s*[:=]\s*` -/
def SEPARATOR : Regex Char :=
  .seq (.many isSpace 0) (.seq (.letter assigns) (.many isSpace 0))

def quoted (quote : Char) : Regex Char :=
  .seq (.letter (· == quote)) (.seq (.many (· != quote) 0) (.letter (· == quote)))

/-- `[^\s,;&"')]` -/
def isBare (c : Char) : Bool :=
  !(isSpace c || c == ',' || c == ';' || c == '&' || c == '"' || c == '\'' || c == ')')

def SCHEME : Regex Char := .alt (anyCaseWord "bearer") (anyCaseWord "basic")

def BARE_VALUE : Regex Char :=
  .seq (.alt (.seq SCHEME (.many isSpace 1)) .empty) (.many isBare 1)

def SECRET_VALUE : Regex Char := .alt (quoted '"') (.alt (quoted '\'') BARE_VALUE)

def SECRET_PAIR : Regex Char :=
  .seq .boundary
    (.seq (.group 1 (Regex.oneOf SECRET_NAMES))
      (.seq .boundary (.seq (.group 2 SEPARATOR) SECRET_VALUE)))

/-- `[A-Za-z0-9._~+/=-]` under `(?i)` -/
def isTokenChar (c : Char) : Bool :=
  c.isAlphanum || c == '.' || c == '_' || c == '~' || c == '+' || c == '/' || c == '=' ||
    c == '-' || c == '\u0130' || c == '\u0131' || c == '\u017F' || c == '\u212A'

def BEARER : Regex Char :=
  .seq .boundary
    (.seq (.group 1 SCHEME) (.seq (.many isSpace 1) (.many isTokenChar 8)))

def LONG_SECRET : Regex Char :=
  .alt
    (.seq .boundary (.seq (.many Char.isHexDigit 32) .boundary))
    (.seq .boundary
      (.seq (.many (fun c => c.isAlphanum || c == '_' || c == '-') 40) .boundary))

/-! ## The passes -/

section Passes

variable {α : Type*} (read : α → Char) (write : Char → α) (words : Words)

/-- `" ".join(_CONTROL_CHARS.sub(" ", text).split())` -/
def oneLine (text : List α) : List α :=
  let text := replaceRuns (fun x => isControl (read x)) (write ' ') false text
  [write ' '].intercalate ((text.splitOnP fun x => isSpace (read x)).filter (· ≠ []))

def hidePair (m : Cursor α) : List α := m.group 1 ++ m.group 2 ++ "[redacted]".toList.map write

def hideBearer (m : Cursor α) : List α := m.group 1 ++ " [redacted]".toList.map write

def hideLong (_ : Cursor α) : List α := "[redacted]".toList.map write

def redact (text : List α) : List α :=
  let text := SECRET_PAIR.sub read words.isWord (hidePair write) 0 [] text
  let text := BEARER.sub read words.isWord (hideBearer write) 0 [] text
  LONG_SECRET.sub read words.isWord (hideLong write) 0 [] text

def scrub (text : List α) : List α :=
  let text := redact read write words (oneLine read write text)
  if text.length > LOG_MESSAGE_LIMIT then text.take (LOG_MESSAGE_LIMIT - 1) ++ [write '…'] else text

end Passes

/-! ## Letters of another type -/

section Map

variable {α β : Type*} {read : α → Char} {write : Char → α} {read' : β → Char} {write' : Char → β}
  {f : α → β} (hRead : ∀ x, read' (f x) = read x)
    (hWrite : ∀ letter, f (write letter) = write' letter)
include hWrite

theorem write_map (text : List Char) : (text.map write).map f = text.map write' := by
  rw [List.map_map]
  exact List.map_congr_left fun letter _ => hWrite letter

theorem hidePair_map (m : Cursor α) : hidePair write' (m.map f) = (hidePair write m).map f := by
  rw [hidePair, hidePair, Regex.group_map, Regex.group_map, List.map_append, List.map_append,
    write_map hWrite]

theorem hideBearer_map (m : Cursor α) :
    hideBearer write' (m.map f) = (hideBearer write m).map f := by
  rw [hideBearer, hideBearer, Regex.group_map, List.map_append, write_map hWrite]

include hRead

theorem oneLine_map (text : List α) :
    oneLine read' write' (text.map f) = (oneLine read write text).map f := by
  rw [oneLine, oneLine, joined_words, joined_words, ← hWrite,
    @replaceRuns_map _ (write ' ') _ f (fun x => isControl (read x)) (fun x => isControl (read' x))
      fun x => congrArg isControl (hRead x)]
  exact @spaced_map _ (fun x => isSpace (read x)) (write ' ') _ f (fun x => isSpace (read' x))
    (fun x => congrArg isSpace (hRead x)) false false _

theorem redact_map (words : Words) (text : List α) :
    redact read' write' words (text.map f) = (redact read write words text).map f := by
  have hStep : ∀ (r : Regex Char) (hide : Cursor α → List α) (hide' : Cursor β → List β),
      (∀ m, hide' (m.map f) = (hide m).map f) → ∀ text : List α,
        r.sub read' words.isWord hide' 0 [] (text.map f) =
          (r.sub read words.isWord hide 0 [] text).map f :=
    fun r hide hide' hHide text => Regex.sub_map hRead r hHide 0 [] text
  have hLong : ∀ m : Cursor α, hideLong write' (m.map f) = (hideLong write m).map f :=
    fun _ => (write_map hWrite _).symm
  rw [redact, redact, hStep _ _ _ (hidePair_map hWrite), hStep _ _ _ (hideBearer_map hWrite),
    hStep _ _ _ hLong]

theorem scrub_map (words : Words) (text : List α) :
    scrub read' write' words (text.map f) = (scrub read write words text).map f := by
  rw [scrub, scrub, oneLine_map hRead hWrite, redact_map hRead hWrite, List.length_map]
  split
  · rw [List.map_append, List.map_take, List.map_singleton, hWrite]
  · rfl

end Map

/-- `_scrub_log_text` of a message. -/
def scrub_log_text (words : Words) (value : String) : String :=
  String.ofList (scrub id id words value.toList)

end Sniff4Hound.Mobile
