import Sniff4Hound.Text.Value

/-!
# Byte strings

Slices, integers and texts of captured bytes: the operations of `bytes`, the addresses of
`ipaddress`, and the previews of `utils.py`.
-/

namespace Sniff4Hound

abbrev Bytes := List UInt8

namespace Bytes

/-- `data[i]`, for an index that has been checked. -/
def byte (data : Bytes) (i : Nat) : Nat := (data.getD i 0).toNat

/-- `data[i:j]`. -/
def slice (data : Bytes) (i j : Nat) : Bytes := (data.drop i).take (j - i)

/-- `int.from_bytes(data, "big")`. -/
def big (data : Bytes) : Nat := data.foldl (fun n b => 256 * n + b.toNat) 0

/-- `int.from_bytes(data, "little")`. -/
def little (data : Bytes) : Nat := big data.reverse

/-- The big-endian integer `data[i:j]`. -/
def num (data : Bytes) (i j : Nat) : Nat := big (data.slice i j)

def ofText (s : String) : Bytes := s.toList.map fun c => UInt8.ofNat c.toNat

def startswith (data head : Bytes) : Bool := decide (head <+: data)

def startswithAny (data : Bytes) (heads : List Bytes) : Bool := heads.any data.startswith

/-- `data.find(needle, start)`. -/
def find (data needle : Bytes) (start : Nat) : Option Nat :=
  (List.range (data.length + 1 - start)).findSome? fun k =>
    if startswith (data.drop (start + k)) needle then some (start + k) else none

def containsBytes (data needle : Bytes) : Bool := (data.find needle 0).isSome

/-- `data.lower()`: ASCII letters only. -/
def lower (data : Bytes) : Bytes :=
  data.map fun b => if 65 ≤ b.toNat ∧ b.toNat ≤ 90 then b + 32 else b

/-- `data.split(b"\x00")`. -/
def splitZero (data : Bytes) : List Bytes := data.splitOn 0

end Bytes

/-! ## Numbers as text -/

def hexDigit (n : Nat) : Char :=
  "0123456789abcdef".toList.getD n '0'

def hexNumeral (n : Nat) : String := String.ofList (Nat.toDigits 16 n)

def padLeft (width : Nat) (s : String) : String :=
  String.ofList (List.replicate (width - s.length) '0') ++ s

/-- `f"0x{n:0wx}"`. -/
def hexText (width n : Nat) : String := "0x" ++ padLeft width (hexNumeral n)

def hexByte (b : UInt8) : String :=
  String.ofList [hexDigit (b.toNat / 16), hexDigit (b.toNat % 16)]

/-- `data.hex()`. -/
def Bytes.hex (data : Bytes) : String := join "" (data.map hexByte)

/-! ## Decoding -/

/-- A multi-byte sequence under way: continuation bytes still needed, the bits so far and
the range of the next byte. -/
structure Utf8Pending where
  needed : Nat
  bits : Nat
  low : Nat
  high : Nat

def utf8Start (b : Nat) : Option Utf8Pending :=
  if 0xC2 ≤ b ∧ b ≤ 0xDF then some ⟨1, b - 0xC0, 0x80, 0xBF⟩
  else if b = 0xE0 then some ⟨2, 0, 0xA0, 0xBF⟩
  else if b = 0xED then some ⟨2, 0xD, 0x80, 0x9F⟩
  else if 0xE1 ≤ b ∧ b ≤ 0xEF then some ⟨2, b - 0xE0, 0x80, 0xBF⟩
  else if b = 0xF0 then some ⟨3, 0, 0x90, 0xBF⟩
  else if 0xF1 ≤ b ∧ b ≤ 0xF3 then some ⟨3, b - 0xF0, 0x80, 0xBF⟩
  else if b = 0xF4 then some ⟨3, 4, 0x80, 0x8F⟩
  else none

/-- `data.decode("utf-8", errors=...)`; `bad` stands for every malformed part. -/
def utf8Decode (bad : List Char) : Option Utf8Pending → Bytes → List Char
  | none, [] => []
  | some _, [] => bad
  | none, b :: rest =>
    if b.toNat < 0x80 then Char.ofNat b.toNat :: utf8Decode bad none rest
    else match utf8Start b.toNat with
      | some pending => utf8Decode bad (some pending) rest
      | none => bad ++ utf8Decode bad none rest
  | some p, b :: rest =>
    let n := b.toNat
    if p.low ≤ n ∧ n ≤ p.high then
      let bits := 64 * p.bits + (n - 0x80)
      if p.needed = 1 then Char.ofNat bits :: utf8Decode bad none rest
      else utf8Decode bad (some ⟨p.needed - 1, bits, 0x80, 0xBF⟩) rest
    -- the byte that breaks a sequence is read again as a first byte
    else if n < 0x80 then bad ++ Char.ofNat n :: utf8Decode bad none rest
    else match utf8Start n with
      | some pending => bad ++ utf8Decode bad (some pending) rest
      | none => bad ++ bad ++ utf8Decode bad none rest

def REPLACEMENT : Char := Char.ofNat 0xFFFD

/-- `decode("utf-8", errors="replace")`. -/
def Bytes.utf8Replace (data : Bytes) : String :=
  String.ofList (utf8Decode [REPLACEMENT] none data)

/-- `decode("ascii", errors="replace")`. -/
def Bytes.asciiReplace (data : Bytes) : String :=
  String.ofList (data.map fun b => if b.toNat < 0x80 then Char.ofNat b.toNat else REPLACEMENT)

/-- `decode("ascii")`, or `decode("latin-1")` when it fails. -/
def Bytes.latin1 (data : Bytes) : String :=
  String.ofList (data.map fun b => Char.ofNat b.toNat)

def Bytes.isascii (data : Bytes) : Bool := data.all fun b => b.toNat < 0x80

/-! ## Previews -/

/-- `str.rstrip`. -/
def rstrip (s : String) : String :=
  String.ofList (s.toList.reverse.dropWhile isSpace).reverse

/-- `normalize_text`: everything but visible ASCII separates words, and one blank stands
between two words. -/
def normalize_text (raw : List Char) (limit : Nat) : String :=
  let words := (raw.splitOnP fun c => !(0x21 ≤ c.toNat && c.toNat ≤ 0x7E)).filter (· ≠ [])
  let cleaned := join " " (words.map String.ofList)
  if limit ≠ 0 ∧ cleaned.length > limit then rstrip (slice cleaned (limit - 1)) ++ "…"
  else cleaned

def bytes_to_text_preview (payload : Bytes) (limit : Nat) : String :=
  if payload = [] then "" else normalize_text (utf8Decode [] none payload) limit

def bytes_to_hex_preview (payload : Bytes) (limit : Nat) : String :=
  Bytes.hex (payload.take limit)

def format_mac (raw : Bytes) : String := join ":" ((raw.take 6).map hexByte)

/-- `math.ceil(n * 0.55)` in double precision; `100 * 0.55` comes out above 55. -/
def printableShare (n : Nat) : Nat := if n = 100 then 56 else (11 * n + 19) / 20

def is_printable_payload (payload : Bytes) : Bool :=
  let window := payload.take 128
  let printable := window.countP fun b =>
    (32 ≤ b.toNat && b.toNat ≤ 126) || b.toNat ∈ [9, 10, 13]
  payload ≠ [] && max 8 (printableShare window.length) ≤ printable

/-! ## Addresses -/

/-- `str(ipaddress.IPv4Address(data))`. -/
def ipv4Text (data : Bytes) : String := join "." (data.map fun b => toString b.toNat)

def hextets : Bytes → List Nat
  | a :: b :: rest => (256 * a.toNat + b.toNat) :: hextets rest
  | _ => []

def zeroRun (groups : List Nat) : Nat := (groups.takeWhile (· = 0)).length

def longestZeroRun (groups : List Nat) : Nat × Nat :=
  (List.range groups.length).foldl (fun best i =>
    let n := zeroRun (groups.drop i)
    if n > best.2 then (i, n) else best) (0, 0)

/-- `str(ipaddress.IPv6Address(data))`. -/
def ipv6Text (data : Bytes) : String :=
  let groups := hextets data
  let numerals := groups.map hexNumeral
  let (start, length) := longestZeroRun groups
  if length > 1 then
    join ":" (numerals.take start) ++ "::" ++ join ":" (numerals.drop (start + length))
  else join ":" numerals

end Sniff4Hound
