import Mathlib.Data.List.Infix
import Sniff4Hound.Library.Json

/-!
# Values of the untyped dictionaries

Packets and submitted monitors are dictionaries of JSON-like values. This file holds the
values with the conversions of the language (`str`, `int`, truth, equality) and the
accessors of `utils.py` that the detection code uses.
-/

namespace Sniff4Hound

/-- A finite float carries its value; `nan` and the infinities have none. -/
inductive Value where
  | null
  | bool (b : Bool)
  | int (i : Int)
  | float (value : Option Rat) (text : String)
  | str (s : String)
  | list (items : List Value)
  | dict (entries : List (String × Value))

/-! ## Strings -/

/-- `str.isspace` for one character. -/
def isSpace (c : Char) : Bool :=
  let n := c.toNat
  (9 ≤ n && n ≤ 13) || (28 ≤ n && n ≤ 32) || n == 0x85 || n == 0xA0 || n == 0x1680 ||
    (0x2000 ≤ n && n ≤ 0x200A) || n == 0x2028 || n == 0x2029 || n == 0x202F || n == 0x205F ||
    n == 0x3000

def isascii (s : String) : Bool := s.toList.all fun c => c.toNat < 128

/-- `secrets.compare_digest`, which raises on texts that are not ASCII. -/
def compare_digest (a b : String) : Option Bool :=
  if isascii a && isascii b then some (a = b) else none

theorem toNat_toLower (c : Char) :
    c.toLower.toNat = if 65 ≤ c.toNat ∧ c.toNat ≤ 90 then c.toNat + 32 else c.toNat := by
  by_cases hUpper : c.val ≥ 'A'.val ∧ c.val ≤ 'Z'.val
  · have hLow : 65 ≤ c.toNat := hUpper.1
    have hHigh : c.toNat ≤ 90 := hUpper.2
    have hLower : c.toLower.val = c.val + 32 := congrArg Char.val (dif_pos hUpper)
    rw [if_pos ⟨hLow, hHigh⟩, Char.toNat, hLower, UInt32.toNat_add]
    change (c.toNat + 32) % 2 ^ 32 = c.toNat + 32
    omega
  · have hLower : c.toLower = c := dif_neg hUpper
    rw [hLower, if_neg]
    rintro ⟨hLow, hHigh⟩
    exact hUpper ⟨hLow, hHigh⟩

def lstrip (s : String) : String :=
  String.ofList (s.toList.dropWhile isSpace)

def strip (s : String) : String :=
  String.ofList ((s.toList.dropWhile isSpace).reverse.dropWhile isSpace).reverse

/-- `s[:n]`. -/
def slice (s : String) (n : Nat) : String :=
  String.ofList (s.toList.take n)

/-- `needle in text`. -/
def contains (text needle : String) : Bool :=
  decide (needle.toList <:+: text.toList)

def startswith (text head : String) : Bool :=
  decide (head.toList <+: text.toList)

/-- `s.split(separator, n)`. -/
def splitAtMost (separator : Char) : Nat → List Char → List String
  | 0, chars => [String.ofList chars]
  | n + 1, chars =>
    match chars.dropWhile (· ≠ separator) with
    | [] => [String.ofList chars]
    | _ :: rest =>
      String.ofList (chars.takeWhile (· ≠ separator)) :: splitAtMost separator n rest

/-- `separator.join(parts)`. -/
def join (separator : String) : List String → String
  | [] => ""
  | [part] => part
  | part :: rest => part ++ separator ++ join separator rest

structure Runtime where
  lower : String → String
  upper : String → String
  decimal : Char → Option Nat
  repr : Value → String
  lower_eq_empty : ∀ s, lower s = "" ↔ s = ""

def Runtime.ascii : Runtime where
  lower s := String.ofList (s.toList.map Char.toLower)
  upper s := String.ofList (s.toList.map Char.toUpper)
  decimal c := if '0' ≤ c ∧ c ≤ '9' then some (c.toNat - '0'.toNat) else none
  repr _ := ""
  lower_eq_empty s := by
    constructor
    · intro h
      simpa using congrArg String.toList h
    · rintro rfl
      rfl

/-- `str.lower` on a text of ASCII characters. -/
def Runtime.LowersAscii (rt : Runtime) : Prop :=
  ∀ s : String, (∀ c ∈ s.toList, c.toNat < 128) →
    rt.lower s = String.ofList (s.toList.map Char.toLower)

theorem Runtime.lowersAscii_ascii : Runtime.ascii.LowersAscii := fun _ _ => rfl

def decimalDigits (rt : Runtime) : List Char → Option (List Nat)
  | [] => none
  | [c] => (rt.decimal c).map fun d => [d]
  | c :: '_' :: rest => do
    let d ← rt.decimal c
    let ds ← decimalDigits rt rest
    pure (d :: ds)
  | c :: c' :: rest => do
    let d ← rt.decimal c
    let ds ← decimalDigits rt (c' :: rest)
    pure (d :: ds)

def INT_MAX_STR_DIGITS : Nat := 4300

def parseNat (rt : Runtime) (digits : List Char) : Option Nat := do
  let ds ← decimalDigits rt digits
  if ds.length ≤ INT_MAX_STR_DIGITS then some (ds.foldl (fun n d => 10 * n + d) 0) else none

/-- `int(text)`. -/
def parseInt (rt : Runtime) (text : String) : Option Int :=
  match (strip text).toList with
  | '-' :: digits => (parseNat rt digits).map fun n => - (n : Int)
  | '+' :: digits => (parseNat rt digits).map fun n => (n : Int)
  | digits => (parseNat rt digits).map fun n => (n : Int)

/-! ## Conversions -/

namespace Value

/-- `bool(value)`. -/
def truthy : Value → Bool
  | null => false
  | bool b => b
  | int i => i != 0
  | float value _ => value != some 0
  | str s => s != ""
  | list items => !items.isEmpty
  | dict entries => !entries.isEmpty

/-- `value or other`. -/
def orElse (v w : Value) : Value := if v.truthy then v else w

/-- `str(value)`. -/
def toText (rt : Runtime) : Value → String
  | null => "None"
  | bool b => if b then "True" else "False"
  | int i => toString i
  | float _ text => text
  | str s => s
  | v => rt.repr v

/-- `str(value or "")`. -/
def text (rt : Runtime) (v : Value) : String := (v.orElse (str "")).toText rt

/-- `int(value)`; `none` when it raises. -/
def toInt? (rt : Runtime) : Value → Option Int
  | bool b => some (if b then 1 else 0)
  | int i => some i
  | float value _ => value.map fun q => q.num.tdiv q.den
  | str s => parseInt rt s
  | _ => none

def safe_int (rt : Runtime) (v : Value) (default : Int) : Int := (v.toInt? rt).getD default

def number? : Value → Option Rat
  | bool b => some (if b then 1 else 0)
  | int i => some i
  | float value _ => value
  | _ => none

/-- `v == w` for values that can be hashed. -/
def eqv (v w : Value) : Bool :=
  match v.number?, w.number? with
  | some p, some q => p = q
  | none, none =>
    match v, w with
    | null, null => true
    | str s, str t => s = t
    | float _ s, float _ t => s = t ∧ s ≠ "nan"
    | _, _ => false
  | _, _ => false

/-- The name of the type in the error of `hash(value)`. -/
def unhashable? : Value → Option String
  | list _ => some "list"
  | dict _ => some "dict"
  | _ => none

/-- `value.get(key)` for a dictionary; a missing key reads as `None`. -/
def get (entries : List (String × Value)) (key : String) : Value :=
  (entries.lookup key).getD null

def has (entries : List (String × Value)) (key : String) : Bool :=
  (entries.lookup key).isSome

/-- The entries of `value if isinstance(value, dict) else {}`. -/
def entriesOf : Value → List (String × Value)
  | dict entries => entries
  | _ => []

section Loads

variable {φ : Type} (float_value : φ → Option Rat) (float_text : φ → String)

mutual

/-- What `json.loads` gives, as a value. -/
def ofJson : Json φ → Value
  | .null => .null
  | .bool b => .bool b
  | .int i => .int i
  | .float x => .float (float_value x) (float_text x)
  | .str s => .str s
  | .list items => .list (ofItems items)
  | .dict entries => .dict (ofEntries entries)

def ofItems : List (Json φ) → List Value
  | [] => []
  | item :: rest => ofJson item :: ofItems rest

def ofEntries : List (String × Json φ) → List (String × Value)
  | [] => []
  | (key, item) :: rest => (key, ofJson item) :: ofEntries rest

end

end Loads

end Value

/-- A packet dictionary; a missing key reads as `None`. -/
abbrev Packet := String → Value

/-! ## Accessors of `utils.py` -/

def unique_ordered {α : Type*} (eq : α → α → Bool) (values : List α) : List α :=
  values.foldl (fun ordered value => if ordered.any (eq value) then ordered
    else ordered ++ [value]) []

def normalize_protocol_name (rt : Runtime) (value : Value) : String :=
  let name := rt.lower (strip (value.text rt))
  if name = "" then "unknown" else name

def BOOL_TRUE : List String := ["1", "true", "yes", "on"]
def BOOL_FALSE : List String := ["0", "false", "no", "off"]

def coerce_bool (rt : Runtime) (value : Value) (field_name : String) : Except String Bool :=
  match value with
  | .bool b => .ok b
  | .int 0 => .ok false
  | .int 1 => .ok true
  | .str s =>
    let normalized := rt.lower (strip s)
    if normalized ∈ BOOL_TRUE then .ok true
    else if normalized ∈ BOOL_FALSE then .ok false
    else .error (field_name ++ " must be a boolean")
  | _ => .error (field_name ++ " must be a boolean")

theorem mem_of_mem_unique_ordered {α : Type*} {eq : α → α → Bool} {values : List α} {x : α}
    (h : x ∈ unique_ordered eq values) : x ∈ values := by
  induction values using List.reverseRecOn with
  | nil => exact h
  | append_singleton values value ih =>
    rw [unique_ordered, List.foldl_append] at h
    simp only [List.foldl_cons, List.foldl_nil] at h
    split at h
    · exact List.mem_append_left _ (ih h)
    · rcases List.mem_append.mp h with hOld | hNew
      · exact List.mem_append_left _ (ih hOld)
      · exact List.mem_append_right _ hNew

theorem normalize_protocol_name_ne_empty (rt : Runtime) (value : Value) :
    normalize_protocol_name rt value ≠ "" := by
  rw [normalize_protocol_name]
  split
  · decide
  · assumption

theorem text_str (rt : Runtime) (s : String) : (Value.str s).text rt = s := by
  rw [Value.text, Value.orElse]
  split
  · rfl
  · rename_i hEmpty
    rw [Value.truthy, bne_iff_ne, not_not] at hEmpty
    exact hEmpty.symm

theorem strip_empty : strip "" = "" := by decide

theorem strip_eq_self {s : String} {first last : Char} {mid : List Char}
    (hList : s.toList = first :: (mid ++ [last])) (hFirst : isSpace first = false)
    (hLast : isSpace last = false) : strip s = s := by
  have hFront : s.toList.dropWhile isSpace = s.toList := by
    rw [hList, List.dropWhile_cons_of_neg (by simp [hFirst])]
  have hBack : s.toList.reverse.dropWhile isSpace = s.toList.reverse := by
    rw [hList, List.reverse_cons, List.reverse_append, List.reverse_singleton,
      List.singleton_append, List.cons_append, List.dropWhile_cons_of_neg (by simp [hLast])]
  rw [strip, hFront, hBack, List.reverse_reverse, String.ofList_toList]

theorem dropWhile_of_prefix {p : Char → Bool} {front letters : List Char}
    (hFront : front <+: letters) (hKept : letters.dropWhile p = letters) :
    front.dropWhile p = front := by
  cases front with
  | nil => rfl
  | cons c front =>
    obtain ⟨rest, rfl⟩ := hFront
    rw [List.cons_append, List.dropWhile_cons] at hKept
    rw [List.dropWhile_cons]
    split
    · next hDropped =>
      rw [if_pos hDropped] at hKept
      have hShort := (List.dropWhile_sublist p (l := front ++ rest)).length_le
      rw [hKept, List.length_cons] at hShort
      omega
    · rfl

theorem strip_strip (s : String) : strip (strip s) = strip s := by
  have hIdem : ∀ letters : List Char,
      (letters.dropWhile isSpace).dropWhile isSpace = letters.dropWhile isSpace := by
    intro letters
    induction letters with
    | nil => rfl
    | cons c letters ih =>
      rw [List.dropWhile_cons]
      split
      · exact ih
      · next hKept => rw [List.dropWhile_cons_of_neg hKept]
  have hFront : (strip s).toList.dropWhile isSpace = (strip s).toList := by
    refine dropWhile_of_prefix ?_ (hIdem s.toList)
    rw [strip, String.toList_ofList, ← List.reverse_suffix, List.reverse_reverse]
    exact List.dropWhile_suffix _
  apply String.toList_injective
  rw [strip, hFront, String.toList_ofList]
  rw [strip, String.toList_ofList, List.reverse_reverse, hIdem]

theorem lower_ne_empty_of_strip {rt : Runtime} {s : String} (h : strip s ≠ "") :
    rt.lower s ≠ "" := by
  intro hLower
  apply h
  rw [(rt.lower_eq_empty s).mp hLower, strip_empty]

/-! ## Joined texts -/

theorem infix_append_cons {α : Type*} {x : α} {needle : List α} (hx : x ∉ needle)
    (front back : List α) :
    needle <:+: front ++ x :: back ↔ needle <:+: front ∨ needle <:+: back := by
  constructor
  · rintro ⟨s, t, h⟩
    rcases List.append_eq_append_iff.mp h with ⟨more, hFront, -⟩ | ⟨more, hLeft, hRight⟩
    · exact Or.inl ⟨s, more, hFront.symm⟩
    · cases more with
      | nil =>
        rw [List.append_nil] at hLeft
        exact Or.inl ⟨s, [], by rw [List.append_nil, hLeft]⟩
      | cons y rest =>
        obtain ⟨rfl, hBack⟩ := List.cons.inj hRight
        rcases List.append_eq_append_iff.mp hLeft with ⟨mid, -, hNeedle⟩ | ⟨mid, -, hRest⟩
        · rw [hNeedle] at hx
          exact absurd (List.mem_append_right _ List.mem_cons_self) hx
        · cases mid with
          | nil =>
            rw [← List.nil_append needle, ← hRest] at hx
            exact absurd List.mem_cons_self hx
          | cons z mid =>
            obtain ⟨-, hMid⟩ := List.cons.inj hRest
            exact Or.inr ⟨mid, t, by rw [hBack, hMid]; rfl⟩
  · rintro (h | h)
    · exact h.trans (List.prefix_append front _).isInfix
    · exact h.trans ((List.suffix_cons x back).trans (List.suffix_append front _)).isInfix

theorem contains_join {needle : String} (hComma : ',' ∉ needle.toList) (hNeedle : needle ≠ "")
    (parts : List String) :
    contains (join "," parts) needle = parts.any fun part => contains part needle := by
  induction parts with
  | nil =>
    rw [contains, join, List.any_nil, decide_eq_false_iff_not, String.toList_empty,
      List.infix_nil]
    intro hEmpty
    exact hNeedle (String.toList_eq_nil_iff.mp hEmpty)
  | cons part rest ih =>
    cases rest with
    | nil => simp [join]
    | cons next rest =>
      have hJoin : (join "," (part :: next :: rest)).toList =
          part.toList ++ ',' :: (join "," (next :: rest)).toList := by
        rw [show join "," (part :: next :: rest) =
          part ++ "," ++ join "," (next :: rest) from rfl, String.toList_append,
          String.toList_append, List.append_assoc]
        rfl
      rw [List.any_cons, ← ih, contains, hJoin]
      simp only [infix_append_cons hComma, contains, Bool.decide_or]

end Sniff4Hound
