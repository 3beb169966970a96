import Sniff4Hound.Library.Json

/-!
# Written values are read back

The reader takes every text of the writer apart again: strings one escape at a time, numerals
digit by digit up to a character that ends them, and containers by induction on the value.
-/

namespace Json

variable {φ : Type} {codec : Codec φ} {fuel n : Nat} {c : Char}
variable {rest digits whole frac exp : List Char}

/-! ## What can be written -/

mutual

theorem write_isSome_iff (v : Json φ) : (write codec v).isSome ↔ v.Short codec.maxDigits := by
  match v with
  | null => exact ⟨fun _ => trivial, fun _ => rfl⟩
  | bool b => exact ⟨fun _ => trivial, fun _ => rfl⟩
  | float x => exact ⟨fun _ => trivial, fun _ => rfl⟩
  | str s => exact ⟨fun _ => trivial, fun _ => rfl⟩
  | int i =>
    rw [write, Short]
    split
    · rename_i hShort
      exact ⟨fun _ => hShort, fun _ => rfl⟩
    · rename_i hLong
      exact ⟨fun h => Bool.noConfusion h, fun h => absurd h hLong⟩
  | list items =>
    rw [write, Option.isSome_map, Short]
    exact writeItems_isSome_iff items
  | dict entries =>
    rw [write, Option.isSome_map, Short]
    exact writeEntries_isSome_iff entries

theorem writeItems_isSome_iff (list : List (Json φ)) :
    (writeItems codec list).isSome ↔ ShortItems codec.maxDigits list := by
  match list with
  | [] => exact ⟨fun _ => trivial, fun _ => rfl⟩
  | [item] =>
    rw [writeItems, write_isSome_iff item]
    exact (iff_of_eq (and_true _)).symm
  | item :: next :: more =>
    rw [writeItems, ShortItems, ← write_isSome_iff item, ← writeItems_isSome_iff (next :: more)]
    cases write codec item with
    | none => simp
    | some text =>
      cases writeItems codec (next :: more) with
      | none => simp
      | some texts => simp

theorem writeEntries_isSome_iff (list : List (String × Json φ)) :
    (writeEntries codec list).isSome ↔ ShortEntries codec.maxDigits list := by
  match list with
  | [] => exact ⟨fun _ => trivial, fun _ => rfl⟩
  | [(key, item)] =>
    rw [writeEntries, Option.isSome_map, write_isSome_iff item]
    exact (iff_of_eq (and_true _)).symm
  | (key, item) :: next :: more =>
    rw [writeEntries, ShortEntries, ← write_isSome_iff item,
      ← writeEntries_isSome_iff (next :: more)]
    cases write codec item with
    | none => simp
    | some text =>
      cases writeEntries codec (next :: more) with
      | none => simp
      | some texts => simp

end

theorem dumps_isSome_iff (v : Json φ) : (dumps codec v).isSome ↔ v.Short codec.maxDigits := by
  rw [dumps, Option.isSome_map]
  exact write_isSome_iff v

/-! ## Strings -/

theorem hexValue?_hexDigit (h : n < 16) : hexValue? (hexDigit n) = some n := by
  revert h
  revert n
  decide

theorem hex4?_unicodeEscape (h : n < 0x10000) (rest : List Char) :
    hex4? (hexDigit (n / 4096) :: hexDigit (n / 256 % 16) :: hexDigit (n / 16 % 16) ::
      hexDigit (n % 16) :: rest) = some (n, rest) := by
  have hSum : 4096 * (n / 4096) + 256 * (n / 256 % 16) + 16 * (n / 16 % 16) + n % 16 = n := by
    omega
  rw [hex4?, hexValue?_hexDigit (by omega), hexValue?_hexDigit (by omega),
    hexValue?_hexDigit (by omega), hexValue?_hexDigit (by omega)]
  exact congrArg (fun n => some (n, rest)) hSum

theorem not_surrogate (c : Char) : ¬(0xD800 ≤ c.toNat ∧ c.toNat < 0xE000) := by
  rintro ⟨hLow, hHigh⟩
  rcases c.valid with h | ⟨h, -⟩
  · exact absurd hLow (Nat.not_le.mpr h)
  · exact absurd hHigh (Nat.not_lt.mpr h)

theorem toNat_lt (c : Char) : c.toNat < 0x110000 := by
  rcases c.valid with h | ⟨-, h⟩
  · exact Nat.lt_trans h (by decide)
  · exact h

theorem unicode?_small (h : c.toNat < 0x10000) (rest : List Char) :
    unescape? ((unicodeEscape c.toNat).tail ++ rest) = some (c, rest) := by
  have hChar := not_surrogate c
  simp only [unicodeEscape, List.tail_cons, List.cons_append, List.nil_append]
  rw [unescape?, show ESCAPES.lookup 'u' = none from rfl]
  simp only [if_true]
  rw [unicode?, hex4?_unicodeEscape h]
  simp only [Option.map_some]
  rw [if_neg (by omega), if_neg (by omega), Char.ofNat_toNat]

theorem unicode?_pair {high low : Nat} (hHigh : 0xD800 ≤ high ∧ high < 0xDC00)
    (hLow : 0xDC00 ≤ low ∧ low < 0xE000) (rest : List Char) :
    unescape? ((unicodeEscape high).tail ++ (unicodeEscape low ++ rest)) =
      some (Char.ofNat (0x10000 + (high - 0xD800) * 0x400 + (low - 0xDC00)), rest) := by
  have hSecond : lowSurrogate? (unicodeEscape low ++ rest) = some (low, rest) := by
    simp only [unicodeEscape, List.cons_append, List.nil_append]
    rw [lowSurrogate?, hex4?_unicodeEscape (by omega), Option.filter_some, if_pos]
    rw [Bool.and_eq_true, decide_eq_true_eq, decide_eq_true_eq]
    exact hLow
  have hHead : ∀ m text, (unicodeEscape m).tail ++ text = 'u' :: hexDigit (m / 4096) ::
      hexDigit (m / 256 % 16) :: hexDigit (m / 16 % 16) :: hexDigit (m % 16) :: text :=
    fun _ _ => rfl
  rw [hHead, unescape?, show ESCAPES.lookup 'u' = none from rfl]
  simp only [if_true]
  rw [unicode?, hex4?_unicodeEscape (by omega)]
  simp only [Option.map_some]
  rw [if_pos hHigh, hSecond]

theorem unicode?_large (h : 0x10000 ≤ c.toNat) (rest : List Char) :
    unescape? ((unicodeEscape (0xD800 + (c.toNat - 0x10000) / 0x400)).tail ++
      (unicodeEscape (0xDC00 + (c.toNat - 0x10000) % 0x400) ++ rest)) = some (c, rest) := by
  have hChar := toNat_lt c
  have hSum : ∀ high low, high = 0xD800 + (c.toNat - 0x10000) / 0x400 →
      low = 0xDC00 + (c.toNat - 0x10000) % 0x400 →
      0x10000 + (high - 0xD800) * 0x400 + (low - 0xDC00) = c.toNat := by
    omega
  rw [unicode?_pair (by omega) (by omega), hSum _ _ rfl rfl, Char.ofNat_toNat]

variable {text : List Char}

theorem stringBody_backslash (h : unescape? text = some (c, rest)) :
    stringBody (fuel + 1) ('\\' :: text) =
      (stringBody fuel rest).map fun found => (c :: found.1, found.2) := by
  rw [stringBody, if_neg (by decide), if_pos rfl, h, Option.bind_eq_bind, Option.bind_some]
  dsimp only
  cases stringBody fuel rest with
  | none => rfl
  | some found => rfl

theorem stringBody_escape (fuel : Nat) (c : Char) (rest : List Char) :
    stringBody (fuel + 1) (escape c ++ rest) =
      (stringBody fuel rest).map fun found => (c :: found.1, found.2) := by
  rw [escape]
  split
  · subst_vars
    exact stringBody_backslash rfl
  split
  · subst_vars
    exact stringBody_backslash rfl
  split
  · subst_vars
    exact stringBody_backslash rfl
  split
  · subst_vars
    exact stringBody_backslash rfl
  split
  · subst_vars
    exact stringBody_backslash rfl
  split
  · subst_vars
    exact stringBody_backslash rfl
  split
  · subst_vars
    exact stringBody_backslash rfl
  rename_i hQuote hBackslash _ _ _ _ _
  split
  · rename_i hVisible
    rw [List.singleton_append, stringBody, if_neg hQuote, if_neg hBackslash,
      if_neg (by omega)]
    cases stringBody fuel rest with
    | none => rfl
    | some found => rfl
  split
  · rename_i hSmall
    exact stringBody_backslash (unicode?_small hSmall rest)
  · rename_i hLarge
    rw [List.append_assoc]
    exact stringBody_backslash (unicode?_large (by omega) rest)

theorem stringBody_escaped {esc : Char → List Char}
    (hStep : ∀ fuel c rest, stringBody (fuel + 1) (esc c ++ rest) =
      (stringBody fuel rest).map fun found => (c :: found.1, found.2))
    {chars : List Char} (h : chars.length < fuel) (rest : List Char) :
    stringBody fuel (chars.flatMap esc ++ '"' :: rest) = some (chars, rest) := by
  induction chars generalizing fuel with
  | nil =>
    cases fuel with
    | zero => omega
    | succ fuel => rw [List.flatMap_nil, List.nil_append, stringBody, if_pos rfl]
  | cons c chars ih =>
    cases fuel with
    | zero => omega
    | succ fuel =>
      rw [List.flatMap_cons, List.append_assoc, hStep, ih (Nat.lt_of_succ_lt_succ h)]
      rfl

theorem stringBody_flatMap {chars : List Char} (h : chars.length < fuel) (rest : List Char) :
    stringBody fuel (chars.flatMap escape ++ '"' :: rest) = some (chars, rest) :=
  stringBody_escaped stringBody_escape h rest

theorem escape_cases (c : Char) : (∃ d ∈ ['"', '\\', 'n', 'r', 't', 'f', 'b'], escape c = ['\\', d]) ∨
    0x20 ≤ c.toNat ∧ escape c = [c] ∨ (∃ n, escape c = unicodeEscape n) ∨
    ∃ n m, escape c = unicodeEscape n ++ unicodeEscape m := by
  unfold escape
  by_cases hQuote : c = '"'
  · exact Or.inl ⟨'"', by simp, if_pos hQuote⟩
  rw [if_neg hQuote]
  by_cases hBackslash : c = '\\'
  · exact Or.inl ⟨'\\', by simp, if_pos hBackslash⟩
  rw [if_neg hBackslash]
  by_cases hNewline : c = '\n'
  · exact Or.inl ⟨'n', by simp, if_pos hNewline⟩
  rw [if_neg hNewline]
  by_cases hReturn : c = '\r'
  · exact Or.inl ⟨'r', by simp, if_pos hReturn⟩
  rw [if_neg hReturn]
  by_cases hTab : c = '\t'
  · exact Or.inl ⟨'t', by simp, if_pos hTab⟩
  rw [if_neg hTab]
  by_cases hFeed : c = '\x0c'
  · exact Or.inl ⟨'f', by simp, if_pos hFeed⟩
  rw [if_neg hFeed]
  by_cases hBack : c = '\x08'
  · exact Or.inl ⟨'b', by simp, if_pos hBack⟩
  rw [if_neg hBack]
  refine Or.inr ?_
  by_cases hVisible : 0x20 ≤ c.toNat ∧ c.toNat ≤ 0x7E
  · exact Or.inl ⟨hVisible.1, if_pos hVisible⟩
  rw [if_neg hVisible]
  refine Or.inr ?_
  by_cases hSmall : c.toNat < 0x10000
  · exact Or.inl ⟨_, if_pos hSmall⟩
  · exact Or.inr ⟨_, _, if_neg hSmall⟩

theorem one_le_length_escape (c : Char) : 1 ≤ (escape c).length := by
  rcases escape_cases c with ⟨d, -, h⟩ | ⟨-, h⟩ | ⟨n, h⟩ | ⟨n, m, h⟩
  all_goals
    rw [h]
    exact Nat.le_add_left 1 _

theorem length_le_flatMap {esc : Char → List Char} (h : ∀ c, 1 ≤ (esc c).length)
    (chars : List Char) : chars.length ≤ (chars.flatMap esc).length := by
  induction chars with
  | nil => exact Nat.le_refl 0
  | cons c chars ih =>
    have hOne := h c
    rw [List.flatMap_cons, List.length_append, List.length_cons]
    omega

theorem length_le_writeString (s : String) : s.toList.length + 2 ≤ (writeString s).length := by
  have hLength := length_le_flatMap one_le_length_escape s.toList
  rw [writeString, List.length_cons, List.length_append, List.length_singleton]
  omega

/-! ## Numerals -/

def Closed (rest : List Char) : Prop := ∀ c ∈ rest.head?, c = ',' ∨ c = ']' ∨ c = '}'

theorem closed_nil : Closed [] := by
  intro c hHead
  cases hHead

theorem closed_cons (h : c = ',' ∨ c = ']' ∨ c = '}') (rest : List Char) : Closed (c :: rest) := by
  rintro _ ⟨⟩
  exact h

theorem takeWhile_digits (hDigits : ∀ c ∈ digits, c.isDigit)
    (hRest : ∀ c ∈ rest.head?, c.isDigit = false) :
    (digits ++ rest).takeWhile Char.isDigit = digits ∧
      (digits ++ rest).dropWhile Char.isDigit = rest := by
  rw [List.takeWhile_append_of_pos hDigits, List.dropWhile_append_of_pos hDigits]
  cases rest with
  | nil => exact ⟨List.append_nil _, rfl⟩
  | cons c rest =>
    have hStop : ¬c.isDigit = true := by
      rw [hRest c rfl]
      decide
    rw [List.takeWhile_cons_of_neg hStop, List.dropWhile_cons_of_neg hStop, List.append_nil]
    exact ⟨rfl, rfl⟩

theorem whole?_append (hWhole : IsWhole whole) (hRest : ∀ c ∈ rest.head?, c.isDigit = false) :
    whole? (whole ++ rest) = some (whole, rest) := by
  rcases hWhole with rfl | ⟨hNe, hHead, hDigits⟩
  · rfl
  · obtain ⟨hTake, hDrop⟩ := takeWhile_digits hDigits hRest
    cases whole with
    | nil => exact absurd rfl hNe
    | cons c whole =>
      rw [List.cons_append] at hTake hDrop ⊢
      rw [whole?, if_neg fun hZero => hHead (congrArg some hZero),
        if_pos (hDigits c List.mem_cons_self), hTake, hDrop]

theorem fraction_append (hFrac : IsFraction frac)
    (hRest : ∀ c ∈ rest.head?, c.isDigit = false ∧ c ≠ '.') :
    fraction (frac ++ rest) = (frac, rest) := by
  rcases hFrac with rfl | ⟨digits, rfl, hNe, hDigits⟩
  · cases rest with
    | nil => rfl
    | cons c rest => exact if_neg fun hPoint => (hRest c rfl).2 hPoint.1
  · obtain ⟨hTake, hDrop⟩ := takeWhile_digits hDigits fun c hc => (hRest c hc).1
    rw [List.cons_append, fraction, hTake, hDrop]
    exact if_pos ⟨rfl, hNe⟩

theorem sign_append {sgn : List Char} (hSign : sgn = [] ∨ sgn = ['+'] ∨ sgn = ['-'])
    (hNe : digits ≠ []) (hDigits : ∀ c ∈ digits, c.isDigit) (rest : List Char) :
    sign (sgn ++ (digits ++ rest)) = (sgn, digits ++ rest) := by
  rcases hSign with rfl | rfl | rfl
  · cases digits with
    | nil => exact absurd rfl hNe
    | cons c digits =>
      refine if_neg ?_
      rintro (rfl | rfl)
      · exact absurd (hDigits '+' List.mem_cons_self) (by decide)
      · exact absurd (hDigits '-' List.mem_cons_self) (by decide)
  · rfl
  · rfl

theorem exponent_append (hExp : IsExponent exp)
    (hRest : ∀ c ∈ rest.head?, c.isDigit = false ∧ c ≠ 'e' ∧ c ≠ 'E') :
    exponent (exp ++ rest) = (exp, rest) := by
  rcases hExp with rfl | ⟨e, sgn, digits, rfl, hE, hSign, hNe, hDigits⟩
  · cases rest with
    | nil => rfl
    | cons c rest =>
      refine if_neg ?_
      rintro ⟨hE | hE, -⟩
      · exact (hRest c rfl).2.1 hE
      · exact (hRest c rfl).2.2 hE
  · obtain ⟨hTake, hDrop⟩ := takeWhile_digits hDigits fun c hc => (hRest c hc).1
    rw [List.cons_append, List.append_assoc, exponent, sign_append hSign hNe hDigits, hTake, hDrop]
    exact if_pos ⟨hE, hNe⟩

def numeralValue (codec : Codec φ) (negative : Bool) (whole frac exp : List Char) :
    Option (Json φ) :=
  if frac = [] ∧ exp = [] then
    if whole.length ≤ codec.maxDigits then
      some (int (if negative then -(Nat.ofDigitChars 10 whole 0 : Int)
        else Nat.ofDigitChars 10 whole 0))
    else none
  else some (float (codec.read (minus negative ++ (whole ++ (frac ++ exp)))))

theorem numeral?_append (negative : Bool) (hWhole : IsWhole whole) (hFrac : IsFraction frac)
    (hExp : IsExponent exp) (hRest : Closed rest) :
    numeral? codec negative (whole ++ (frac ++ (exp ++ rest))) =
      (numeralValue codec negative whole frac exp).map fun found => (found, rest) := by
  have hEnd : ∀ c ∈ rest.head?, c.isDigit = false ∧ c ≠ '.' ∧ c ≠ 'e' ∧ c ≠ 'E' := by
    intro c hc
    rcases hRest c hc with rfl | rfl | rfl
    · decide
    · decide
    · decide
  have hExpHead : ∀ c ∈ (exp ++ rest).head?, c.isDigit = false ∧ c ≠ '.' := by
    rcases hExp with rfl | ⟨e, sgn, digits, rfl, rfl | rfl, -⟩
    · exact fun c hc => ⟨(hEnd c hc).1, (hEnd c hc).2.1⟩
    · rintro _ ⟨⟩
      decide
    · rintro _ ⟨⟩
      decide
  have hFracHead : ∀ c ∈ (frac ++ (exp ++ rest)).head?, c.isDigit = false := by
    rcases hFrac with rfl | ⟨digits, rfl, -⟩
    · exact fun c hc => (hExpHead c hc).1
    · rintro _ ⟨⟩
      rfl
  rw [numeral?, whole?_append hWhole hFracHead]
  simp only [Option.bind_eq_bind, Option.bind_some, fraction_append hFrac hExpHead,
    exponent_append hExp fun c hc => ⟨(hEnd c hc).1, (hEnd c hc).2.2⟩, numeralValue]
  split
  · split
    · rfl
    · rfl
  · rfl

theorem number?_append (negative : Bool) (hWhole : IsWhole whole) (hFrac : IsFraction frac)
    (hExp : IsExponent exp) (hRest : Closed rest) :
    value codec (fuel + 1) (minus negative ++ (whole ++ (frac ++ (exp ++ rest)))) =
      (numeralValue codec negative whole frac exp).map fun found => (found, rest) := by
  rw [← numeral?_append negative hWhole hFrac hExp hRest]
  obtain ⟨d, more, rfl, hDigit⟩ : ∃ d more, whole = d :: more ∧ d.isDigit := by
    rcases hWhole with rfl | ⟨hNe, -, hDigits⟩
    · exact ⟨'0', [], rfl, rfl⟩
    · cases whole with
      | nil => exact absurd rfl hNe
      | cons d more => exact ⟨d, more, rfl, hDigits d List.mem_cons_self⟩
  have hNot : ∀ c : Char, c.isDigit = false → d ≠ c := by
    rintro c hc rfl
    rw [hDigit] at hc
    cases hc
  cases negative with
  | true =>
    simp only [minus, if_true, List.nil_append, List.cons_append]
    rw [value, if_neg (by decide), if_neg (by decide), if_neg (by decide)]
    have hConstant : ∀ text, constant? codec ('-' :: d :: text) = none := by
      intro text
      have hI := (hNot 'I' rfl).symm
      simp [constant?, CONSTANTS, List.cons_prefix_cons, hI]
    rw [hConstant, number?, if_pos rfl]
  | false =>
    simp only [minus, Bool.false_eq_true, if_false, List.nil_append, List.cons_append]
    rw [value, if_neg (hNot '"' rfl), if_neg (hNot '[' rfl), if_neg (hNot '{' rfl)]
    have hConstant : ∀ text, constant? codec (d :: text) = none := by
      intro text
      have h₁ := (hNot 'n' rfl).symm
      have h₂ := (hNot 't' rfl).symm
      have h₃ := (hNot 'f' rfl).symm
      have h₄ := (hNot 'N' rfl).symm
      have h₅ := (hNot 'I' rfl).symm
      have h₆ := (hNot '-' rfl).symm
      simp [constant?, CONSTANTS, List.cons_prefix_cons, h₁, h₂, h₃, h₄, h₅, h₆]
    rw [hConstant, number?, if_neg (hNot '-' rfl)]

/-! ## Values -/

theorem head_toDigits (h : 0 < n) : (Nat.toDigits 10 n).head? ≠ some '0' := by
  induction n using Nat.strongRecOn with
  | ind n ih =>
    by_cases hSmall : n < 10
    · rw [Nat.toDigits_of_lt_base hSmall]
      clear ih
      revert h
      revert hSmall
      revert n
      decide
    · rw [Nat.toDigits_of_base_le (by decide) (Nat.not_lt.mp hSmall)]
      have hHead := ih (n / 10) (by omega) (by omega)
      cases hDigits : Nat.toDigits 10 (n / 10) with
      | nil => exact absurd hDigits Nat.toDigits_ne_nil
      | cons d more =>
        rw [hDigits] at hHead
        exact hHead

theorem isWhole_toDigits (n : Nat) : IsWhole (Nat.toDigits 10 n) := by
  by_cases hZero : n = 0
  · rw [hZero]
    exact Or.inl rfl
  · exact Or.inr ⟨Nat.toDigits_ne_nil, head_toDigits (Nat.pos_of_ne_zero hZero), fun c hc =>
      Nat.isDigit_of_mem_toDigits (by decide) (by decide) hc⟩

theorem numeralValue_int {i : Int} (h : i.natAbs < 10 ^ codec.maxDigits) :
    numeralValue codec (decide (i < 0)) (Nat.toDigits 10 i.natAbs) [] [] = some (int i) := by
  have hLength := (Nat.length_toDigits_le_iff (by decide) codec.maxDigits_pos).mpr h
  rw [numeralValue, if_pos ⟨rfl, rfl⟩, if_pos hLength, Nat.ofDigitChars_ten_toDigits]
  by_cases hNegative : i < 0
  · rw [decide_eq_true hNegative]
    simp only [if_true]
    congr 2
    omega
  · rw [decide_eq_false hNegative]
    simp only [Bool.false_eq_true, if_false]
    congr 2
    omega

variable {v : Json φ}

theorem value_constant {name : List Char} (h : (name, v) ∈ CONSTANTS codec) (rest : List Char) :
    value codec (fuel + 1) (name ++ rest) = some (v, rest) := by
  simp only [CONSTANTS, List.mem_cons, Prod.mk.injEq, List.not_mem_nil, or_false] at h
  rcases h with ⟨rfl, rfl⟩ | ⟨rfl, rfl⟩ | ⟨rfl, rfl⟩ | ⟨rfl, rfl⟩ | ⟨rfl, rfl⟩ | ⟨rfl, rfl⟩
  all_goals simp [value, constant?, CONSTANTS, List.cons_prefix_cons]

theorem value_float (x : φ) (hRest : Closed rest) :
    value codec (fuel + 1) (codec.write x ++ rest) = some (float x, rest) := by
  rcases codec.write_spec x with ⟨⟨negative, whole, frac, exp, hText, hWhole, hFrac, hExp, hNe⟩,
    hRead⟩ | ⟨hText, hValue⟩ | ⟨hText, hValue⟩ | ⟨hText, hValue⟩
  · have hInteger : ¬(frac = [] ∧ exp = []) := by
      rintro ⟨hFracNil, hExpNil⟩
      exact hNe.elim (absurd hFracNil) (absurd hExpNil)
    rw [hText] at hRead
    rw [hText, List.append_assoc, List.append_assoc, List.append_assoc,
      number?_append negative hWhole hFrac hExp hRest, numeralValue, if_neg hInteger, hRead]
    rfl
  · rw [hText, ← hValue]
    exact value_constant (by simp [CONSTANTS]) rest
  · rw [hText, ← hValue]
    exact value_constant (by simp [CONSTANTS]) rest
  · rw [hText, ← hValue]
    exact value_constant (by simp [CONSTANTS]) rest

def Opens (text : List Char) : Prop :=
  ∃ c more, text = c :: more ∧ isBlank c = false ∧ c ≠ ']' ∧ c ≠ '}'

theorem Opens.skip (h : Opens text) (more : List Char) : skip (text ++ more) = text ++ more := by
  obtain ⟨c, rest, rfl, hBlank, -, -⟩ := h
  refine List.dropWhile_cons_of_neg ?_
  rw [hBlank]
  decide

theorem Opens.append (h : Opens text) (more : List Char) : Opens (text ++ more) := by
  obtain ⟨c, rest, rfl, hc⟩ := h
  exact ⟨c, rest ++ more, rfl, hc⟩

theorem opens_numeral (negative : Bool) (hWhole : IsWhole whole) (more : List Char) :
    Opens (minus negative ++ (whole ++ more)) := by
  cases negative with
  | true => exact ⟨'-', whole ++ more, rfl, rfl, by decide, by decide⟩
  | false =>
    rcases hWhole with rfl | ⟨hNe, -, hDigits⟩
    · exact ⟨'0', more, rfl, rfl, by decide, by decide⟩
    · cases whole with
      | nil => exact absurd rfl hNe
      | cons d whole =>
        have hDigit := hDigits d List.mem_cons_self
        have hNot : ∀ c : Char, c.isDigit = false → d ≠ c := by
          rintro c hc rfl
          rw [hDigit] at hc
          cases hc
        refine ⟨d, whole ++ more, rfl, ?_, hNot ']' rfl, hNot '}' rfl⟩
        simp [isBlank, hNot ' ' rfl, hNot '\t' rfl, hNot '\n' rfl, hNot '\r' rfl]

theorem opens_constant (codec : Codec φ) {name : List Char} (v : Json φ)
    (h : (name, v) ∈ CONSTANTS codec) : Opens name := by
  simp only [CONSTANTS, List.mem_cons, Prod.mk.injEq, List.not_mem_nil, or_false] at h
  rcases h with ⟨rfl, rfl⟩ | ⟨rfl, rfl⟩ | ⟨rfl, rfl⟩ | ⟨rfl, rfl⟩ | ⟨rfl, rfl⟩ | ⟨rfl, rfl⟩
  all_goals exact ⟨_, _, rfl, rfl, by decide, by decide⟩

theorem opens_float (x : φ) : Opens (codec.write x) := by
  rcases codec.write_spec x with ⟨⟨negative, whole, frac, exp, hText, hWhole, -⟩, -⟩ |
    ⟨hText, -⟩ | ⟨hText, -⟩ | ⟨hText, -⟩
  · rw [hText]
    exact opens_numeral negative hWhole _
  · rw [hText]
    exact opens_constant codec (float codec.nan) (by simp [CONSTANTS])
  · rw [hText]
    exact opens_constant codec (float codec.infinity) (by simp [CONSTANTS])
  · rw [hText]
    exact opens_constant codec (float codec.negInfinity) (by simp [CONSTANTS])

theorem opens_write (h : write codec v = some text) : Opens text := by
  cases v with
  | null =>
    cases h
    exact opens_constant codec null (by simp [CONSTANTS])
  | bool b =>
    cases h
    cases b with
    | false => exact opens_constant codec (bool false) (by simp [CONSTANTS])
    | true => exact opens_constant codec (bool true) (by simp [CONSTANTS])
  | int i =>
    rw [write] at h
    split at h
    · cases h
      rw [← List.append_nil (Nat.toDigits 10 i.natAbs)]
      exact opens_numeral _ (isWhole_toDigits _) []
    · cases h
  | float x =>
    cases h
    exact opens_float x
  | str s =>
    cases h
    exact ⟨'"', _, rfl, rfl, by decide, by decide⟩
  | list items =>
    rw [write, Option.map_eq_some_iff] at h
    obtain ⟨text, -, rfl⟩ := h
    exact ⟨'[', _, rfl, rfl, by decide, by decide⟩
  | dict entries =>
    rw [write, Option.map_eq_some_iff] at h
    obtain ⟨text, -, rfl⟩ := h
    exact ⟨'{', _, rfl, rfl, by decide, by decide⟩

theorem value_writeString {s : String} (hFuel : 2 * (writeString s).length < fuel)
    (rest : List Char) : value codec fuel (writeString s ++ rest) = some (str s, rest) := by
  have hLength := length_le_writeString s
  cases fuel with
  | zero => omega
  | succ fuel =>
    rw [writeString, List.cons_append, value, if_pos rfl, List.append_assoc,
      List.singleton_append, stringBody_flatMap (by omega)]
    simp only [Option.map_some, String.ofList_toList]

theorem opens_writeItems {list : List (Json φ)} (hNe : list ≠ [])
    (h : writeItems codec list = some text) : Opens text := by
  match list with
  | [] => exact absurd rfl hNe
  | [item] => exact opens_write (v := item) h
  | item :: next :: more =>
    simp only [writeItems, Option.bind_eq_bind, Option.bind_eq_some_iff,
      Option.some.injEq] at h
    obtain ⟨first, hFirst, texts, -, rfl⟩ := h
    exact (opens_write hFirst).append _

theorem Opens.head_ne {text : List Char} (h : Opens text) (hClose : c = ']' ∨ c = '}')
    (more : List Char) : (text ++ more).head? ≠ some c := by
  obtain ⟨d, rest, rfl, -, hBracket, hBrace⟩ := h
  intro hHead
  cases hHead
  rcases hClose with h | h
  · exact hBracket h
  · exact hBrace h

theorem opens_writeEntries {list : List (String × Json φ)} (hNe : list ≠ [])
    (h : writeEntries codec list = some text) : Opens text := by
  have hQuote : ∀ s more, Opens (writeString s ++ more) :=
    fun _ _ => ⟨'"', _, rfl, rfl, by decide, by decide⟩
  match list with
  | [] => exact absurd rfl hNe
  | [(key, item)] =>
    rw [writeEntries, Option.map_eq_some_iff] at h
    obtain ⟨text, -, rfl⟩ := h
    exact hQuote key _
  | (key, item) :: next :: more =>
    simp only [writeEntries, Option.bind_eq_bind, Option.bind_eq_some_iff,
      Option.some.injEq] at h
    obtain ⟨first, -, texts, -, rfl⟩ := h
    exact hQuote key _

variable {key : String} {item : Json φ} {found : Dict String (Json φ)}

/-- One entry is read, with or without blanks behind its key, and what is behind it decides how it
goes on. -/
theorem entries_spaced (hFuel : key.toList.length < fuel)
    (hRead : value codec fuel (skip text) = some (item, rest)) :
    entries codec (fuel + 1) found (writeString key ++ ':' :: text) =
      match skip rest with
      | [] => none
      | c :: rest =>
        if c = '}' then some (found.set key item, rest)
        else if c = ',' then entries codec fuel (found.set key item) (skip rest)
        else none := by
  have hColon : skip (':' :: text) = ':' :: text := rfl
  rw [writeString, List.cons_append, entries, if_pos rfl, List.append_assoc,
    List.singleton_append, stringBody_flatMap hFuel]
  cases hRest : skip rest <;>
    simp only [Option.bind_eq_bind, Option.bind_some, hColon, if_true, hRead, String.ofList_toList,
      hRest]

theorem entries_entry (hFuel : key.toList.length < fuel) (hSkip : skip text = text)
    (hRead : value codec fuel text = some (item, rest)) :
    entries codec (fuel + 1) found (writeString key ++ ':' :: text) =
      match skip rest with
      | [] => none
      | c :: rest =>
        if c = '}' then some (found.set key item, rest)
        else if c = ',' then entries codec fuel (found.set key item) (skip rest)
        else none := by
  rw [← hSkip] at hRead
  exact entries_spaced hFuel hRead

theorem set_key {more : Dict String (Json φ)}
    (hKeys : (Dict.keys (found ++ (key, item) :: more)).Nodup) :
    found.set key item = found ++ [(key, item)] := by
  refine Dict.set_of_notMem ?_ item
  rw [Dict.keys, List.map_append, List.map_cons] at hKeys
  intro hMem
  exact (List.nodup_append.mp hKeys).2.2 key hMem key List.mem_cons_self rfl

mutual

theorem value_write (v : Json φ) (hDistinct : v.Distinct) (text : List Char)
    (hText : write codec v = some text) (fuel : Nat) (hFuel : 2 * text.length < fuel)
    (rest : List Char) (hRest : Closed rest) :
    value codec fuel (text ++ rest) = some (v, rest) := by
  cases fuel with
  | zero => omega
  | succ fuel =>
    match v with
    | null =>
      cases hText
      exact value_constant (by simp [CONSTANTS]) rest
    | bool false =>
      cases hText
      exact value_constant (by simp [CONSTANTS]) rest
    | bool true =>
      cases hText
      exact value_constant (by simp [CONSTANTS]) rest
    | int i =>
      rw [write] at hText
      split at hText
      · rename_i hSize
        cases hText
        rw [List.append_assoc]
        refine (number?_append (decide (i < 0)) (isWhole_toDigits i.natAbs) (Or.inl rfl)
          (Or.inl rfl) hRest).trans ?_
        rw [numeralValue_int hSize]
        rfl
      · cases hText
    | float x =>
      cases hText
      exact value_float x hRest
    | str s =>
      cases hText
      exact value_writeString hFuel rest
    | list [] =>
      cases hText
      rfl
    | list (item :: more) =>
      rw [write, Option.map_eq_some_iff] at hText
      obtain ⟨inner, hInner, rfl⟩ := hText
      rw [List.length_cons, List.length_append, List.length_singleton] at hFuel
      have hOpens := opens_writeItems (List.cons_ne_nil _ _) hInner
      have hItems := items_write (item :: more) (List.cons_ne_nil _ _) hDistinct inner hInner
        fuel (by omega) rest
      rw [List.cons_append, value, if_neg (by decide), if_pos rfl, List.append_assoc,
        List.singleton_append, hOpens.skip, if_neg (hOpens.head_ne (Or.inl rfl) _), hItems]
      rfl
    | dict [] =>
      cases hText
      rfl
    | dict (entry :: more) =>
      rw [write, Option.map_eq_some_iff] at hText
      obtain ⟨inner, hInner, rfl⟩ := hText
      rw [List.length_cons, List.length_append, List.length_singleton] at hFuel
      have hOpens := opens_writeEntries (List.cons_ne_nil _ _) hInner
      have hEntries := entries_write (entry :: more) (List.cons_ne_nil _ _) hDistinct.2 inner
        hInner fuel (by omega) [] hDistinct.1 rest
      rw [List.cons_append, value, if_neg (by decide), if_neg (by decide), if_pos rfl,
        List.append_assoc, List.singleton_append, hOpens.skip,
        if_neg (hOpens.head_ne (Or.inr rfl) _), hEntries]
      rfl

theorem items_write (list : List (Json φ)) (hNe : list ≠ []) (hDistinct : DistinctItems list)
    (text : List Char) (hText : writeItems codec list = some text) (fuel : Nat)
    (hFuel : 2 * text.length + 1 < fuel) (rest : List Char) :
    items codec fuel (text ++ ']' :: rest) = some (list, rest) := by
  cases fuel with
  | zero => omega
  | succ fuel =>
    match list with
    | [] => exact absurd rfl hNe
    | [item] =>
      have hItem := value_write item hDistinct.1 text hText fuel (by omega) (']' :: rest)
        (closed_cons (Or.inr (Or.inl rfl)) rest)
      rw [items, hItem]
      rfl
    | item :: next :: more =>
      simp only [writeItems, Option.bind_eq_bind, Option.bind_eq_some_iff,
        Option.some.injEq] at hText
      obtain ⟨first, hFirst, texts, hTexts, rfl⟩ := hText
      rw [List.length_append, List.length_cons] at hFuel
      have hItem := value_write item hDistinct.1 first hFirst fuel (by omega)
        (',' :: (texts ++ ']' :: rest)) (closed_cons (Or.inl rfl) _)
      have hMore := items_write (next :: more) (List.cons_ne_nil _ _) hDistinct.2 texts hTexts
        fuel (by omega) rest
      have hSkip := (opens_writeItems (List.cons_ne_nil next more) hTexts).skip (']' :: rest)
      rw [List.append_assoc, List.cons_append, items, hItem]
      have hComma : skip (',' :: (texts ++ ']' :: rest)) = ',' :: (texts ++ ']' :: rest) := rfl
      simp only [Option.bind_eq_bind, Option.bind_some, hComma, hSkip, hMore]
      rfl

theorem entries_write (list : List (String × Json φ)) (hNe : list ≠ [])
    (hDistinct : DistinctEntries list) (text : List Char)
    (hText : writeEntries codec list = some text) (fuel : Nat)
    (hFuel : 2 * text.length + 1 < fuel) (found : Dict String (Json φ))
    (hKeys : (Dict.keys (found ++ list)).Nodup) (rest : List Char) :
    entries codec fuel found (text ++ '}' :: rest) = some (found ++ list, rest) := by
  cases fuel with
  | zero => omega
  | succ fuel =>
    match list with
    | [] => exact absurd rfl hNe
    | [(key, item)] =>
      rw [writeEntries, Option.map_eq_some_iff] at hText
      obtain ⟨text, hItem, rfl⟩ := hText
      rw [List.length_append, List.length_cons] at hFuel
      have hKey := length_le_writeString key
      have hRead := value_write item hDistinct.1 text hItem fuel (by omega) ('}' :: rest)
        (closed_cons (Or.inr (Or.inr rfl)) rest)
      rw [List.append_assoc, List.cons_append,
        entries_entry (by omega) ((opens_write hItem).skip _) hRead, set_key hKeys]
      rfl
    | (key, item) :: next :: more =>
      simp only [writeEntries, Option.bind_eq_bind, Option.bind_eq_some_iff,
        Option.some.injEq] at hText
      obtain ⟨first, hFirst, texts, hTexts, rfl⟩ := hText
      simp only [List.length_append, List.length_cons] at hFuel
      have hKey := length_le_writeString key
      have hRead := value_write item hDistinct.1 first hFirst fuel (by omega)
        (',' :: (texts ++ '}' :: rest)) (closed_cons (Or.inl rfl) _)
      have hMore := entries_write (next :: more) (List.cons_ne_nil _ _) hDistinct.2 texts
        hTexts fuel (by omega) (found ++ [(key, item)]) (by rwa [List.append_assoc]) rest
      have hSkip := (opens_writeEntries (List.cons_ne_nil next more) hTexts).skip
        ('}' :: rest)
      rw [List.append_assoc, List.cons_append, List.append_assoc, List.cons_append,
        entries_entry (by omega) ((opens_write hFirst).skip _) hRead, set_key hKeys]
      have hComma : skip (',' :: (texts ++ '}' :: rest)) = ',' :: (texts ++ '}' :: rest) := rfl
      simp only [hComma, hSkip, hMore, List.append_assoc]
      rfl

end

theorem loads_dumps {text : String} (hDistinct : v.Distinct) (h : dumps codec v = some text) :
    loads codec text = some v := by
  rw [dumps, Option.map_eq_some_iff] at h
  obtain ⟨chars, hChars, rfl⟩ := h
  have hSkip := (opens_write hChars).skip []
  have hRead := value_write v hDistinct chars hChars (2 * chars.length + 1) (by omega) []
    closed_nil
  rw [List.append_nil] at hSkip hRead
  simp only [loads, String.toList_ofList, hSkip, hRead]
  rfl

end Json
