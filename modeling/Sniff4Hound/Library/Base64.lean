import Mathlib.Data.List.Basic

/-!
# Base64 without padding

The URL-safe alphabet, written without the padding characters and read as a lenient reader does:
it skips what is not in the alphabet, and stops at the padding that fills the last group of four.
Every byte string is read back from its text.
-/

namespace Base64

def symbol (n : Nat) : Char :=
  if n < 26 then Char.ofNat (65 + n)
  else if n < 52 then Char.ofNat (97 + (n - 26))
  else if n < 62 then Char.ofNat (48 + (n - 52))
  else if n = 62 then '-' else '_'

def sextet? (c : Char) : Option Nat :=
  let n := c.toNat
  if 65 ≤ n ∧ n ≤ 90 then some (n - 65)
  else if 97 ≤ n ∧ n ≤ 122 then some (n - 97 + 26)
  else if 48 ≤ n ∧ n ≤ 57 then some (n - 48 + 52)
  else if c = '-' ∨ c = '+' then some 62
  else if c = '_' ∨ c = '/' then some 63
  else none

@[grind =] def encode : List UInt8 → List Char
  | [] => []
  | [a] => [symbol (a.toNat / 4), symbol (a.toNat % 4 * 16)]
  | [a, b] => [symbol (a.toNat / 4), symbol (a.toNat % 4 * 16 + b.toNat / 16),
      symbol (b.toNat % 16 * 4)]
  | a :: b :: c :: rest => symbol (a.toNat / 4) :: symbol (a.toNat % 4 * 16 + b.toNat / 16) ::
      symbol (b.toNat % 16 * 4 + c.toNat / 64) :: symbol (c.toNat % 64) :: encode rest

/-- The reader, `quad` characters into a group of four, of which the bits `left` are still to be
written, with `pads` padding characters behind the last character. -/
@[grind =] def decodeFrom (quad left pads : Nat) : List Char → Option (List UInt8)
  | [] => if quad = 0 then some [] else none
  | c :: rest =>
    if c = '=' then
      if 2 ≤ quad ∧ 4 ≤ quad + (pads + 1) then some []
      else decodeFrom quad left (if 2 ≤ quad then pads + 1 else pads) rest
    else match sextet? c with
      | none => decodeFrom quad left pads rest
      | some bits => match quad with
        | 0 => decodeFrom 1 bits 0 rest
        | 1 => (decodeFrom 2 (bits % 16) 0 rest).map (UInt8.ofNat (4 * left + bits / 16) :: ·)
        | 2 => (decodeFrom 3 (bits % 4) 0 rest).map (UInt8.ofNat (16 * left + bits / 4) :: ·)
        | _ => (decodeFrom 0 0 0 rest).map (UInt8.ofNat (64 * left + bits) :: ·)

def padding (length : Nat) : List Char := List.replicate ((4 - length % 4) % 4) '='

def decode (text : List Char) : Option (List UInt8) :=
  decodeFrom 0 0 0 (text ++ padding text.length)

/-! ## Symbols -/

theorem sextet?_symbol {n : Nat} (h : n < 64) : sextet? (symbol n) = some n := by
  revert h
  revert n
  decide

theorem forall_symbol {P : Char → Prop} (h : ∀ n < 64, P (symbol n)) (n : Nat) : P (symbol n) := by
  by_cases hSmall : n < 64
  · exact h n hSmall
  · have hLast : symbol n = symbol 63 := by
      simp only [symbol, show ¬n < 26 by omega, show ¬n < 52 by omega, show ¬n < 62 by omega,
        show ¬n = 62 by omega, if_false]
      rfl
    rw [hLast]
    exact h 63 (by decide)

theorem symbol_ne_pad (n : Nat) : symbol n ≠ '=' :=
  forall_symbol (P := (· ≠ '=')) (by decide) n

theorem mem_encode {c : Char} {bytes : List UInt8} (h : c ∈ encode bytes) : ∃ n, c = symbol n := by
  induction bytes using encode.induct with
  | case1 => cases h
  | case2 a =>
    rw [encode, List.mem_cons, List.mem_singleton] at h
    rcases h with h | h
    · exact ⟨_, h⟩
    · exact ⟨_, h⟩
  | case3 a b =>
    simp only [encode, List.mem_cons, List.not_mem_nil, or_false] at h
    rcases h with h | h | h
    · exact ⟨_, h⟩
    · exact ⟨_, h⟩
    · exact ⟨_, h⟩
  | case4 a b c rest ih =>
    simp only [encode, List.mem_cons] at h
    rcases h with h | h | h | h | h
    · exact ⟨_, h⟩
    · exact ⟨_, h⟩
    · exact ⟨_, h⟩
    · exact ⟨_, h⟩
    · exact ih h

/-! ## Reading back -/

variable {n left pads : Nat} {rest : List Char}

theorem decodeFrom_zero (h : n < 64) :
    decodeFrom 0 left pads (symbol n :: rest) = decodeFrom 1 n 0 rest := by
  rw [decodeFrom, if_neg (symbol_ne_pad n), sextet?_symbol h]
  rfl

theorem decodeFrom_one (h : n < 64) : decodeFrom 1 left pads (symbol n :: rest) =
    (decodeFrom 2 (n % 16) 0 rest).map (UInt8.ofNat (4 * left + n / 16) :: ·) := by
  rw [decodeFrom, if_neg (symbol_ne_pad n), sextet?_symbol h]
  rfl

theorem decodeFrom_two (h : n < 64) : decodeFrom 2 left pads (symbol n :: rest) =
    (decodeFrom 3 (n % 4) 0 rest).map (UInt8.ofNat (16 * left + n / 4) :: ·) := by
  rw [decodeFrom, if_neg (symbol_ne_pad n), sextet?_symbol h]
  rfl

theorem decodeFrom_three (h : n < 64) : decodeFrom 3 left pads (symbol n :: rest) =
    (decodeFrom 0 0 0 rest).map (UInt8.ofNat (64 * left + n) :: ·) := by
  rw [decodeFrom, if_neg (symbol_ne_pad n), sextet?_symbol h]
  rfl

theorem byte_eq {b : UInt8} {n : Nat} (h : n = b.toNat) : UInt8.ofNat n = b := by
  rw [h, UInt8.ofNat_toNat]

theorem decodeFrom_encode (bytes : List UInt8) :
    decodeFrom 0 0 0 (encode bytes ++ padding (encode bytes).length) = some bytes := by
  induction bytes using encode.induct with
  | case1 => rfl
  | case2 a =>
    have ha : a.toNat < 256 := a.toNat_lt
    have hPad : padding (encode [a]).length = ['=', '='] := rfl
    rw [hPad, encode, List.cons_append, List.cons_append, decodeFrom_zero (by omega),
      decodeFrom_one (by omega), byte_eq (b := a) (by omega)]
    rfl
  | case3 a b =>
    have ha : a.toNat < 256 := a.toNat_lt
    have hb : b.toNat < 256 := b.toNat_lt
    have hPad : padding (encode [a, b]).length = ['='] := rfl
    rw [hPad, encode, List.cons_append, List.cons_append, List.cons_append,
      decodeFrom_zero (by omega), decodeFrom_one (by omega), decodeFrom_two (by omega),
      byte_eq (b := a) (by omega), byte_eq (b := b) (by omega)]
    rfl
  | case4 a b c rest ih =>
    have ha : a.toNat < 256 := a.toNat_lt
    have hb : b.toNat < 256 := b.toNat_lt
    have hc : c.toNat < 256 := c.toNat_lt
    have hPad : padding (encode (a :: b :: c :: rest)).length =
        padding (encode rest).length := by
      rw [encode]
      simp only [padding, List.length_cons]
      congr 2
      omega
    rw [hPad, encode, List.cons_append, List.cons_append, List.cons_append, List.cons_append,
      decodeFrom_zero (by omega), decodeFrom_one (by omega), decodeFrom_two (by omega),
      decodeFrom_three (by omega), ih, byte_eq (b := a) (by omega),
      byte_eq (b := b) (by omega), byte_eq (b := c) (by omega)]
    rfl

theorem decode_encode (bytes : List UInt8) : decode (encode bytes) = some bytes :=
  decodeFrom_encode bytes

end Base64
