import Mathlib.Data.List.GetD
import Mathlib.Tactic.Common

/-!
Base 64 in the alphabet for URLs, with a reader that skips what is not of the alphabet and takes
both alphabets, and the round trip.
-/

namespace SchoolOs.Base64

def alphabet : List Char :=
  "ABCDEFGHIJKLMNOPQRSTUVWXYZabcdefghijklmnopqrstuvwxyz0123456789-_".toList

def symbol (n : ℕ) : Char := alphabet.getD n '='

/-- The value of a character, in either alphabet. -/
def value (c : Char) : Option ℕ :=
  let c := if c = '+' then '-' else if c = '/' then '_' else c
  if c ∈ alphabet then some (alphabet.idxOf c) else none

/-- Three bytes to four characters, the last group padded. -/
def encode : List UInt8 → List Char
  | [] => []
  | [a] => [symbol (a.toNat / 4), symbol (a.toNat % 4 * 16), '=', '=']
  | [a, b] => [symbol (a.toNat / 4), symbol (a.toNat % 4 * 16 + b.toNat / 16),
      symbol (b.toNat % 16 * 4), '=']
  | a :: b :: c :: bytes => symbol (a.toNat / 4) :: symbol (a.toNat % 4 * 16 + b.toNat / 16) ::
      symbol (b.toNat % 16 * 4 + c.toNat / 64) :: symbol (c.toNat % 64) :: encode bytes

/-- Where the reader stands: its place in a group of four, the bits left of the last character,
and the pads since. -/
structure Reader where
  place : ℕ
  bits : ℕ
  pads : ℕ

def Reader.start : Reader := ⟨0, 0, 0⟩

/-- The bytes of a text. A group that is padded to four ends it, and one that is not is an error. -/
def decodeFrom : Reader → List Char → Option (List UInt8)
  | s, [] => if s.place = 0 then some [] else none
  | s, c :: cs =>
    if c = '=' then
      if s.place < 2 then decodeFrom s cs
      else if 4 ≤ s.place + (s.pads + 1) then some []
      else decodeFrom { s with pads := s.pads + 1 } cs
    else
      match value c with
      | none => decodeFrom s cs
      | some v =>
        match s.place with
        | 0 => decodeFrom ⟨1, v, 0⟩ cs
        | 1 => (UInt8.ofNat (s.bits * 4 + v / 16) :: ·) <$> decodeFrom ⟨2, v % 16, 0⟩ cs
        | 2 => (UInt8.ofNat (s.bits * 16 + v / 4) :: ·) <$> decodeFrom ⟨3, v % 4, 0⟩ cs
        | _ => (UInt8.ofNat (s.bits * 64 + v) :: ·) <$> decodeFrom .start cs

def decode (text : List Char) : Option (List UInt8) := decodeFrom .start text

/-! ### The round trip -/

lemma value_symbol {n : ℕ} (h : n < 64) : value (symbol n) = some n := by
  have hall : ∀ m < 64, value (symbol m) = some m := by decide +kernel
  exact hall n h

lemma symbol_ne_pad {n : ℕ} (h : n < 64) : symbol n ≠ '=' := by
  have hall : ∀ m < 64, symbol m ≠ '=' := by decide +kernel
  exact hall n h

section Symbols

variable {n m p : ℕ} {a : UInt8} {cs : List Char}

/-- A symbol goes to the place in the group where the reader stands. -/
lemma decodeFrom_symbol (s : Reader) (h : n < 64) :
    decodeFrom s (symbol n :: cs) =
      match s.place with
      | 0 => decodeFrom ⟨1, n, 0⟩ cs
      | 1 => (UInt8.ofNat (s.bits * 4 + n / 16) :: ·) <$> decodeFrom ⟨2, n % 16, 0⟩ cs
      | 2 => (UInt8.ofNat (s.bits * 16 + n / 4) :: ·) <$> decodeFrom ⟨3, n % 4, 0⟩ cs
      | _ => (UInt8.ofNat (s.bits * 64 + n) :: ·) <$> decodeFrom .start cs := by
  rw [decodeFrom, if_neg (symbol_ne_pad h), value_symbol h]

/-- Reading the four symbols of a group, each with the byte it completes. -/
lemma decode_first (h : n < 64) :
    decodeFrom ⟨0, m, p⟩ (symbol n :: cs) = decodeFrom ⟨1, n, 0⟩ cs := by
  rw [decodeFrom_symbol _ h]
  rfl

lemma decode_second (h : n < 64) (ha : m * 4 + n / 16 = a.toNat) :
    decodeFrom ⟨1, m, p⟩ (symbol n :: cs) =
      (a :: ·) <$> decodeFrom ⟨2, n % 16, 0⟩ cs := by
  rw [decodeFrom_symbol _ h]
  dsimp only
  rw [ha, UInt8.ofNat_toNat]
  rfl

lemma decode_third (h : n < 64) (ha : m * 16 + n / 4 = a.toNat) :
    decodeFrom ⟨2, m, p⟩ (symbol n :: cs) = (a :: ·) <$> decodeFrom ⟨3, n % 4, 0⟩ cs := by
  rw [decodeFrom_symbol _ h]
  dsimp only
  rw [ha, UInt8.ofNat_toNat]
  rfl

lemma decode_fourth (h : n < 64) (ha : m * 64 + n = a.toNat) :
    decodeFrom ⟨3, m, p⟩ (symbol n :: cs) = (a :: ·) <$> decodeFrom .start cs := by
  rw [decodeFrom_symbol _ h]
  dsimp only
  rw [ha, UInt8.ofNat_toNat]
  rfl

end Symbols

/-- **What is encoded is read back.** -/
theorem decode_encode (bytes : List UInt8) : decode (encode bytes) = some bytes := by
  rw [decode]
  induction bytes using encode.induct with
  | case1 => rfl
  | case2 a =>
    have ha := a.toNat_lt
    rw [encode, Reader.start, decode_first (by omega), decode_second (a := a) (by omega) (by omega)]
    rfl
  | case3 a b =>
    have ha := a.toNat_lt
    have hb := b.toNat_lt
    rw [encode, Reader.start, decode_first (by omega), decode_second (a := a) (by omega) (by omega),
      decode_third (a := b) (by omega) (by omega)]
    rfl
  | case4 a b c bytes ih =>
    have ha := a.toNat_lt
    have hb := b.toNat_lt
    have hc := c.toNat_lt
    rw [encode, Reader.start, decode_first (by omega), decode_second (a := a) (by omega) (by omega),
      decode_third (a := b) (by omega) (by omega), decode_fourth (a := c) (by omega) (by omega), ih]
    rfl

lemma symbol_ascii {n : ℕ} (h : n < 64) : (symbol n).toNat < 128 := by
  have hall : ∀ m < 64, (symbol m).toNat < 128 := by decide +kernel
  exact hall n h

lemma encode_ascii (bytes : List UInt8) : ∀ c ∈ encode bytes, c.toNat < 128 := by
  have hpad : '='.toNat < 128 := by decide
  induction bytes using encode.induct with
  | case1 => simp [encode]
  | case2 a =>
    have ha := a.toNat_lt
    simp only [encode, List.forall_mem_cons]
    exact ⟨symbol_ascii (by omega), symbol_ascii (by omega), hpad, hpad, by simp⟩
  | case3 a b =>
    have ha := a.toNat_lt
    have hb := b.toNat_lt
    simp only [encode, List.forall_mem_cons]
    exact ⟨symbol_ascii (by omega), symbol_ascii (by omega), symbol_ascii (by omega), hpad,
      by simp⟩
  | case4 a b c bytes ih =>
    have ha := a.toNat_lt
    have hb := b.toNat_lt
    have hc := c.toNat_lt
    simp only [encode, List.forall_mem_cons]
    exact ⟨symbol_ascii (by omega), symbol_ascii (by omega), symbol_ascii (by omega),
      symbol_ascii (by omega), ih⟩

end SchoolOs.Base64
