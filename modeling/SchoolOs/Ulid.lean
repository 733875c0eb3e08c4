import Mathlib.Algebra.Group.Nat.Defs
import Mathlib.Data.List.GetD
import Mathlib.Data.List.Nodup
import Mathlib.Tactic.Common

/-!
Primary keys: 26 characters of Crockford base 32, most significant first, for a 48-bit
millisecond timestamp followed by 80 random bits.
-/

namespace SchoolOs

/-- Crockford base 32 (no I, L, O, U). -/
def alphabet : List Char :=
  ['0', '1', '2', '3', '4', '5', '6', '7', '8', '9', 'A', 'B', 'C', 'D', 'E', 'F', 'G', 'H',
    'J', 'K', 'M', 'N', 'P', 'Q', 'R', 'S', 'T', 'V', 'W', 'X', 'Y', 'Z']

/-- The loop of `gen_ulid`: the last `n` digits of `value`, least significant first. -/
def ulidChars : ℕ → ℕ → List Char
  | 0, _ => []
  | n + 1, value => alphabet.getD (value % 32) '0' :: ulidChars n (value / 32)

lemma ulidChars_length (n value : ℕ) : (ulidChars n value).length = n := by
  induction n generalizing value with
  | zero => rfl
  | succ n ih => simp [ulidChars, ih]

lemma mem_ulidChars {n value : ℕ} {c : Char} (h : c ∈ ulidChars n value) : c ∈ alphabet := by
  induction n generalizing value with
  | zero => cases h
  | succ n ih =>
    rcases List.mem_cons.mp h with rfl | h
    · have hlt : value % 32 < alphabet.length := Nat.mod_lt _ (by decide)
      rw [List.getD_eq_getElem _ _ hlt]
      exact List.getElem_mem hlt
    · exact ih h

lemma alphabet_inj {i j : ℕ} (hi : i < 32) (hj : j < 32)
    (h : alphabet.getD i '0' = alphabet.getD j '0') : i = j := by
  have hn : alphabet.Nodup := by decide
  have hl : alphabet.length = 32 := rfl
  rw [List.getD_eq_getElem _ _ (by omega), List.getD_eq_getElem _ _ (by omega)] at h
  exact (hn.getElem_inj_iff).mp h

lemma ulidChars_inj (n : ℕ) {v w : ℕ} (hv : v < 32 ^ n) (hw : w < 32 ^ n)
    (h : ulidChars n v = ulidChars n w) : v = w := by
  induction n generalizing v w with
  | zero => simp at hv hw; omega
  | succ n ih =>
    simp only [ulidChars, List.cons.injEq] at h
    have h1 : v % 32 = w % 32 :=
      alphabet_inj (Nat.mod_lt _ (by decide)) (Nat.mod_lt _ (by decide)) h.1
    rw [Nat.pow_succ] at hv hw
    have h2 : v / 32 = w / 32 :=
      ih (Nat.div_lt_of_lt_mul (by omega)) (Nat.div_lt_of_lt_mul (by omega)) h.2
    omega

/-- A key `gen_ulid` can draw: timestamp and randomness in one 128-bit numeral. -/
structure Ulid where
  value : ℕ
  lt : value < 2 ^ 128
  deriving DecidableEq

/-- The key with the low 128 bits of a numeral. -/
def Ulid.ofNat (n : ℕ) : Ulid := ⟨n % 2 ^ 128, Nat.mod_lt _ (by decide)⟩

instance (n : ℕ) : OfNat Ulid n := ⟨Ulid.ofNat n⟩

def genUlid (timestamp randomness : ℕ) : Ulid :=
  .ofNat ((timestamp % 2 ^ 48) * 2 ^ 80 + randomness % 2 ^ 80)

/-- The string the column stores and `str` returns. -/
def Ulid.text (u : Ulid) : String := String.ofList (ulidChars 26 u.value).reverse

lemma Ulid.text_length (u : Ulid) : u.text.toList.length = 26 := by
  simp [Ulid.text, ulidChars_length]

lemma Ulid.length_text (u : Ulid) : u.text.length = 26 := by
  rw [← String.length_toList, u.text_length]

lemma Ulid.mem_text {u : Ulid} {c : Char} (h : c ∈ u.text.toList) : c ∈ alphabet := by
  simp only [Ulid.text, String.toList_ofList, List.mem_reverse] at h
  exact mem_ulidChars h

lemma Ulid.text_ne_empty (u : Ulid) : u.text ≠ "" := by
  intro h
  have := u.text_length
  rw [h] at this
  simp at this

@[simp] lemma Ulid.text_inj {u v : Ulid} : u.text = v.text ↔ u = v := by
  refine ⟨fun h => ?_, fun h => by rw [h]⟩
  have hc : (ulidChars 26 u.value).reverse = (ulidChars 26 v.value).reverse := by
    simpa only [Ulid.text, String.ofList_inj] using h
  have hpow : (2 : ℕ) ^ 128 ≤ 32 ^ 26 := by decide
  have hv : u.value = v.value :=
    ulidChars_inj 26 (Nat.lt_of_lt_of_le u.lt hpow) (Nat.lt_of_lt_of_le v.lt hpow)
      (List.reverse_injective hc)
  obtain ⟨x, hx⟩ := u
  obtain ⟨y, hy⟩ := v
  simp only at hv
  subst hv
  rfl

end SchoolOs
