import Mathlib.Data.Prod.Lex
import Mathlib.Data.String.Basic
import SchoolOs.Numerals
import SchoolOs.Ulid

/-!
The text of a key is a numeral: it reads back as its timestamp and randomness, and texts are
ordered, by character code, as timestamps are, and then as randomness is.
-/

namespace SchoolOs

open Numerals

/-- The digit that a number below 32 has. -/
def ulidDigit (d : ℕ) : Char := alphabet.getD d '0'

/-- The number that a text of the alphabet stands for. -/
def ulidValue (text : String) : ℕ := horner 32 (fun c => alphabet.idxOf c) text.toList

lemma ulidDigit_eq {d : ℕ} (h : d < alphabet.length) : ulidDigit d = alphabet[d] :=
  List.getD_eq_getElem _ _ h

lemma idxOf_ulidDigit {d : ℕ} (h : d < 32) : alphabet.idxOf (ulidDigit d) = d := by
  have hnodup : alphabet.Nodup := by decide
  have hlength : d < alphabet.length := h
  rw [ulidDigit_eq hlength]
  exact hnodup.idxOf_getElem d hlength

lemma ulidDigit_strictMonoOn : StrictMonoOn ulidDigit (Set.Iio 32) := by
  have hsorted : alphabet.Pairwise (· < ·) := by decide
  intro i hi j hj h
  have hi' : i < alphabet.length := hi
  have hj' : j < alphabet.length := hj
  rw [ulidDigit_eq hi', ulidDigit_eq hj']
  exact List.pairwise_iff_getElem.mp hsorted i j hi' hj' h

lemma ulidChars_eq (n value : ℕ) : ulidChars n value = lowDigits 32 ulidDigit n value := by
  induction n generalizing value with
  | zero => rfl
  | succ n ih => rw [ulidChars, lowDigits, ih]; rfl

lemma Ulid.toList_text (u : Ulid) : u.text.toList = numeral 32 ulidDigit 26 u.value := by
  rw [Ulid.text, String.toList_ofList, ulidChars_eq, numeral]

lemma Ulid.value_lt (u : Ulid) : u.value < 32 ^ 26 := by
  have hroom : (2 : ℕ) ^ 128 ≤ 32 ^ 26 := by decide
  exact u.lt.trans_le hroom

lemma Ulid.ulidValue_text (u : Ulid) : ulidValue u.text = u.value := by
  rw [ulidValue, Ulid.toList_text, horner_numeral (by decide) fun d hd => idxOf_ulidDigit hd]
  exact Nat.mod_eq_of_lt u.value_lt

lemma Ulid.text_lt {u v : Ulid} : u.text < v.text ↔ u.value < v.value := by
  rw [String.lt_iff_toList_lt, Ulid.toList_text, Ulid.toList_text]
  exact (numeral_strictMonoOn (by decide) ulidDigit_strictMonoOn 26).lt_iff_lt u.value_lt v.value_lt

/-! ### Timestamp and randomness -/

variable {t t' r r' : ℕ}

lemma genUlid_value (ht : t < 2 ^ 48) (hr : r < 2 ^ 80) :
    (genUlid t r).value = t * 2 ^ 80 + r := by
  simp only [genUlid, Ulid.ofNat]
  omega

lemma genUlid_text (ht : t < 2 ^ 48) (hr : r < 2 ^ 80) :
    (genUlid t r).text = String.ofList (ulidChars 26 (t <<< 80 ||| r)).reverse := by
  rw [← Nat.shiftLeft_add_eq_or_of_lt hr, Nat.shiftLeft_eq, ← genUlid_value ht hr, Ulid.text]

lemma timestamp_lex (hr : r < 2 ^ 80) (hr' : r' < 2 ^ 80) :
    t * 2 ^ 80 + r < t' * 2 ^ 80 + r' ↔ toLex (t, r) < toLex (t', r') := by
  rw [Prod.Lex.toLex_lt_toLex]
  omega

/-- **The text of a key is an order isomorphism**: 26 characters of the alphabet that stand for the
timestamp followed by the randomness, different for different keys, and in their order. -/
theorem ulid_order_isomorphism (ht : t < 2 ^ 48) (hr : r < 2 ^ 80) (ht' : t' < 2 ^ 48)
    (hr' : r' < 2 ^ 80) :
    (genUlid t r).text = String.ofList (ulidChars 26 (t <<< 80 ||| r)).reverse ∧
      (genUlid t r).text.toList.length = 26 ∧ (∀ c ∈ (genUlid t r).text.toList, c ∈ alphabet) ∧
      ulidValue (genUlid t r).text = t * 2 ^ 80 + r ∧
      ((genUlid t r).text = (genUlid t' r').text ↔ t = t' ∧ r = r') ∧
      ((genUlid t r).text < (genUlid t' r').text ↔ toLex (t, r) < toLex (t', r')) ∧
      (t < t' → (genUlid t r).text < (genUlid t' r').text) := by
  have hlt : (genUlid t r).text < (genUlid t' r').text ↔ toLex (t, r) < toLex (t', r') := by
    rw [Ulid.text_lt, genUlid_value ht hr, genUlid_value ht' hr', timestamp_lex hr hr']
  have hvalue : ulidValue (genUlid t r).text = t * 2 ^ 80 + r := by
    rw [Ulid.ulidValue_text, genUlid_value ht hr]
  refine ⟨genUlid_text ht hr, Ulid.text_length _, fun c => Ulid.mem_text, hvalue,
    ⟨fun h => ?_, ?_⟩, hlt, fun h => ?_⟩
  · have heq := hvalue.symm.trans (congrArg ulidValue h)
    rw [Ulid.ulidValue_text, genUlid_value ht' hr'] at heq
    omega
  · rintro ⟨rfl, rfl⟩
    rfl
  · exact hlt.mpr (Prod.Lex.toLex_lt_toLex.mpr (.inl h))

/-- Of two keys the one of the later millisecond comes after. -/
theorem ulid_order_isomorphism_first : (genUlid 1 5).text < (genUlid 2 3).text := by
  have h5 : 5 < 2 ^ 80 := by decide
  have h3 : 3 < 2 ^ 80 := by decide
  have hiso := ulid_order_isomorphism (by decide : 1 < 2 ^ 48) h5 (by decide : 2 < 2 ^ 48) h3
  exact hiso.2.2.2.2.2.2 (by decide)

end SchoolOs
