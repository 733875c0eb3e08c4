import Mathlib.Logic.Function.Basic
import Mathlib.Logic.Relation
import Mathlib.Tactic.Common

/-!
Chains of pointers: what following a partial function leads to, which chains end, and what
redirecting one pointer does to them.
-/

namespace SchoolOs.Chains

variable {κ : Type*} (next : κ → Option κ)

/-- Following the pointers leads from one to the other. -/
def Leads : κ → κ → Prop := Relation.ReflTransGen fun a b => next a = some b

/-- Following the pointers comes to an end. -/
def Ends (a : κ) : Prop := ∃ b, Leads next a b ∧ next b = none

variable {next} {a b c : κ}

lemma Leads.refl (a : κ) : Leads next a a := Relation.ReflTransGen.refl

lemma Leads.head (hab : next a = some b) (hbc : Leads next b c) : Leads next a c :=
  Relation.ReflTransGen.head hab hbc

lemma leads_cases (h : Leads next a c) : a = c ∨ ∃ b, next a = some b ∧ Leads next b c :=
  (Relation.ReflTransGen.cases_head h).imp_right fun ⟨b, hab, hbc⟩ => ⟨b, hab, hbc⟩

lemma Ends.root (h : next a = none) : Ends next a := ⟨a, .refl a, h⟩

lemma Ends.head (hab : next a = some b) (h : Ends next b) : Ends next a := by
  obtain ⟨c, hbc, hc⟩ := h
  exact ⟨c, .head hab hbc, hc⟩

lemma not_ends_of_closed {S : κ → Prop} (hS : ∀ x, S x → ∃ y, next x = some y ∧ S y) (ha : S a) :
    ¬ Ends next a := by
  rintro ⟨b, hab, hb⟩
  have hSb : S b := by
    clear hb
    induction hab with
    | refl => exact ha
    | tail _ hstep ih =>
      obtain ⟨y, hy, hSy⟩ := hS _ ih
      rw [hstep] at hy
      exact Option.some.inj hy ▸ hSy
  obtain ⟨y, hy, _⟩ := hS b hSb
  rw [hb] at hy
  cases hy

section Redirect

variable [DecidableEq κ]

/-- A chain that does not lead to the redirected pointer is left as it was. -/
lemma Ends.away (hc : Ends next c) (h : ¬ Leads next c a) :
    Ends (Function.update next a (some b)) c := by
  obtain ⟨r, hcr, hr⟩ := hc
  induction hcr using Relation.ReflTransGen.head_induction_on with
  | refl =>
    have hne : r ≠ a := fun he => h (he ▸ .refl r)
    exact .root (by rw [Function.update_of_ne hne, hr])
  | @head x y hxy _ ih =>
    have hne : x ≠ a := fun he => h (he ▸ .refl x)
    have hy : ¬ Leads next y a := fun hya => h (.head hxy hya)
    exact .head (by rw [Function.update_of_ne hne, hxy]) (ih hy)

/-- **Redirecting a pointer**: all chains end afterwards exactly when the new target does not lead
back. -/
theorem ends_update (h : ∀ x, Ends next x) :
    (∀ x, Ends (Function.update next a (some b)) x) ↔ ¬ Leads next b a := by
  constructor
  · intro hall hba
    -- Between the target and the pointer every step stays between them.
    have hclosed : ∀ x, Leads next b x ∧ Leads next x a →
        ∃ y, Function.update next a (some b) x = some y ∧ Leads next b y ∧ Leads next y a := by
      rintro x ⟨hbx, hxa⟩
      by_cases hx : x = a
      · subst hx
        exact ⟨b, Function.update_self .., .refl b, hba⟩
      · rcases leads_cases hxa with he | ⟨y, hxy, hya⟩
        · exact absurd he hx
        · exact ⟨y, by rw [Function.update_of_ne hx, hxy], hbx.tail hxy, hya⟩
    exact not_ends_of_closed hclosed ⟨hba, .refl a⟩ (hall a)
  · intro hba x
    have hb : Ends (Function.update next a (some b)) b := (h b).away hba
    obtain ⟨r, hxr, hr⟩ := h x
    induction hxr using Relation.ReflTransGen.head_induction_on with
    | refl =>
      by_cases hra : r = a
      · subst hra
        exact .head (Function.update_self ..) hb
      · exact .root (by rw [Function.update_of_ne hra, hr])
    | @head x y hxy _ ih =>
      by_cases hxa : x = a
      · subst hxa
        exact .head (Function.update_self ..) hb
      · exact .head (by rw [Function.update_of_ne hxa, hxy]) ih

end Redirect

end SchoolOs.Chains
