import Mathlib.Data.List.DropRight
import Mathlib.Tactic.Common

/-!
Texts without the white space around them.
-/

namespace SchoolOs

/-- `str.isspace` of a character. -/
def isSpace (c : Char) : Bool :=
  let n := c.toNat
  (9 ≤ n && n ≤ 13) || (28 ≤ n && n ≤ 32) || n = 0x85 || n = 0xA0 || n = 0x1680 ||
    (0x2000 ≤ n && n ≤ 0x200A) || n = 0x2028 || n = 0x2029 || n = 0x202F || n = 0x205F ||
    n = 0x3000

/-- `str.strip`. -/
def strip (s : String) : String :=
  String.ofList ((s.toList.dropWhile isSpace).rdropWhile isSpace)

example : [" Ada\u00a0", "\t\r\n", "Ada Lovelace", "\u200b"].map strip =
    ["Ada", "", "Ada Lovelace", "\u200b"] := by decide +kernel

lemma strip_eq_self {s : String} (h : ∀ c ∈ s.toList, isSpace c = false) : strip s = s := by
  have hleft : s.toList.dropWhile isSpace = s.toList := by
    refine List.dropWhile_eq_self_iff.mpr fun hpos hspace => ?_
    rw [h _ (List.getElem_mem hpos)] at hspace
    cases hspace
  have hright : s.toList.rdropWhile isSpace = s.toList := by
    refine List.rdropWhile_eq_self_iff.mpr fun hne hspace => ?_
    rw [h _ (List.getLast_mem hne)] at hspace
    cases hspace
  rw [strip, hleft, hright, String.ofList_toList]

@[simp] lemma strip_empty : strip "" = "" := strip_eq_self (by simp)

/-- There is no other character than white space. -/
def Blank (s : String) : Prop := ∀ c ∈ s.toList, isSpace c = true

lemma strip_eq_empty {s : String} : strip s = "" ↔ Blank s := by
  rw [strip, String.ofList_eq_empty_iff, List.rdropWhile_eq_nil_iff]
  constructor
  · intro h c hc
    rw [← List.takeWhile_append_dropWhile (p := isSpace) (l := s.toList), List.mem_append] at hc
    rcases hc with htake | hdrop
    · exact List.mem_takeWhile_imp htake
    · exact h c hdrop
  · intro h c hc
    exact h c ((List.dropWhile_sublist _).mem hc)

end SchoolOs
