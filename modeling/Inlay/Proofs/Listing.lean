import Inlay.Diagnostic
import Mathlib

/-!
# The order of a listing

Names and places are ordered, so that diagnostics are listed by file and place, each as often as it
was given (`Diagnostic.renderAll_lists`).
-/

namespace Inlay

open Std (OrientedCmp TransCmp)

theorem transCmp_comap (cmp : β → β → Ordering) [TransCmp cmp] (f : α → β) :
    TransCmp fun a b => cmp (f a) (f b) where
  eq_swap := OrientedCmp.eq_swap
  isLE_trans := TransCmp.isLE_trans

theorem transCmp_compareOfLessAndEq [LinearOrder α] :
    TransCmp fun a b : α => compareOfLessAndEq a b :=
  Std.TransOrd.compareOfLessAndEq_of_antisymm_of_trans_of_total_of_not_le le_antisymm le_trans
    le_total not_le

namespace Collation

instance (part : Element → Nat) : TransCmp (compareBy part) :=
  inferInstanceAs (TransCmp (compareOn _))

instance : TransCmp compareElements := inferInstanceAs (TransCmp (compareLex _ _))

instance : TransCmp Collation.compare := transCmp_comap compareElements elements

end Collation

namespace Diagnostic

variable {a b : Diagnostic}

instance : TransCmp comparePlace :=
  haveI := transCmp_compareOfLessAndEq (α := Rat)
  haveI := transCmp_comap (fun a b : Rat => compareOfLessAndEq a b) Diagnostic.line
  haveI := transCmp_comap (fun a b : Rat => compareOfLessAndEq a b) Diagnostic.column
  inferInstanceAs (TransCmp (compareLex (fun a b : Diagnostic => compareOfLessAndEq a.line b.line)
    fun a b => compareOfLessAndEq a.column b.column))

instance : TransCmp Diagnostic.compare :=
  haveI := transCmp_comap Collation.compare Diagnostic.file
  inferInstanceAs (TransCmp
    (compareLex (fun a b : Diagnostic => Collation.compare a.file b.file) comparePlace))

theorem le_trans (a b c : Diagnostic) (hab : a.le b) (hbc : b.le c) : a.le c :=
  (inferInstance : TransCmp Diagnostic.compare).isLE_trans hab hbc

theorem le_total (a b : Diagnostic) : (a.le b || b.le a) = true := by
  have hswap : b.compare a = (a.compare b).swap := OrientedCmp.eq_swap
  rw [le, le, hswap]
  cases a.compare b <;> rfl

theorem isLE_comparePlace :
    (comparePlace a b).isLE ↔ a.line < b.line ∨ a.line = b.line ∧ a.column ≤ b.column := by
  rcases lt_trichotomy a.line b.line with hlt | heq | hgt
  · simp [comparePlace, compareOfLessAndEq, hlt]
  · rcases lt_trichotomy a.column b.column with hlt | heq' | hgt
    · simp [comparePlace, compareOfLessAndEq, heq, hlt, hlt.le]
    · simp [comparePlace, compareOfLessAndEq, heq, heq']
    · simp [comparePlace, compareOfLessAndEq, heq, hgt.not_gt, hgt.ne', hgt.not_ge]
  · simp [comparePlace, compareOfLessAndEq, hgt.not_gt, hgt.ne']

theorem le_iff_of_file_eq (h : a.file = b.file) :
    a.le b ↔ a.line < b.line ∨ a.line = b.line ∧ a.column ≤ b.column := by
  have hfile : Collation.compare b.file b.file = .eq := Std.ReflCmp.compare_self
  rw [le, Diagnostic.compare, h, hfile]
  exact isLE_comparePlace

/-- Every diagnostic has a line of its own. They are sorted, those of one file by their places, and
keep their order where it is a sorted one. -/
theorem renderAll_lists (colours : Bool) (ds : List Diagnostic) :
    ∃ listed : List Diagnostic, listed.Perm ds ∧
      listed.Pairwise (fun a b => a.le b ∧ (a.file = b.file →
        a.line < b.line ∨ a.line = b.line ∧ a.column ≤ b.column)) ∧
      (∀ kept : List Diagnostic, kept.Sublist ds → kept.Pairwise (fun a b => a.le b) →
        kept.Sublist listed) ∧
      renderAll colours ds =
        Text.joinWith [CodeUnit.lineFeed] (listed.map (render colours)) := by
  refine ⟨ds.mergeSort le, List.mergeSort_perm ds le, ?_, fun kept hkept hsorted => ?_, rfl⟩
  · refine (List.pairwise_mergeSort le_trans le_total ds).imp fun {a b} hle => ?_
    exact ⟨hle, fun hfile => (le_iff_of_file_eq hfile).mp hle⟩
  · exact List.sublist_mergeSort le_trans le_total hsorted hkept

end Diagnostic

end Inlay
