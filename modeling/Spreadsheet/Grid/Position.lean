import Std.Data.ExtTreeMap
import Std.Data.ExtTreeSet

namespace Spreadsheet

def maxRows : Nat := 1048576

def maxColumns : Nat := 16384

def rowWordBound : Nat := UInt32.size

def columnWordBound : Nat := UInt16.size

structure Position where
  row : Nat
  column : Nat
deriving DecidableEq, Inhabited

namespace Position

instance : Ord Position := ⟨fun a b => (compare a.row b.row).then (compare a.column b.column)⟩

theorem compare_eq (a b : Position) :
    compare a b = (compare a.row b.row).then (compare a.column b.column) := rfl

theorem eq_of_compare_eq {a b : Position} (h : compare a b = .eq) : a = b := by
  rw [compare_eq, Ordering.then_eq_eq] at h
  cases a; cases b
  simpa using h

instance : Std.OrientedOrd Position where
  eq_swap {a b} := by
    rw [compare_eq, compare_eq, Ordering.swap_then, ← Std.OrientedCmp.eq_swap,
      ← Std.OrientedCmp.eq_swap]

instance : Std.TransOrd Position where
  isLE_trans {a b c} hab hbc := by
    rw [compare_eq] at *
    simp only [Ordering.isLE_then_iff_or, Nat.compare_eq_lt, Nat.compare_eq_eq, Nat.isLE_compare]
      at *
    omega

instance : Std.LawfulEqOrd Position where
  compare_self := Std.ReflCmp.compare_self
  eq_of_compare {_ _} := eq_of_compare_eq

theorem compare_eq_lt_iff {a b : Position} :
    compare a b = .lt ↔ a.row < b.row ∨ (a.row = b.row ∧ a.column < b.column) := by
  rw [compare_eq, Ordering.then_eq_lt, Nat.compare_eq_lt, Nat.compare_eq_eq, Nat.compare_eq_lt]

def InBounds (p : Position) : Prop := p.row < maxRows ∧ p.column < maxColumns

instance (p : Position) : Decidable p.InBounds := inferInstanceAs (Decidable (_ ∧ _))

end Position

abbrev PositionSet := Std.ExtTreeSet Position

abbrev PositionMap (α : Type) := Std.ExtTreeMap Position α

end Spreadsheet
