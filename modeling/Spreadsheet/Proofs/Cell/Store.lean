import Mathlib.Data.List.Basic
import Spreadsheet.Cell.Store
import Spreadsheet.Proofs.Grid.Maps

namespace Spreadsheet

theorem openedAt_of_lt {k i : Nat} (front : i < k) : openedAt k i = i := if_pos front

theorem openedAt_of_le {k i : Nat} (behind : k ≤ i) : openedAt k i = i + 1 := if_neg (Nat.not_lt.2 behind)

theorem openedAt_ne (k i : Nat) : openedAt k i ≠ k := by
  unfold openedAt
  split <;> omega

theorem closedAt_eq_some_iff {k i j : Nat} :
    closedAt k i = some j ↔ (i < k ∧ i = j) ∨ (k < i ∧ i - 1 = j) := by
  unfold closedAt
  split
  · rw [Option.some.injEq]
    omega
  · split
    · simp only [reduceCtorEq, false_iff]
      omega
    · rw [Option.some.injEq]
      omega

theorem closedAt_openedAt (k i : Nat) : closedAt k (openedAt k i) = some i := by
  rw [closedAt_eq_some_iff]
  unfold openedAt
  split <;> omega

namespace CellStore
variable {s : CellStore} {f g : Position → Option Position} {p q : Position} {c : Cell} {axis : Axis} {k : Nat}

theorem relocate_at (h : (s.relocate f)[q]? = some c) : ∃ p, s[p]? = some c ∧ f p = some q := by
  have mem := OrderedMap.mem_of_ofList_at h
  obtain ⟨⟨p, c'⟩, stored, moved⟩ := List.mem_filterMap.1 mem
  obtain ⟨q', target, same⟩ := Option.map_eq_some_iff.1 moved
  cases same
  exact ⟨p, Std.ExtTreeMap.mem_toList_iff_getElem?_eq_some.1 stored, target⟩

theorem relocate_at_iff (injective : ∀ a b q, f a = some q → f b = some q → a = b) :
    (s.relocate f)[q]? = some c ↔ ∃ p, s[p]? = some c ∧ f p = some q := by
  constructor
  · exact relocate_at
  · rintro ⟨p, stored, moved⟩
    have listed : (p, c) ∈ s.toList := Std.ExtTreeMap.mem_toList_iff_getElem?_eq_some.2 stored
    refine OrderedMap.ofList_at_of_mem ?_
      (List.mem_filterMap.2 ⟨(p, c), listed, Option.map_eq_some_iff.2 ⟨q, moved, rfl⟩⟩)
    refine List.Pairwise.filterMap _ ?_ Std.ExtTreeMap.distinct_keys_toList
    rintro ⟨a, _⟩ ⟨b, _⟩ apart x first y second same
    obtain ⟨q, movedA, rfl⟩ := Option.map_eq_some_iff.1 first
    obtain ⟨q', movedB, rfl⟩ := Option.map_eq_some_iff.1 second
    obtain rfl : q = q' := same
    exact apart (OrderedMap.compare_eq_eq.2 (injective a b q movedA movedB))

theorem relocate_congr (same : ∀ (p : Position) (c : Cell), s[p]? = some c → f p = g p) :
    s.relocate f = s.relocate g := by
  unfold relocate
  congr 1
  refine List.filterMap_congr fun ⟨p, c⟩ mem => ?_
  exact congrArg (Option.map fun q => (q, c))
    (same p c (Std.ExtTreeMap.mem_toList_iff_getElem?_eq_some.1 mem))

theorem line_eq_nil_iff : s.line axis k = [] ↔
    ∀ (p : Position) (c : Cell), s[p]? = some c → p.along axis ≠ k := by
  unfold line
  rw [List.filter_eq_nil_iff]
  constructor
  · intro none p c cell same
    exact none (p, c) (Std.ExtTreeMap.mem_toList_iff_getElem?_eq_some.2 cell) (by simp [same])
  · rintro none ⟨p, c⟩ mem
    simpa using none p c (Std.ExtTreeMap.mem_toList_iff_getElem?_eq_some.1 mem)

theorem last_extend (b : Bounds) (p : Position) (axis : Axis) :
    (b.extend p).last axis = max (b.last axis) (p.along axis) := by
  cases axis <;> rfl

theorem last_foldl_lt (ps : List Position) (b : Bounds) (axis : Axis) (n : Nat) :
    (ps.foldl Bounds.extend b).last axis < n ↔
      b.last axis < n ∧ ∀ p ∈ ps, p.along axis < n := by
  induction ps generalizing b with
  | nil => simp
  | cons p ps ih => rw [List.foldl_cons, ih, last_extend, Nat.max_lt, List.forall_mem_cons, and_assoc]

theorem last_lt_iff {b : Bounds} (bounds : s.bounds = some b) (axis : Axis) (n : Nat) :
    b.last axis < n ↔ ∀ (p : Position) (c : Cell), s[p]? = some c → p.along axis < n := by
  have listed : b.last axis < n ↔ ∀ p ∈ s.keys, p.along axis < n := by
    unfold CellStore.bounds Bounds.ofList at bounds
    cases keys : s.keys with
    | nil =>
        rw [keys] at bounds
        cases bounds
    | cons first rest =>
        rw [keys] at bounds
        cases bounds
        rw [last_foldl_lt, List.forall_mem_cons]
        cases axis <;> rfl
  rw [listed]
  constructor
  · exact fun before p c stored => before p ((PositionMap.mem_keys_iff _ _).2 ⟨c, stored⟩)
  · intro before p mem
    obtain ⟨c, stored⟩ := (PositionMap.mem_keys_iff _ _).1 mem
    exact before p c stored

theorem bounds_last (h : s[p]? = some c) (axis : Axis) :
    ∃ b, s.bounds = some b ∧ p.along axis ≤ b.last axis := by
  cases bounds : s.bounds with
  | none =>
      have mem : p ∈ s.keys := (PositionMap.mem_keys_iff _ _).2 ⟨c, h⟩
      unfold CellStore.bounds Bounds.ofList at bounds
      cases keys : s.keys with
      | nil =>
          rw [keys] at mem
          cases mem
      | cons first rest =>
          rw [keys] at bounds
          cases bounds
  | some b =>
      have inside := (last_lt_iff bounds axis _).1 (Nat.lt_succ_self _) p c h
      exact ⟨b, rfl, Nat.le_of_lt_succ inside⟩

end CellStore

end Spreadsheet
