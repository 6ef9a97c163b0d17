import Spreadsheet.Cell.RowStore
import Spreadsheet.Proofs.Cell.Store
import Spreadsheet.Proofs.Data.Maps
import Spreadsheet.Proofs.Data.Outcome
import Spreadsheet.Proofs.Grid.Axes
import Spreadsheet.Proofs.Grid.InWords

namespace Spreadsheet

namespace LineEdit

def shiftIndex : LineEdit → Nat → Option Nat
  | insert _ k, i => some (openedAt k i)
  | delete _ k, i => closedAt k i

def shift (edit : LineEdit) (p : Position) : Option Position :=
  (edit.shiftIndex (p.along edit.axis)).map (p.withAlong edit.axis)

theorem shift_iff {edit : LineEdit} {p q : Position} :
    edit.shift p = some q ↔ edit.shiftIndex (p.along edit.axis) = some (q.along edit.axis) ∧
      q.along edit.axis.other = p.along edit.axis.other := by
  unfold shift
  rw [Option.map_eq_some_iff]
  constructor
  · rintro ⟨i, goes, rfl⟩
    rw [Position.withAlong_along]
    exact ⟨goes, Position.withAlong_other ..⟩
  · rintro ⟨goes, across⟩
    exact ⟨_, goes, (Position.eq_withAlong_iff.2 ⟨rfl, across⟩).symm⟩

theorem shiftIndex_injective {edit : LineEdit} {i j n : Nat} (hi : edit.shiftIndex i = some n)
    (hj : edit.shiftIndex j = some n) : i = j := by
  cases edit with
  | insert axis k =>
      have back := congrArg (·.bind (closedAt k)) (hi.trans hj.symm)
      simpa only [shiftIndex, Option.bind_some, closedAt_openedAt, Option.some.injEq] using back
  | delete axis k =>
      rw [shiftIndex, closedAt_eq_some_iff] at hi hj
      omega

theorem shift_injective {edit : LineEdit} {p p' q : Position} (goes : edit.shift p = some q)
    (goes' : edit.shift p' = some q) : p = p' := by
  obtain ⟨line, across⟩ := shift_iff.1 goes
  obtain ⟨line', across'⟩ := shift_iff.1 goes'
  exact Position.ext_along edit.axis (shiftIndex_injective line line') (across.symm.trans across')

end LineEdit

namespace LineMap
variable {α β : Type} {m : LineMap α} {bound k : Nat}

theorem exists_of_ne_empty (kept : m ≠ ∅) : ∃ (i : Nat) (a : α), m[i]? = some a := by
  by_contra none
  refine kept (Std.ExtTreeMap.ext_getElem? fun i => ?_)
  rw [Std.ExtTreeMap.getElem?_empty, Option.eq_none_iff_forall_ne_some]
  exact fun a stands => none ⟨i, a, stands⟩

theorem ne_empty_of_some {i : Nat} {a : α} (stands : m[i]? = some a) : m ≠ ∅ := by
  rintro rfl
  rw [Std.ExtTreeMap.getElem?_empty] at stands
  cases stands

theorem ne_empty_of_filter {row : Option (LineMap α)} (kept : row.filter (fun m => !m.isEmpty) = some m) :
    m ≠ ∅ := by
  rw [ne_eq, ← Std.ExtTreeMap.isEmpty_iff]
  simpa using (Option.filter_eq_some_iff.1 kept).2

theorem filter_bind (row : Option (LineMap α)) (j : Nat) :
    ((row.filter fun m => !m.isEmpty).bind fun m => m[j]?) = row.bind fun m => m[j]? := by
  cases row with
  | none => rfl
  | some m =>
      rw [Option.filter_some]
      by_cases empty : m.isEmpty = true
      · obtain rfl := Std.ExtTreeMap.isEmpty_iff.1 empty
        rfl
      · rw [if_pos (by simpa using empty)]

theorem splitAt_front {i : Nat} {a : α} :
    (m.splitAt k).1[i]? = some a ↔ i < k ∧ m[i]? = some a := by
  rw [splitAt, Std.ExtTreeMap.getElem?_filter', Option.filter_eq_some_iff, decide_eq_true_eq, and_comm]

theorem splitAt_back {i : Nat} {a : α} :
    (m.splitAt k).2[i]? = some a ↔ k ≤ i ∧ m[i]? = some a := by
  rw [splitAt, Std.ExtTreeMap.getElem?_filter', Option.filter_eq_some_iff, decide_eq_true_eq, and_comm]

/-- Nothing is lost where every line goes to a place of its own that is free. -/
theorem refill_at (kept moved : LineMap α) {f : Nat → Option Nat} {g : Nat → Nat}
    (goes : ∀ i a, moved[i]? = some a → f i = some (g i))
    (apart : ∀ i a j b, moved[i]? = some a → moved[j]? = some b → g i = g j → i = j)
    (free : ∀ i a j b, moved[i]? = some a → kept[j]? = some b → g i ≠ j) :
    ∃ m', kept.refill moved f = some m' ∧
      ∀ j a, m'[j]? = some a ↔ kept[j]? = some a ∨ ∃ i, moved[i]? = some a ∧ g i = j := by
  let entries := moved.toList.map fun e => (g e.1, e.2)
  have listed : ∀ j a, (j, a) ∈ entries ↔ ∃ i, moved[i]? = some a ∧ g i = j := by
    intro j a
    constructor
    · intro mem
      obtain ⟨⟨i, _⟩, stands, same⟩ := List.mem_map.1 mem
      obtain ⟨rfl, rfl⟩ := Prod.mk.inj same
      exact ⟨i, OrderedMap.mem_toList_iff.1 stands, rfl⟩
    · rintro ⟨i, stands, rfl⟩
      exact List.mem_map.2 ⟨(i, a), OrderedMap.mem_toList_iff.2 stands, rfl⟩
  have distinct : entries.Pairwise fun a b => a.1 ≠ b.1 := by
    refine List.pairwise_map.2 ((OrderedMap.distinct_toList moved).imp_of_mem ?_)
    rintro ⟨i, a⟩ ⟨j, b⟩ first second other same
    exact other (apart i a j b (OrderedMap.mem_toList_iff.1 first)
      (OrderedMap.mem_toList_iff.1 second) same)
  refine ⟨kept.insertMany entries, ?_, fun j a => ?_⟩
  · unfold refill
    rw [mapM_of_some (g := fun e => (g e.1, e.2))]
    · rfl
    · rintro ⟨i, a⟩ mem
      dsimp only
      rw [goes i a (OrderedMap.mem_toList_iff.1 mem)]
      rfl
  · constructor
    · intro found
      by_cases new : ∃ b, (j, b) ∈ entries
      · obtain ⟨b, mem⟩ := new
        rw [OrderedMap.insertMany_at_of_mem kept distinct mem] at found
        obtain rfl := Option.some.inj found
        exact .inr ((listed j b).1 mem)
      · rw [OrderedMap.insertMany_at_of_absent kept (not_exists.1 new)] at found
        exact .inl found
    · rintro (stands | comes)
      · rw [OrderedMap.insertMany_at_of_absent kept fun b mem => ?_]
        · exact stands
        · obtain ⟨i, stands', same⟩ := (listed j b).1 mem
          exact free i b j a stands' stands same
      · exact OrderedMap.insertMany_at_of_mem kept distinct ((listed j a).2 comes)

def HasRoom (m : LineMap α) (bound k : Nat) : Prop := ∀ i a, m[i]? = some a → k ≤ i → i + 1 < bound

theorem openAt_at (room : m.HasRoom bound k) :
    ∃ m', m.openAt bound k = some m' ∧
      ∀ j a, m'[j]? = some a ↔ ∃ i, m[i]? = some a ∧ openedAt k i = j := by
  obtain ⟨m', opened, at'⟩ := refill_at (m.splitAt k).1 (m.splitAt k).2
    (f := fun i => wordSum bound i 1) (g := (· + 1))
    (fun i a back => wordSum_of_lt (room i a (splitAt_back.1 back).2 (splitAt_back.1 back).1))
    (fun i a j b _ _ same => Nat.succ.inj same)
    (fun i a j b back front => by
      have := (splitAt_back.1 back).1
      have := (splitAt_front.1 front).1
      omega)
  refine ⟨m', opened, fun j a => ?_⟩
  simp only [at', splitAt_front, splitAt_back]
  constructor
  · rintro (⟨front, stands⟩ | ⟨i, ⟨behind, stands⟩, rfl⟩)
    · exact ⟨j, stands, openedAt_of_lt front⟩
    · exact ⟨i, stands, openedAt_of_le behind⟩
  · rintro ⟨i, stands, rfl⟩
    by_cases front : i < k
    · rw [openedAt_of_lt front]
      exact .inl ⟨front, stands⟩
    · have behind := Nat.not_lt.1 front
      exact .inr ⟨i, ⟨behind, stands⟩, (openedAt_of_le behind).symm⟩

theorem hasRoom_of_openAt {m' : LineMap α} (opened : m.openAt bound k = some m') : m.HasRoom bound k := by
  intro i a stands behind
  obtain ⟨entries, all, _⟩ := Option.bind_eq_some_iff.1 opened
  obtain ⟨entry, moves⟩ := exists_of_mapM_some all (i, a)
    (OrderedMap.mem_toList_iff.2 (splitAt_back.2 ⟨behind, stands⟩))
  obtain ⟨j, sum, _⟩ := Option.bind_eq_some_iff.1 moves
  exact (wordSum_eq_some.1 sum).1

theorem closeAt_at (m : LineMap α) (k : Nat) :
    ∃ m', m.closeAt k = some (m', m[k]?) ∧
      ∀ j a, m'[j]? = some a ↔ ∃ i, m[i]? = some a ∧ closedAt k i = some j := by
  have back : ∀ {i a}, ((m.splitAt k).2.erase k)[i]? = some a ↔ k < i ∧ m[i]? = some a := by
    intro i a
    rw [OrderedMap.erase_at]
    split
    · simp only [reduceCtorEq, false_iff]
      omega
    · rw [splitAt_back]
      exact and_congr_left fun _ => by omega
  obtain ⟨m', closed, at'⟩ := refill_at (m.splitAt k).1 ((m.splitAt k).2.erase k)
    (f := fun i => wordDifference i 1) (g := (· - 1))
    (fun i a behind => wordDifference_of_le (by have := (back.1 behind).1; omega))
    (fun i a j b behind behind' same => by
      have := (back.1 behind).1
      have := (back.1 behind').1
      omega)
    (fun i a j b behind front => by
      have := (back.1 behind).1
      have := (splitAt_front.1 front).1
      omega)
  refine ⟨m', ?_, fun j a => ?_⟩
  · have line : (m.splitAt k).2[k]? = m[k]? := by
      refine Option.ext fun a => ?_
      rw [splitAt_back, and_iff_right (Nat.le_refl k)]
    unfold closeAt
    dsimp only
    rw [closed, line]
    rfl
  · simp only [at', splitAt_front, back, closedAt_eq_some_iff]
    constructor
    · rintro (⟨front, stands⟩ | ⟨i, ⟨behind, stands⟩, moves⟩)
      · exact ⟨j, stands, .inl ⟨front, rfl⟩⟩
      · exact ⟨i, stands, .inr ⟨behind, moves⟩⟩
    · rintro ⟨i, stands, ⟨front, rfl⟩ | ⟨behind, moves⟩⟩
      · exact .inl ⟨front, stands⟩
      · exact .inr ⟨i, ⟨behind, stands⟩, moves⟩

theorem mapInWords_at [Inhabited β] {f : α → Option β}
    (total : ∀ (i : Nat) a, m[i]? = some a → ∃ b, f a = some b) :
    ∃ m', m.mapInWords f = some m' ∧ ∀ i : Nat, m'[i]? = m[i]?.bind f := by
  have value : ∀ (i : Nat) a, m[i]? = some a → f a = some ((f a).getD default) := by
    intro i a stands
    obtain ⟨b, same⟩ := total i a stands
    rw [same]
    rfl
  have listed : (m.map fun _ a => (f a).getD default).toList =
      m.toList.map fun e => (e.1, (f e.2).getD default) := Std.ExtTreeMap.toList_map
  refine ⟨m.map fun _ a => (f a).getD default, ?_, fun i => ?_⟩
  · unfold mapInWords
    rw [mapM_of_some (g := fun e => (e.1, (f e.2).getD default)), ← listed]
    · exact congrArg some (OrderedMap.ofList_toList _)
    · rintro ⟨i, a⟩ mem
      dsimp only
      rw [value i a (OrderedMap.mem_toList_iff.1 mem)]
      rfl
  · rw [Std.ExtTreeMap.getElem?_map]
    cases stands : m[i]? with
    | none => rfl
    | some a => exact (value i a stands).symm

theorem exists_of_mapInWords {f : α → Option β} {m' : LineMap β} (mapped : m.mapInWords f = some m')
    {i : Nat} {a : α} (stands : m[i]? = some a) : ∃ b, f a = some b := by
  obtain ⟨entries, all, _⟩ := Option.bind_eq_some_iff.1 mapped
  obtain ⟨entry, goes⟩ := exists_of_mapM_some all (i, a) (OrderedMap.mem_toList_iff.2 stands)
  obtain ⟨b, same, _⟩ := Option.bind_eq_some_iff.1 goes
  exact ⟨b, same⟩

end LineMap

end Spreadsheet
