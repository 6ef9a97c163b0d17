import Spreadsheet.Proofs.Grid.InWords
import Spreadsheet.Proofs.Grid.Shifting

namespace Spreadsheet

@[simp] theorem Axis.other_other (axis : Axis) : axis.other.other = axis := by cases axis <;> rfl

namespace Position

theorem withAlong_withAlong (p : Position) (axis : Axis) (i j : Nat) :
    (p.withAlong axis i).withAlong axis j = p.withAlong axis j := by cases axis <;> rfl

theorem withAlong_self (p : Position) (axis : Axis) : p.withAlong axis (p.along axis) = p := by
  cases axis <;> rfl

theorem bind_along (p : Position) (axis : Axis) (f g : Nat → Option Nat) :
    ((f (p.along axis)).map (p.withAlong axis)).bind
        (fun q => (g (q.along axis)).map (q.withAlong axis)) =
      ((f (p.along axis)).bind g).map (p.withAlong axis) := by
  cases f (p.along axis) with
  | none => rfl
  | some i =>
      rw [Option.map_some, Option.bind_some, Option.bind_some, withAlong_along]
      exact congrArg (fun h => (g i).map h) (funext (p.withAlong_withAlong axis i))

theorem bind_across (p : Position) (axis : Axis) (f g : Nat → Option Nat) :
    ((f (p.along axis)).map (p.withAlong axis)).bind
        (fun q => (g (q.along axis.other)).map (q.withAlong axis.other)) =
      ((g (p.along axis.other)).map (p.withAlong axis.other)).bind
        (fun q => (f (q.along axis)).map (q.withAlong axis)) := by
  cases axis <;> dsimp only [Axis.other, along] <;> cases here : f _ <;> cases across : g _ <;>
    simp [withAlong, here, across]

end Position

namespace LineEdit
variable {edit edit' : LineEdit} {axis : Axis} {k : Nat} {r r' r'' : CellRange}

theorem moveRef_bind (edit edit' : LineEdit) (ref : CellRef) :
    (edit.moveRef ref).bind edit'.moveRef =
      ((edit.movePosition ref.toPosition).bind edit'.movePosition).map ref.movedTo := by
  unfold moveRef
  cases edit.movePosition ref.toPosition with
  | none => rfl
  | some p => rfl

theorem moveIndex_insert_delete {i : Nat} (room : i + 1 < axis.bound) :
    ((insert axis k).moveIndex i).bind (delete axis k).moveIndex = some i := by
  rw [Option.bind_eq_some_iff]
  simp only [moveIndex_insert_iff, moveIndex_delete_iff]
  by_cases front : i < k
  · exact ⟨i, by omega, by omega⟩
  · exact ⟨i + 1, by omega, by omega⟩

theorem movePosition_insert_delete {p : Position} (room : p.along axis + 1 < axis.bound) :
    ((insert axis k).movePosition p).bind (delete axis k).movePosition = some p := by
  refine (p.bind_along axis (insert axis k).moveIndex (delete axis k).moveIndex).trans ?_
  rw [moveIndex_insert_delete room]
  exact congrArg some (p.withAlong_self axis)

theorem moveRef_insert_delete {ref : CellRef} (room : ref.along axis + 1 < axis.bound) :
    ((insert axis k).moveRef ref).bind (delete axis k).moveRef = some ref := by
  rw [moveRef_bind, movePosition_insert_delete room]
  rfl

theorem moveSpan_insert_delete {first last : Nat} (le : first ≤ last) (room : last + 1 < axis.bound) :
    ∃ a b, (insert axis k).moveSpan first last = some (a, b) ∧
      a ≤ b ∧ (delete axis k).moveSpan a b = some (first, last) := by
  have back : ∀ a b, (insert axis k).moveSpan first last = some (a, b) →
      a ≤ b ∧ (delete axis k).moveSpan a b = some (first, last) := by
    intro a b span
    rw [moveSpan_insert_iff le] at span
    have le' : a ≤ b := by omega
    rw [moveSpan_delete_iff le']
    omega
  have goes : ∃ a b, (insert axis k).moveSpan first last = some (a, b) := by
    simp only [moveSpan_insert_iff le]
    by_cases behind : last < k
    · exact ⟨first, last, by omega⟩
    · by_cases inside : first < k
      · exact ⟨first, last + 1, by omega⟩
      · exact ⟨first + 1, last + 1, by omega⟩
  obtain ⟨a, b, span⟩ := goes
  exact ⟨a, b, span, back a b span⟩

theorem moveRange_insert_delete (room : r.last.along axis + 1 < axis.bound) :
    ((insert axis k).moveRange r).bind (delete axis k).moveRange = some r := by
  obtain ⟨a, b, span, _, back⟩ := moveSpan_insert_delete (k := k) (r.along_le axis) room
  obtain ⟨r', moved⟩ := exists_moveRange (insert axis k) span
  obtain ⟨span', across, first, last⟩ := moveRange_iff.1 moved
  obtain ⟨rfl, rfl⟩ := Prod.mk.inj (Option.some.inj (span.symm.trans span'))
  rw [moved]
  exact moveRange_iff.2 ⟨back, ⟨across.1.symm, across.2.symm⟩, first.symm, last.symm⟩

theorem movePosition_comm (across : edit'.axis = edit.axis.other) (p : Position) :
    (edit.movePosition p).bind edit'.movePosition = (edit'.movePosition p).bind edit.movePosition := by
  unfold movePosition
  rw [across]
  exact p.bind_across edit.axis edit.moveIndex edit'.moveIndex

theorem moveRef_comm (across : edit'.axis = edit.axis.other) (ref : CellRef) :
    (edit.moveRef ref).bind edit'.moveRef = (edit'.moveRef ref).bind edit.moveRef := by
  rw [moveRef_bind, moveRef_bind, movePosition_comm across]

theorem moveRange_swap (across : edit'.axis = edit.axis.other) (first : edit.moveRange r = some r')
    (second : edit'.moveRange r' = some r'') :
    ∃ r₁, edit'.moveRange r = some r₁ ∧ edit.moveRange r₁ = some r'' := by
  obtain ⟨span, ⟨keptFirst, keptLast⟩, markers⟩ := moveRange_iff.1 first
  obtain ⟨span', ⟨keptFirst', keptLast'⟩, markers'⟩ := moveRange_iff.1 second
  rw [across] at span' keptFirst' keptLast'
  rw [Axis.other_other] at keptFirst' keptLast'
  rw [keptFirst, keptLast] at span'
  obtain ⟨r₁, moved⟩ := exists_moveRange edit' (r := r) (by rw [across]; exact span')
  refine ⟨r₁, moved, ?_⟩
  obtain ⟨span₁, ⟨keptFirst₁, keptLast₁⟩, markers₁⟩ := moveRange_iff.1 moved
  rw [across] at span₁ keptFirst₁ keptLast₁
  rw [Axis.other_other] at keptFirst₁ keptLast₁
  obtain ⟨firsts, lasts⟩ := Prod.mk.inj (Option.some.inj (span'.symm.trans span₁))
  rw [moveRange_iff, keptFirst₁, keptLast₁, span, keptFirst', keptLast', firsts, lasts]
  exact ⟨rfl, ⟨rfl, rfl⟩, (markers'.1.trans markers.1).trans markers₁.1.symm,
    (markers'.2.trans markers.2).trans markers₁.2.symm⟩

theorem moveRange_comm (across : edit'.axis = edit.axis.other) (r : CellRange) :
    (edit.moveRange r).bind edit'.moveRange = (edit'.moveRange r).bind edit.moveRange := by
  refine Option.ext fun r'' => ?_
  rw [Option.bind_eq_some_iff, Option.bind_eq_some_iff]
  constructor
  · rintro ⟨r', first, second⟩
    exact moveRange_swap across first second
  · rintro ⟨r', first, second⟩
    exact moveRange_swap (by rw [across, Axis.other_other]) first second

def moveTwiceInWords (edit edit' : LineEdit) (p : Position) : Option (Option Position) :=
  (edit.movePositionInWords p).bind fun moved => moved.elim (some none) edit'.movePositionInWords

theorem eq_of_moveIndexInWords {i : Nat} {moved : Option Nat}
    (answer : edit.moveIndexInWords i = some moved) : moved = edit.moveIndex i := by
  cases edit with
  | insert axis k =>
      rw [moveIndexInWords] at answer
      rw [moveIndex]
      by_cases behind : k ≤ i
      · rw [if_pos behind] at answer ⊢
        obtain ⟨j, sum, rfl⟩ := Option.map_eq_some_iff.1 answer
        rw [(wordSum_eq_some.1 sum).2]
      · rw [if_neg behind] at answer ⊢
        exact (Option.some.inj answer).symm
  | delete axis k =>
      rw [moveIndexInWords, moveBackInWords_eq axis (by omega), ← apply_ite some, Option.some.injEq] at answer
      exact answer.symm

theorem eq_of_movePositionInWords {p : Position} {moved : Option Position}
    (answer : edit.movePositionInWords p = some moved) : moved = edit.movePosition p := by
  obtain ⟨i, index, rfl⟩ := Option.map_eq_some_iff.1 answer
  rw [eq_of_moveIndexInWords index]
  rfl

theorem eq_of_moveTwiceInWords {p : Position} {moved : Option Position}
    (answer : edit.moveTwiceInWords edit' p = some moved) :
    moved = (edit.movePosition p).bind edit'.movePosition := by
  obtain ⟨first, answer, rest⟩ := Option.bind_eq_some_iff.1 answer
  rw [← eq_of_movePositionInWords answer]
  cases first with
  | none => exact (Option.some.inj rest).symm
  | some q => exact eq_of_movePositionInWords rest

theorem moveTwiceInWords_eq {p : Position} (room : p.along edit.axis + 1 < rowWordBound)
    (roomNext : ∀ q, edit.movePosition p = some q → q.along edit'.axis + 1 < rowWordBound) :
    edit.moveTwiceInWords edit' p = some ((edit.movePosition p).bind edit'.movePosition) := by
  unfold moveTwiceInWords
  rw [movePositionInWords_eq edit room, Option.bind_some]
  cases moved : edit.movePosition p with
  | none => rfl
  | some q => exact movePositionInWords_eq edit' (roomNext q moved)

theorem moveTwiceInWords_across (across : edit'.axis = edit.axis.other) {p : Position}
    (room : ∀ axis : Axis, p.along axis + 1 < rowWordBound) :
    edit.moveTwiceInWords edit' p = some ((edit.movePosition p).bind edit'.movePosition) := by
  refine moveTwiceInWords_eq (room edit.axis) fun q moved => ?_
  rw [across, (movePosition_iff.1 moved).2]
  exact room edit.axis.other

end LineEdit

end Spreadsheet
