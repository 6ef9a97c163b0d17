import Spreadsheet.Graph.Basic

/-!
# Layers by counting down

`Graph.countedLevels` finds the layers of a set of cells with a counter for each cell: how many of
its precedents in the set are not placed yet. A placed cell lowers the counters of its dependents, and
a cell gets ready with its last precedent. What is never ready makes up one more layer.
-/

namespace Spreadsheet

/-- A counter for each cell of a set, and the cells that are ready for the next layer. -/
structure Countdown where
  waiting : PositionMap Nat
  ready : PositionSet

namespace Countdown

def behind (c : Countdown) : PositionMap Nat := c.waiting.filter fun _ n => n != 0

/-- One of the precedents of `p` is placed. `none` if the counter has run out before. -/
def arrive (c : Countdown) (p : Position) : Option Countdown :=
  match c.waiting[p]? with
  | none => some c
  | some 0 => none
  | some (n + 1) => some {
      waiting := c.waiting.insert p n
      ready := if n = 0 then c.ready.insert p else c.ready }

def arriveAll (c : Countdown) (ps : List Position) : Option Countdown := ps.foldlM arrive c

theorem behind_at (c : Countdown) (p : Position) : c.behind[p]? = c.waiting[p]?.filter (· != 0) := by
  unfold behind
  rw [Std.ExtTreeMap.getElem?_filter, Option.pfilter_eq_filter]

theorem mem_behind {c : Countdown} {p : Position} {n : Nat} (h : c.waiting[p]? = some (n + 1)) :
    p ∈ c.behind := by
  rw [Std.ExtTreeMap.mem_iff_isSome_getElem?, behind_at, h]
  rfl

theorem size_arrive {c c' : Countdown} {p : Position} (h : c.arrive p = some c') :
    c'.behind.size + c'.ready.size ≤ c.behind.size + c.ready.size := by
  unfold arrive at h
  split at h
  · obtain rfl := Option.some.inj h
    exact Nat.le_refl _
  · cases h
  · rename_i n found
    obtain rfl := Option.some.inj h
    have inside := mem_behind found
    have counted := Std.ExtTreeMap.contains_iff_mem.2 inside
    cases n with
    | zero =>
        have less : behind ⟨c.waiting.insert p 0, c.ready.insert p⟩ = c.behind.erase p := by
          apply Std.ExtTreeMap.ext_getElem?
          intro q
          rw [behind_at, Std.ExtTreeMap.getElem?_insert, Std.ExtTreeMap.getElem?_erase, behind_at]
          split <;> rfl
        have positive : c.behind.size ≠ 0 := fun none =>
          Std.ExtTreeMap.ne_empty_of_mem inside (Std.ExtTreeMap.eq_empty_iff_size_eq_zero.2 none)
        have grown : (c.ready.insert p).size ≤ c.ready.size + 1 := Std.ExtTreeSet.size_insert_le
        rw [if_pos rfl, less, Std.ExtTreeMap.size_erase, if_pos counted]
        dsimp only
        omega
    | succ n =>
        have same : behind ⟨c.waiting.insert p (n + 1), c.ready⟩ = c.behind.insert p (n + 1) := by
          apply Std.ExtTreeMap.ext_getElem?
          intro q
          rw [behind_at, Std.ExtTreeMap.getElem?_insert, Std.ExtTreeMap.getElem?_insert, behind_at]
          split <;> rfl
        have size : (c.behind.insert p (n + 1)).size = c.behind.size := by
          rw [Std.ExtTreeMap.size_insert, if_pos counted]
        rw [if_neg (Nat.succ_ne_zero n), same]
        exact Nat.add_le_add_right (Nat.le_of_eq size) _

theorem size_arriveAll {ps : List Position} {c c' : Countdown} (h : c.arriveAll ps = some c') :
    c'.behind.size + c'.ready.size ≤ c.behind.size + c.ready.size := by
  induction ps generalizing c with
  | nil =>
      obtain rfl := Option.some.inj h
      exact Nat.le_refl _
  | cons p ps ih =>
      obtain ⟨mid, first, later⟩ := Option.bind_eq_some_iff.1 h
      exact Nat.le_trans (ih later) (size_arrive first)

theorem size_arriveAll_lt {ps : List Position} {c c' : Countdown} (remain : ¬ c.ready.isEmpty)
    (h : { c with ready := ∅ }.arriveAll ps = some c') :
    c'.behind.size + c'.ready.size < c.behind.size + c.ready.size := by
  have kept : c'.behind.size + c'.ready.size ≤ c.behind.size + 0 := size_arriveAll h
  have taken : c.ready.size ≠ 0 := fun none => remain (by
    rw [Std.ExtTreeSet.isEmpty_eq_size_beq_zero, none]
    rfl)
  omega

end Countdown

namespace Graph

def degreeIn (g : Graph) (cells : PositionSet) (p : Position) : Nat :=
  (g.precedents.of p).toList.countP cells.contains

def degrees (g : Graph) (cells : PositionSet) : PositionMap Nat :=
  .ofList (cells.toList.map fun p => (p, g.degreeIn cells p))

def countdown (g : Graph) (cells : PositionSet) : Countdown where
  waiting := g.degrees cells
  ready := .ofList ((g.degrees cells).filter fun _ n => n == 0).keys

def place (g : Graph) (c : Countdown) : Option Countdown :=
  { c with ready := ∅ }.arriveAll (c.ready.toList.flatMap fun p => (g.dependents.of p).toList)

def placeAll (g : Graph) (c : Countdown) : Option (List (List Position) × Countdown) :=
  if done : c.ready.isEmpty then some ([], c)
  else
    match h : g.place c with
    | none => none
    | some next =>
      have := Countdown.size_arriveAll_lt done h
      (placeAll g next).map fun (layers, last) => (c.ready.toList :: layers, last)
termination_by c.behind.size + c.ready.size

/-- The layers of the set, with what is left behind as the last one. `none` if a counter would fall
below zero. -/
def countedLevels (g : Graph) (cells : PositionSet) : Option (List (List Position)) :=
  (g.placeAll (g.countdown cells)).map fun (layers, last) =>
    if layers.flatten.length < cells.size then layers ++ [last.behind.keys] else layers

end Graph

end Spreadsheet
