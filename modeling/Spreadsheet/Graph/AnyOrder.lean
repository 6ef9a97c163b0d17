import Spreadsheet.Graph.Countdown
import Spreadsheet.Graph.Search

/-!
# Graphs with sets in any order

The sets of a graph are hash tables: whoever goes through one meets its members in an order that nothing
is known about. The searches and the changes of a graph are given here as they run, with every list that
a loop goes through as an argument, and any list of the members of the set may stand there.
-/

namespace Spreadsheet

namespace Neighbours

structure Listing (n : Neighbours) where
  list : Position → List Position
  perm : ∀ p, (list p).Perm (n.of p).toList

def rowMajor (n : Neighbours) : n.Listing := ⟨fun p => (n.of p).toList, fun _ => .rfl⟩

def pushed (ps stack : List Position) : List Position := ps.reverse ++ stack

theorem mem_pushed {ps stack : List Position} {p : Position} :
    p ∈ pushed ps stack ↔ p ∈ ps ∨ p ∈ stack := by
  rw [pushed, List.mem_append, List.mem_reverse]

def unvisited (n : Neighbours) (visited : PositionSet) : Nat :=
  (n.keys.filter fun p => !visited.contains p).length

namespace Listing
variable {n : Neighbours}

theorem mem_list (o : n.Listing) {p q : Position} : q ∈ o.list p ↔ q ∈ n.of p :=
  (o.perm p).mem_iff.trans Std.ExtTreeSet.mem_toList

def fresh (o : n.Listing) (seen : PositionSet) (p : Position) : List Position :=
  (o.list p).filter fun q => !seen.contains q

theorem unseen_lt (o : n.Listing) {seen : PositionSet} {p q : Position} {rest : List Position}
    (h : o.fresh seen p = q :: rest) : n.unseen (seen.insertMany (q :: rest)) < n.unseen seen := by
  have mem : q ∈ o.fresh seen p := by
    rw [h]
    exact List.mem_cons_self
  obtain ⟨listed, new⟩ := List.mem_filter.1 mem
  exact unseen_insertMany_lt (o.mem_list.1 listed) (by simpa only [Bool.not_eq_true'] using new)
    List.mem_cons_self

/-- All that is seen at the end. The position on top of the stack is taken, and those of its neighbours
that are seen for the first time are put on it. -/
def spread (o : n.Listing) (seen : PositionSet) (stack : List Position) : PositionSet :=
  match stack with
  | [] => seen
  | p :: rest =>
    match h : o.fresh seen p with
    | [] => o.spread seen rest
    | q :: qs =>
      have := o.unseen_lt h
      o.spread (seen.insertMany (q :: qs)) (pushed (q :: qs) rest)
termination_by (n.unseen seen, stack.length)

def leadTo (o : n.Listing) (wanted seen : PositionSet) (waiting : List Position) : Bool :=
  match waiting with
  | [] => false
  | p :: rest =>
    if (o.list p).any wanted.contains then true
    else
      match h : o.fresh seen p with
      | [] => o.leadTo wanted seen rest
      | q :: qs =>
        have := o.unseen_lt h
        o.leadTo wanted (seen.insertMany (q :: qs)) (rest ++ q :: qs)
termination_by (n.unseen seen, waiting.length)

theorem unvisited_insert_lt {visited : PositionSet} {p : Position} (key : p ∈ n)
    (new : visited.contains p = false) : n.unvisited (visited.insert p) < n.unvisited visited := by
  refine length_filter_lt (a := p) (fun x => ?_) (Std.ExtTreeMap.mem_keys.2 key) ?_ ?_
  · rw [Std.ExtTreeSet.contains_insert]
    cases visited.contains x with
    | true => simp
    | false => simp
  · rw [new]
    rfl
  · simp

theorem unvisited_insert_of_not_mem {visited : PositionSet} {p : Position} (none : ¬ p ∈ n) :
    n.unvisited (visited.insert p) = n.unvisited visited := by
  refine congrArg List.length (List.filter_congr fun q key => ?_)
  have other : ¬ compare p q = .eq := by
    intro same
    obtain rfl := Position.eq_of_compare_eq same
    exact none (Std.ExtTreeMap.mem_keys.1 key)
  rw [Std.ExtTreeSet.contains_insert, beq_eq_false_iff_ne.2 other, Bool.false_or]

theorem visit_decreases (o : n.Listing) {visited : PositionSet} {p : Position} (rest : List Position)
    (new : visited.contains p = false) :
    Prod.Lex (· < ·) (· < ·)
      (n.unvisited (visited.insert p), (pushed (o.list p) rest).length)
      (n.unvisited visited, (p :: rest).length) := by
  by_cases key : p ∈ n
  · exact .left _ _ (unvisited_insert_lt key new)
  · have none : n.of p = ∅ := by
      unfold of
      rw [Std.ExtTreeMap.getElem?_eq_none key]
      rfl
    have empty : o.list p = [] := by
      refine List.eq_nil_iff_forall_not_mem.2 fun q listed => ?_
      rw [o.mem_list, none] at listed
      exact Std.ExtTreeSet.not_mem_empty listed
    rw [unvisited_insert_of_not_mem key, empty]
    exact .right _ (Nat.lt_succ_self _)

def leadBack (o : n.Listing) (home : Position) (visited : PositionSet) (stack : List Position) : Bool :=
  match stack with
  | [] => false
  | p :: rest =>
    if p = home then true
    else if old : visited.contains p then o.leadBack home visited rest
    else
      have := o.visit_decreases rest (Bool.eq_false_iff.2 old)
      o.leadBack home (visited.insert p) (pushed (o.list p) rest)
termination_by (n.unvisited visited, stack.length)
decreasing_by
  · exact .right _ (Nat.lt_succ_self _)
  · exact this

end Listing

end Neighbours

namespace Graph

def transitiveDependentsBy (g : Graph) (o : g.dependents.Listing) (roots : List Position) : PositionSet :=
  o.spread ∅ (Neighbours.pushed roots [])

def wouldCreateCycleBy (g : Graph) (o : g.dependents.Listing) (p : Position) (precedents : PositionSet) :
    Bool :=
  if precedents.contains p then true
  else if precedents.isEmpty then false
  else o.leadTo precedents {p} [p]

def hasCircularReferenceBy (g : Graph) (o : g.precedents.Listing) (p : Position) : Bool :=
  o.leadBack p ∅ (Neighbours.pushed (o.list p) [])

/-! ## Layers -/

/-- The orders in which the search for layers goes through its sets: the neighbours, and the cells when
they are counted, when the first ready ones are picked, and when the rest is. -/
structure LevelOrders (g : Graph) (cells : PositionSet) where
  precedents : g.precedents.Listing
  dependents : g.dependents.Listing
  counted : List Position
  checked : List Position
  left : List Position
  counted_perm : counted.Perm cells.toList
  checked_perm : checked.Perm cells.toList
  left_perm : left.Perm cells.toList

def LevelOrders.rowMajor (g : Graph) (cells : PositionSet) : g.LevelOrders cells where
  precedents := g.precedents.rowMajor
  dependents := g.dependents.rowMajor
  counted := cells.toList
  checked := cells.toList
  left := cells.toList
  counted_perm := .rfl
  checked_perm := .rfl
  left_perm := .rfl

variable {g : Graph} {cells : PositionSet}

def degreesBy (o : g.LevelOrders cells) : PositionMap Nat :=
  .ofList (o.counted.map fun p => (p, (o.precedents.list p).countP cells.contains))

def countdownBy (o : g.LevelOrders cells) : Countdown where
  waiting := degreesBy o
  ready := .ofList (o.checked.filter fun p => (degreesBy o)[p]? == some 0)

def placeBy (o : g.dependents.Listing) (c : Countdown) : Option Countdown :=
  { c with ready := ∅ }.arriveAll (c.ready.toList.flatMap o.list)

def placeAllBy (o : g.dependents.Listing) (c : Countdown) :
    Option (List (List Position) × Countdown) :=
  if done : c.ready.isEmpty then some ([], c)
  else
    match h : placeBy o c with
    | none => none
    | some next =>
      have := Countdown.size_arriveAll_lt done h
      (placeAllBy o next).map fun (layers, last) => (c.ready.toList :: layers, last)
termination_by c.behind.size + c.ready.size

def restBy (o : g.LevelOrders cells) (c : Countdown) : List Position :=
  (o.left.filter fun p => c.waiting[p]?.any (0 < ·)).mergeSort fun p q => (compare p q).isLE

def levelsBy (o : g.LevelOrders cells) : Option (List (List Position)) :=
  (placeAllBy o.dependents (countdownBy o)).map fun (layers, last) =>
    if layers.flatten.length < cells.size then layers ++ [restBy o last] else layers

def topologicalOrderBy (o : g.LevelOrders cells) : Option (List Position) :=
  (levelsBy o).map List.flatten

/-! ## Changes -/

def removeListed (g : Graph) (p : Position) (listed : List Position) : Graph where
  precedents := g.precedents.erase p
  dependents := listed.foldl (fun n q => n.unlink q p) g.dependents

def linkListed (g : Graph) (p : Position) (listed : List Position) : Graph :=
  listed.foldl (fun g q => g.link q p) g

end Graph

inductive EdgeEdit
  | add (precedent dependent : Position)
  | set (cell : Position) (precedents : PositionSet)
  | remove (cell : Position)
  | clear

inductive EdgeEdit.Leads : EdgeEdit → Graph → Graph → Prop
  | add (g : Graph) (p q : Position) : Leads (.add p q) g (g.link p q)
  | set (g : Graph) (p : Position) (ps : PositionSet) {removed added : List Position}
      (leave : removed.Perm (g.precedents.of p).toList) (enter : added.Perm ps.toList) :
      Leads (.set p ps) g ((g.removeListed p removed).linkListed p added)
  | remove (g : Graph) (p : Position) {removed : List Position}
      (leave : removed.Perm (g.precedents.of p).toList) : Leads (.remove p) g (g.removeListed p removed)
  | clear (g : Graph) : Leads .clear g .empty

inductive Graph.BuiltBy : List EdgeEdit → Graph → Prop
  | empty : BuiltBy [] .empty
  | edit {edits : List EdgeEdit} {edit : EdgeEdit} {g g' : Graph} (before : BuiltBy edits g)
      (leads : edit.Leads g g') : BuiltBy (edits ++ [edit]) g'

end Spreadsheet
