import Spreadsheet.Session.Basic

namespace Spreadsheet

inductive Operation
  | addMatrix (name : String)
  | removeMatrix (name : String)
  | setCell (name : String) (p : Position) (raw : String) (cancelled : Bool)
  | setCells (name : String) (edits : List (Position × String))
  | editLine (name : String) (edit : LineEdit)
  | recalculate (name : String) (cancelled : Bool)
  | load (snapshot : SessionSnapshot)
  | undo
  | redo

namespace Session

def perform (s : Session) : Operation → Attempt GridError (Session × Reply)
  | .addMatrix name => (Attempt.ofExcept (s.addMatrix name)).map fun s => (s, .done)
  | .removeMatrix name => (Attempt.ofExcept (s.removeMatrix name)).map fun s => (s, .done)
  | .setCell name p raw cancelled =>
    (s.setCell name p raw cancelled).map fun (s, view, stats) => (s, .cell view stats)
  | .setCells name edits => (s.setCells name edits).map fun (s, stats) => (s, .stats stats)
  | .editLine name edit => (s.editLine name edit).map fun (s, stats) => (s, .stats stats)
  | .recalculate name cancelled =>
    (s.recalculate name cancelled).map fun (s, stats) => (s, .stats stats)
  | .load snapshot => (s.load snapshot).map fun s => (s, .done)
  | .undo => (Attempt.ofOption s.undo).map fun (s, applied) => (s, .applied applied)
  | .redo => (Attempt.ofOption s.redo).map fun (s, applied) => (s, .applied applied)

def after (s : Session) (op : Operation) : Option Session :=
  match s.perform op with
  | .ok (s, _) => some s
  | .error (.fault _) => some s
  | .error .crash => none

def run (s : Session) (ops : List Operation) : Option Session := ops.foldlM after s

/-- Operations lead to the session from one without sheets. -/
inductive Reachable (options : Options) : Session → Prop
  | create : Reachable options (create options)
  | after {s s' : Session} (op : Operation) :
    Reachable options s → s.after op = some s' → Reachable options s'

def reached (options : Options) (ops : List Operation) : Session :=
  ((create options).run ops).getD (create options)

def next (s : Session) (op : Operation) : Session := (s.after op).getD s

theorem Reachable.run {options : Options} {s s' : Session} (h : Reachable options s) {ops : List Operation}
    (ran : s.run ops = some s') : Reachable options s' := by
  induction ops generalizing s with
  | nil =>
      cases ran
      exact h
  | cons op ops ih =>
      obtain ⟨s₁, first, rest⟩ := Option.bind_eq_some_iff.1 ran
      exact ih (h.after op first) rest

theorem reachable_reached (options : Options) (ops : List Operation) :
    Reachable options (reached options ops) := by
  unfold reached
  cases ran : (create options).run ops with
  | none => exact .create
  | some s => exact Reachable.create.run ran

theorem Reachable.next {options : Options} {s : Session} (h : Reachable options s) (op : Operation) :
    Reachable options (s.next op) := by
  unfold Session.next
  cases done : s.after op with
  | none => exact h
  | some s' => exact h.after op done

end Session

end Spreadsheet
