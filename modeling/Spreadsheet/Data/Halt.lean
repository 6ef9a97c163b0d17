namespace Spreadsheet

/-- Why work does not come to its result: it is refused, or the program dies of it. -/
inductive Halt (ε : Type)
  | fault (e : ε)
  | crash

abbrev Attempt (ε : Type) : Type → Type := Except (Halt ε)

namespace Attempt
variable {ε ε' α : Type}

def ofExcept (x : Except ε α) : Attempt ε α := x.mapError .fault

def ofOption : Option α → Attempt ε α
  | some a => .ok a
  | none => .error .crash

def mapFault (f : ε → ε') : Attempt ε α → Attempt ε' α
  | .ok a => .ok a
  | .error (.fault e) => .error (.fault (f e))
  | .error .crash => .error .crash

end Attempt

end Spreadsheet
