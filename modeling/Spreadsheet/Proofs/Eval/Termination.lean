import Mathlib.Logic.Relation
import Spreadsheet.Proofs.Eval.Dependence

/-!
# Evaluation on demand ends

A run is followed down to a bounded depth: each pending formula that it enters takes it one deeper,
and at the bound a pending cell reads as something arbitrary. A run that gives the same whatever that
is has ended above the bound. With the guard against cycles every run ends, and where nothing that is
pending runs in a circle the run without the guard ends too, with the same value.
-/

namespace Spreadsheet
open Relation (TransGen ReflTransGen)

namespace Resolver

/-- Reads a cell at most `depth` pending formulas deep; the next one reads as `beyond`. Only a guarded
run asks whether a cell is being evaluated already. -/
def readWithin (r : Resolver) (guarded : Bool) (beyond : Reading CellValue)
    (visiting : List Position) (p : Position) (depth : Nat) : Reading CellValue :=
  match r.lookup p with
  | .settled v => .ok v
  | .pending e =>
    if guarded = true ∧ p ∈ visiting then .ok (.error .circular)
    else
      match depth with
      | 0 => beyond
      | depth + 1 =>
        (e.eval r.limits fun q => r.readWithin guarded beyond (p :: visiting) q depth).map
          FormulaValue.toCell

def evaluateWithin (r : Resolver) (guarded : Bool) (beyond : Reading CellValue)
    (visiting : List Position) (e : Expr) (depth : Nat) : Reading FormulaValue :=
  e.eval r.limits fun q => r.readWithin guarded beyond visiting q depth

variable {r : Resolver} {guarded : Bool} {beyond : Reading CellValue} {visiting : List Position}
  {p : Position} {e : Expr} {depth : Nat}

theorem readWithin_settled {v : CellValue} (h : r.lookup p = .settled v) :
    r.readWithin guarded beyond visiting p depth = .ok v := by
  unfold readWithin
  rw [h]

theorem readWithin_visiting (h : r.lookup p = .pending e) (entered : p ∈ visiting) :
    r.readWithin true beyond visiting p depth = .ok (.error .circular) := by
  unfold readWithin
  rw [h]
  exact if_pos ⟨rfl, entered⟩

theorem readWithin_entered (h : r.lookup p = .pending e) (enters : guarded = false ∨ ¬ p ∈ visiting) :
    r.readWithin guarded beyond visiting p (depth + 1) =
      (e.eval r.limits fun q => r.readWithin guarded beyond (p :: visiting) q depth).map
        FormulaValue.toCell := by
  have goesOn : ¬ (guarded = true ∧ p ∈ visiting) := by simpa [imp_iff_not_or] using enters
  rw [readWithin, h]
  exact if_neg goesOn

theorem readWithin_bottom (h : r.lookup p = .pending e) (enters : guarded = false ∨ ¬ p ∈ visiting) :
    r.readWithin guarded beyond visiting p 0 = beyond := by
  have goesOn : ¬ (guarded = true ∧ p ∈ visiting) := by simpa [imp_iff_not_or] using enters
  rw [readWithin, h]
  exact if_neg goesOn

theorem unentered_lt {keys : List Position} (listed : p ∈ keys) (fresh : ¬ p ∈ visiting) :
    (keys.filter fun q => !(p :: visiting).contains q).length <
      (keys.filter fun q => !visiting.contains q).length := by
  refine length_filter_lt (a := p) (fun q => ?_) listed ?_ ?_
  · simp_all
  · simpa using fresh
  · simp

theorem readWithin_guarded {keys : List Position}
    (listed : ∀ q f, r.lookup q = .pending f → q ∈ keys)
    (enough : (keys.filter fun q => !visiting.contains q).length ≤ depth) :
    r.readWithin true beyond visiting p depth = r.read visiting p := by
  -- Each cell is entered once on the way down, so as many steps down suffice as there are pending
  -- cells that have not been entered.
  fun_induction r.read visiting p generalizing depth with
  | case1 visiting p v settled => exact readWithin_settled settled
  | case2 visiting p e pending entered => exact readWithin_visiting pending entered
  | case3 visiting p e pending fresh _ ih =>
      have fewer := unentered_lt (listed p e pending) fresh
      obtain ⟨depth, rfl⟩ : ∃ d, depth = d + 1 := ⟨depth - 1, by omega⟩
      rw [readWithin_entered pending (.inr fresh)]
      congr 1
      exact Expr.eval_congr_reads e fun q _ => ih q (by omega)

def Asks (r : Resolver) (p q : Position) : Prop :=
  ∃ f, r.lookup p = .pending f ∧ f.Reads r.limits q

def Reaches (r : Resolver) (e : Expr) (q : Position) : Prop :=
  (∃ p, e.Reads r.limits p ∧ ReflTransGen r.Asks p q) ∧ ∃ f, r.lookup q = .pending f

theorem readWithin_unguarded
    (clear : ∀ q f, ReflTransGen r.Asks p q → r.lookup q = .pending f →
      ¬ q ∈ visiting ∧ ¬ TransGen r.Asks q q) :
    r.readWithin false beyond visiting p depth = r.readWithin true beyond visiting p depth := by
  -- The stack holds only cells from which evaluation has come down, and it would come to one of
  -- them again only along a circle.
  induction depth generalizing visiting p with
  | zero =>
      cases found : r.lookup p with
      | settled v => rw [readWithin_settled found, readWithin_settled found]
      | pending e =>
          have fresh := (clear p e .refl found).1
          rw [readWithin_bottom found (.inl rfl), readWithin_bottom found (.inr fresh)]
  | succ depth ih =>
      cases found : r.lookup p with
      | settled v => rw [readWithin_settled found, readWithin_settled found]
      | pending e =>
          obtain ⟨fresh, noCircle⟩ := clear p e .refl found
          rw [readWithin_entered found (.inl rfl), readWithin_entered found (.inr fresh)]
          congr 1
          refine Expr.eval_congr_reads e fun q reads => ih fun q' f path pending => ?_
          have asks : r.Asks p q := ⟨e, found, reads⟩
          obtain ⟨fresh', noCircle'⟩ := clear q' f (.head asks path) pending
          refine ⟨fun mem => ?_, noCircle'⟩
          rcases List.mem_cons.1 mem with rfl | earlier
          · exact noCircle (.head' asks path)
          · exact fresh' earlier

end Resolver

/-- Evaluation ends, never more formulas deep than there are pending cells. Where it comes to no cell
that is under evaluation and to none that lies on a circle, it ends without the guard as well, and
with the same value. -/
theorem evaluate_ends {r : Resolver} {keys : List Position}
    (listed : ∀ q f, r.lookup q = .pending f → q ∈ keys) (visiting : List Position) (e : Expr)
    {depth : Nat} (enough : keys.length ≤ depth) (beyond : Reading CellValue) :
    r.evaluateWithin true beyond visiting e depth = evaluate r visiting e ∧
    ((∀ q, r.Reaches e q → ¬ q ∈ visiting ∧ ¬ TransGen r.Asks q q) →
      r.evaluateWithin false beyond visiting e depth = evaluate r visiting e) := by
  have fits : (keys.filter fun q => !visiting.contains q).length ≤ depth :=
    (List.length_filter_le _ _).trans enough
  have guarded : r.evaluateWithin true beyond visiting e depth = evaluate r visiting e :=
    Expr.eval_congr_reads e fun q _ => Resolver.readWithin_guarded listed fits
  refine ⟨guarded, fun clear => ?_⟩
  rw [← guarded]
  refine Expr.eval_congr_reads e fun p reads => Resolver.readWithin_unguarded ?_
  exact fun q f path pending => clear q ⟨⟨p, reads, path⟩, f, pending⟩

namespace Resolver

def twice (column : Nat) : Expr :=
  .binary .concat (.cell { row := 0, column }) (.cell { row := 0, column })

def sharedRow : Resolver where
  limits := { rows := 1, columns := 4 }
  lookup p :=
    if p = ⟨0, 1⟩ then .pending (twice 0)
    else if p = ⟨0, 2⟩ then .pending (twice 1)
    else .settled (.text "x")
  finite := by
    refine ⟨[⟨0, 1⟩, ⟨0, 2⟩], fun p e pending => ?_⟩
    split at pending
    · simp [*]
    · split at pending
      · simp [*]
      · cases pending

theorem reads_twice {limits : Limits} {column : Nat} {q : Position}
    (h : (twice column).Reads limits q) : q = ⟨0, column⟩ := by
  cases h with
  | left reads => cases reads; rfl
  | right reads => cases reads; rfl

theorem sharedRow_pending {p : Position} {e : Expr} (h : sharedRow.lookup p = .pending e) :
    (p = ⟨0, 1⟩ ∧ e = twice 0) ∨ (p = ⟨0, 2⟩ ∧ e = twice 1) := by
  unfold sharedRow at h
  dsimp only at h
  split at h
  · cases h
    exact .inl ⟨‹_›, rfl⟩
  · split at h
    · cases h
      exact .inr ⟨‹_›, rfl⟩
    · cases h

theorem sharedRow_asks {p q : Position} (h : sharedRow.Asks p q) : q.column < p.column := by
  obtain ⟨e, found, reads⟩ := h
  rcases sharedRow_pending found with ⟨rfl, rfl⟩ | ⟨rfl, rfl⟩
  · rw [reads_twice reads]
    exact Nat.zero_lt_one
  · rw [reads_twice reads]
    exact Nat.lt_succ_self 1

theorem sharedRow_ends :
    sharedRow.evaluateWithin false (.ok (.error .circular)) [⟨0, 3⟩] (twice 2) 2 =
      evaluate sharedRow [⟨0, 3⟩] (twice 2) ∧
    evaluate sharedRow [⟨0, 3⟩] (twice 2) = .ok (.text "xxxxxxxx") := by
  have listed : ∀ q f, sharedRow.lookup q = .pending f → q ∈ [(⟨0, 1⟩ : Position), ⟨0, 2⟩] := by
    intro q f pending
    rcases sharedRow_pending pending with ⟨rfl, _⟩ | ⟨rfl, _⟩ <;> simp
  have ends := evaluate_ends listed [⟨0, 3⟩] (twice 2) (Nat.le_refl 2) (.ok (.error .circular))
  refine ⟨ends.2 fun q reached => ⟨fun entered => ?_, fun circle => ?_⟩, ?_⟩
  · obtain ⟨_, f, pending⟩ := reached
    obtain rfl := List.mem_singleton.1 entered
    rcases sharedRow_pending pending with ⟨same, _⟩ | ⟨same, _⟩ <;> cases same
  · have descends : ∀ q', TransGen sharedRow.Asks q q' → q'.column < q.column := by
      intro q' path
      induction path with
      | single asks => exact sharedRow_asks asks
      | tail _ asks shorter => exact (sharedRow_asks asks).trans shorter
    exact Nat.lt_irrefl _ (descends q circle)
  · rw [← ends.1]
    rfl

end Resolver

end Spreadsheet
