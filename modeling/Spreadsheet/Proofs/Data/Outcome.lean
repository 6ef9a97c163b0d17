import Mathlib
import Spreadsheet.Data.Halt

namespace Spreadsheet
variable {ε α β : Type}

theorem ok_bind (a : α) (f : α → Except ε β) : (.ok a >>= f) = f a := rfl

theorem bind_eq_ok {x : Except ε α} {f : α → Except ε β} {b : β} :
    x >>= f = .ok b ↔ ∃ a, x = .ok a ∧ f a = .ok b := by
  cases x <;> simp [bind, Except.bind]

theorem map_eq_ok {x : Except ε α} {f : α → β} {b : β} :
    x.map f = .ok b ↔ ∃ a, x = .ok a ∧ f a = b := by
  cases x <;> simp [Except.map]

theorem bind_eq_error {x : Except ε α} {f : α → Except ε β} {e : ε} :
    x >>= f = .error e ↔ x = .error e ∨ ∃ a, x = .ok a ∧ f a = .error e := by
  cases x <;> simp [bind, Except.bind]

theorem map_eq_error {x : Except ε α} {f : α → β} {e : ε} : x.map f = .error e ↔ x = .error e := by
  cases x <;> simp [Except.map]

theorem mapError_eq_ok {ε' : Type} {x : Except ε α} {f : ε → ε'} {a : α} :
    x.mapError f = .ok a ↔ x = .ok a := by
  cases x <;> simp [Except.mapError]

theorem guarded_eq_ok {refused : Prop} [Decidable refused] {fault : ε} {x : Except ε α} {a : α} :
    (if refused then .error fault else x) = .ok a ↔ ¬ refused ∧ x = .ok a := by
  by_cases h : refused <;> simp [h]

theorem ofExcept_eq_ok {x : Except ε α} {a : α} : Attempt.ofExcept x = .ok a ↔ x = .ok a :=
  mapError_eq_ok

theorem ofOption_eq_ok {x : Option α} {a : α} : (Attempt.ofOption x : Attempt ε α) = .ok a ↔ x = some a := by
  cases x <;> simp [Attempt.ofOption]

@[simp] theorem ofExcept_ok_bind (a : α) (f : α → Attempt ε β) :
    (Attempt.ofExcept (.ok a) >>= f) = f a := rfl

@[simp] theorem ofOption_some_bind (a : α) (f : α → Attempt ε β) :
    (Attempt.ofOption (some a) >>= f) = f a := rfl

theorem mapFault_eq_ok {ε' : Type} {x : Attempt ε α} {f : ε → ε'} {a : α} :
    x.mapFault f = .ok a ↔ x = .ok a := by
  rcases x with (fault | _) | b <;> simp [Attempt.mapFault]

theorem ofOption_injective {x y : Option α}
    (h : (Attempt.ofOption x : Attempt ε α) = Attempt.ofOption y) : x = y := by
  cases x <;> cases y <;> cases h <;> rfl

theorem map_ofOption (x : Option α) (f : α → β) :
    (Attempt.ofOption x : Attempt ε α).map f = Attempt.ofOption (x.map f) := by
  cases x <;> rfl

/-! ## Going through a list -/

theorem mapM_eq_error {f : α → Except ε β} {l : List α} {e : ε} (h : l.mapM f = .error e) :
    ∃ a ∈ l, f a = .error e := by
  induction l with
  | nil => cases h
  | cons a l ih =>
      rw [List.mapM_cons] at h
      rcases bind_eq_error.1 h with here | ⟨b, _, later⟩
      · exact ⟨a, List.mem_cons_self, here⟩
      · rcases bind_eq_error.1 later with there | ⟨bs, _, none⟩
        · obtain ⟨a', mem, stops⟩ := ih there
          exact ⟨a', List.mem_cons_of_mem a mem, stops⟩
        · cases none

theorem mapM_of_some {l : List α} {f : α → Option β} {g : α → β} (all : ∀ a ∈ l, f a = some (g a)) :
    l.mapM f = some (l.map g) := by
  induction l with
  | nil => rfl
  | cons a l ih =>
      rw [List.mapM_cons, all a List.mem_cons_self, ih fun b mem => all b (List.mem_cons_of_mem _ mem)]
      rfl

theorem mapM_range_of_some {n : Nat} {f : Nat → Option β} {g : Fin n → β}
    (all : ∀ i : Fin n, f i = some (g i)) : (List.range n).mapM f = some (List.ofFn g) := by
  rw [← List.map_coe_finRange_eq_range, List.mapM_map, List.ofFn_eq_map]
  exact mapM_of_some fun i _ => all i

theorem exists_of_mapM_some {l : List α} {f : α → Option β} {bs : List β}
    (all : l.mapM f = some bs) : ∀ a ∈ l, ∃ b, f a = some b := by
  induction l generalizing bs with
  | nil => simp
  | cons a l ih =>
      rw [List.mapM_cons] at all
      obtain ⟨b, here, all⟩ := Option.bind_eq_some_iff.1 all
      obtain ⟨bs, rest, _⟩ := Option.bind_eq_some_iff.1 all
      exact List.forall_mem_cons.2 ⟨⟨b, here⟩, ih rest⟩

theorem forM_of_some {l : List α} {f : α → Option Unit} (all : ∀ a ∈ l, f a = some ()) :
    l.forM f = some () := by
  induction l with
  | nil => rfl
  | cons a l ih =>
      show (f a >>= fun _ => l.forM f) = some ()
      rw [all a List.mem_cons_self]
      exact ih fun b mem => all b (List.mem_cons_of_mem _ mem)

theorem foldlM_kept {f : β → α → Option β} {P : β → Prop} (step : ∀ b a b', P b → f b a = some b' → P b')
    {l : List α} {b b' : β} (start : P b) (ran : l.foldlM f b = some b') : P b' := by
  induction l generalizing b with
  | nil =>
      cases ran
      exact start
  | cons a l ih =>
      rw [List.foldlM_cons] at ran
      obtain ⟨b₁, first, rest⟩ := Option.bind_eq_some_iff.1 ran
      exact ih (step b a b₁ start first) rest

theorem foldlM_of_some {l : List α} {f : β → α → Option β} {g : β → α → β} {P : β → Prop}
    (step : ∀ b a, P b → f b a = some (g b a)) (kept : ∀ b a, P b → P (g b a)) {b : β} (start : P b) :
    l.foldlM f b = some (l.foldl g b) ∧ P (l.foldl g b) := by
  induction l generalizing b with
  | nil => exact ⟨rfl, start⟩
  | cons a l ih =>
      rw [List.foldlM_cons, step b a start]
      exact ih (kept b a start)

/-! ## Two computations -/

def Matched (R : α → β → Prop) : Except ε α → Except ε β → Prop
  | .ok a, .ok b => R a b
  | .error fault, .error fault' => fault' = fault
  | _, _ => False

section
variable {α' β' : Type} {R : α → β → Prop} {S : α' → β' → Prop} {x : Except ε α} {y : Except ε β}

theorem Matched.of_eq {R : α → α → Prop} {x y : Except ε α} (same : y = x) (refl : ∀ a, R a a) :
    Matched R x y := by
  subst same
  cases y with
  | error fault => exact rfl
  | ok a => exact refl a

theorem Matched.bind (h : Matched R x y) {f : α → Except ε α'} {g : β → Except ε β'}
    (next : ∀ a b, x = .ok a → y = .ok b → R a b → Matched S (f a) (g b)) :
    Matched S (x >>= f) (y >>= g) := by
  cases x with
  | error fault =>
      cases y with
      | error fault' => exact h
      | ok b => exact h.elim
  | ok a =>
      cases y with
      | error fault' => exact h.elim
      | ok b => exact next a b rfl rfl h

theorem Matched.map (h : Matched R x y) {f : α → α'} {g : β → β'}
    (next : ∀ a b, x = .ok a → y = .ok b → R a b → S (f a) (g b)) : Matched S (x.map f) (y.map g) := by
  cases x with
  | error fault =>
      cases y with
      | error fault' => exact h
      | ok b => exact h.elim
  | ok a =>
      cases y with
      | error fault' => exact h.elim
      | ok b => exact next a b rfl rfl h

theorem Matched.map_eq {γ : Type} (h : Matched R x y) {f : α → γ} {g : β → γ}
    (same : ∀ a b, R a b → g b = f a) : y.map g = x.map f := by
  cases x with
  | error fault =>
      cases y with
      | error fault' => exact congrArg Except.error h
      | ok b => exact h.elim
  | ok a =>
      cases y with
      | error fault' => exact h.elim
      | ok b => exact congrArg Except.ok (same a b h)

end

/-! ## Two computations of which one may crash alone -/

/-- Both come to the same end, with related results if they succeed. The one may also crash alone where
the result of the other allows it. -/
def Parallel (R : α → β → Prop) (P : α → Prop) (Q : β → Prop) : Attempt ε α → Attempt ε β → Prop
  | .ok a, .ok b => R a b
  | .ok a, .error halt => halt = .crash ∧ P a
  | .error halt, .ok b => halt = .crash ∧ Q b
  | .error halt, .error halt' => halt' = halt

section
variable {α' β' : Type} {R : α → β → Prop} {S : α' → β' → Prop} {P : α → Prop} {Q : β → Prop}
  {P' : α' → Prop} {Q' : β' → Prop}

theorem Matched.ofExcept {x : Except ε α} {y : Except ε β} (h : Matched R x y) :
    Matched R (Attempt.ofExcept x) (Attempt.ofExcept y) := by
  cases x with
  | error fault =>
      cases y with
      | error fault' => exact congrArg Halt.fault h
      | ok b => exact h.elim
  | ok a =>
      cases y with
      | error fault' => exact h.elim
      | ok b => exact h

variable {x : Attempt ε α} {y : Attempt ε β}

theorem Matched.parallel (h : Matched R x y) : Parallel R P Q x y := by
  cases x with
  | error halt =>
      cases y with
      | error halt' => exact h
      | ok b => exact h.elim
  | ok a =>
      cases y with
      | error halt' => exact h.elim
      | ok b => exact h

theorem matched_ofOption {γ : Type} {f : α → γ} {o o' : Option α} (same : o'.map f = o.map f) :
    Matched (fun a b => f b = f a) (Attempt.ofOption o : Attempt ε α) (Attempt.ofOption o') := by
  cases o with
  | none =>
      rw [Option.map_none, Option.map_eq_none_iff] at same
      rw [same]
      exact rfl
  | some a =>
      obtain ⟨b, rfl, value⟩ := Option.map_eq_some_iff.1 same
      exact value

theorem Matched.bind_parallel (h : Matched R x y) {f : α → Attempt ε α'} {g : β → Attempt ε β'}
    (next : ∀ a b, x = .ok a → y = .ok b → R a b → Parallel S P' Q' (f a) (g b)) :
    Parallel S P' Q' (x >>= f) (y >>= g) := by
  cases x with
  | error halt =>
      cases y with
      | error halt' => exact h
      | ok b => exact h.elim
  | ok a =>
      cases y with
      | error halt' => exact h.elim
      | ok b => exact next a b rfl rfl h

theorem Parallel.mono (h : Parallel R P Q x y) {R' : α → β → Prop} (weaker : ∀ a b, R a b → R' a b) :
    Parallel R' P Q x y := by
  cases x with
  | error halt => cases y <;> exact h
  | ok a =>
      cases y with
      | error halt' => exact h
      | ok b => exact weaker a b h

theorem Parallel.bind (h : Parallel R P Q x y) {f : α → Attempt ε α'} {g : β → Attempt ε β'}
    (both : ∀ a b, x = .ok a → y = .ok b → R a b → Parallel S P' Q' (f a) (g b))
    (left : ∀ a, x = .ok a → P a → Parallel S P' Q' (f a) (.error .crash))
    (right : ∀ b, y = .ok b → Q b → Parallel S P' Q' (.error .crash) (g b)) :
    Parallel S P' Q' (x >>= f) (y >>= g) := by
  cases x with
  | error halt =>
      cases y with
      | error halt' => exact h
      | ok b =>
          obtain ⟨rfl, alone⟩ := h
          exact right b rfl alone
  | ok a =>
      cases y with
      | error halt' =>
          obtain ⟨rfl, alone⟩ := h
          exact left a rfl alone
      | ok b => exact both a b rfl rfl h

theorem Parallel.map (h : Parallel R P Q x y) {f : α → α'} {g : β → β'}
    (both : ∀ a b, x = .ok a → y = .ok b → R a b → S (f a) (g b)) (left : ∀ a, x = .ok a → P a → P' (f a))
    (right : ∀ b, y = .ok b → Q b → Q' (g b)) : Parallel S P' Q' (x.map f) (y.map g) :=
  h.bind both (fun a ok alone => ⟨rfl, left a ok alone⟩) fun b ok alone => ⟨rfl, right b ok alone⟩

theorem Parallel.matched (h : Parallel R P Q x y) (left : ∀ a, ¬ P a) (right : ∀ b, ¬ Q b) :
    Matched R x y := by
  cases x with
  | error halt =>
      cases y with
      | error halt' => exact h
      | ok b => exact right b h.2
  | ok a =>
      cases y with
      | error halt' => exact left a h.2
      | ok b => exact h

theorem parallel_ofOption {o : Option α} {o' : Option β} {P : α → Prop} {Q : β → Prop}
    (both : ∀ a b, o = some a → o' = some b → R a b) (left : ∀ a, o = some a → P a → o'.isSome = true)
    (right : ∀ b, o' = some b → Q b → o.isSome = true) :
    Parallel R (¬ P ·) (¬ Q ·) (Attempt.ofOption o : Attempt ε α) (Attempt.ofOption o') := by
  cases o with
  | none =>
      cases o' with
      | none => exact rfl
      | some b => exact ⟨rfl, fun holds => Bool.false_ne_true (right b rfl holds)⟩
  | some a =>
      cases o' with
      | none => exact ⟨rfl, fun holds => Bool.false_ne_true (left a rfl holds)⟩
      | some b => exact both a b rfl rfl

end

end Spreadsheet
