namespace Spreadsheet

theorem length_filter_lt {α : Type} {p q : α → Bool} {xs : List α} (sub : ∀ x, q x → p x)
    {a : α} (mem : a ∈ xs) (ha : p a) (hna : ¬ q a) :
    (xs.filter q).length < (xs.filter p).length := by
  have le : ∀ ys : List α, (ys.filter q).length ≤ (ys.filter p).length := fun ys => by
    rw [← List.countP_eq_length_filter, ← List.countP_eq_length_filter]
    exact List.countP_mono_left fun y _ => sub y
  obtain ⟨front, back, rfl⟩ := List.append_of_mem mem
  have hf := le front
  have hb := le back
  simp only [List.filter_append, List.length_append, List.filter_cons, ha, hna, ↓reduceIte,
    List.length_cons, Bool.false_eq_true]
  omega

end Spreadsheet
