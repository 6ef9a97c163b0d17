import Spreadsheet.Eval.Lookup
import Spreadsheet.Proofs.Eval.Order

/-!
# The best match

A scan for a key ends with the best candidate there is, whether the candidates are sorted or not and
whatever their kinds. What has been seen of them stands in a fixed relation to the best so far.
-/

namespace Spreadsheet.Lookup
open CellValue (SortKey)

/-! ## What a match is -/

/-- The candidate is of the kind of the key, and equal to it or on the side of it that is asked for. -/
def Suits (mode : MatchMode) (key c : CellValue) : Prop :=
  sameKind c key = true ∧
    match mode with
    | .exact => c.compare key = .eq
    | .nextSmaller => c.compare key ≠ .gt
    | .nextLarger => c.compare key ≠ .lt

/-- The candidate `c` at `i` is a better match than `d` at `j`, if both suit the key: it is in front of
it, or it is nearer to the key. Of two that are equally near it is the later one. -/
def Beats (mode : MatchMode) (i : Nat) (c : CellValue) (j : Nat) (d : CellValue) : Prop :=
  match mode with
  | .exact => i < j
  | .nextSmaller => d.compare c ≠ .gt ∧ (i < j → d.compare c = .lt)
  | .nextLarger => d.compare c ≠ .lt ∧ (i < j → d.compare c = .gt)

structure IsBest (mode : MatchMode) (key : CellValue) (candidates : List CellValue) (i : Nat)
    (c : CellValue) : Prop where
  found : candidates[i]? = some c
  suits : Suits mode key c
  beats : ∀ j d, candidates[j]? = some d → Suits mode key d → j ≠ i → Beats mode i c j d

def IsMatch (mode : MatchMode) (key : CellValue) (candidates : List CellValue) (i : Nat) : Prop :=
  ∃ c, IsBest mode key candidates i c

variable {mode : MatchMode} {key c d : CellValue} {i j : Nat} {seen rest : List CellValue}
  {best : Option (Nat × CellValue)}

theorem suits_iff : Suits mode key c ↔ (sameKind c key && qualifies mode key c) = true := by
  cases mode <;> simp [Suits, qualifies]

theorem sameKind_blank (same : sameKind c key = true) : c = .empty ↔ key = .empty := by
  cases c <;> cases key <;> first | contradiction | simp

/-! ## Nearness in terms of the sort keys -/

theorem Suits.compare_eq (hc : Suits mode key c) (hd : Suits mode key d) (numberC : c.isNaN = false)
    (numberD : d.isNaN = false) : c.compare d = compare c.sortKey d.sortKey :=
  CellValue.compare_eq_sortKey numberC numberD ((sameKind_blank hc.1).trans (sameKind_blank hd.1).symm)

def Nearer (mode : MatchMode) (a b : SortKey) : Prop :=
  match mode with
  | .exact => False
  | .nextSmaller => b ≤ a
  | .nextLarger => a ≤ b

theorem improves_iff (hc : Suits mode key c) (hd : Suits mode key d) (numberC : c.isNaN = false)
    (numberD : d.isNaN = false) : improves mode c d = true ↔ Nearer mode c.sortKey d.sortKey := by
  cases mode with
  | exact => simp [improves, Nearer]
  | nextSmaller =>
      rw [improves, hc.compare_eq hd numberC numberD, bne_iff_ne]
      exact compare_ge_iff_ge
  | nextLarger =>
      rw [improves, hc.compare_eq hd numberC numberD, bne_iff_ne]
      exact compare_le_iff_le

theorem beats_iff (approximate : mode ≠ .exact) (hc : Suits mode key c) (hd : Suits mode key d)
    (numberC : c.isNaN = false) (numberD : d.isNaN = false) :
    Beats mode i c j d ↔
      Nearer mode c.sortKey d.sortKey ∧ (i < j → ¬ Nearer mode d.sortKey c.sortKey) := by
  cases mode with
  | exact => exact absurd rfl approximate
  | nextSmaller =>
      rw [Beats, hd.compare_eq hc numberD numberC, compare_lt_iff_lt, compare_le_iff_le]
      simp only [Nearer, not_le]
  | nextLarger =>
      rw [Beats, hd.compare_eq hc numberD numberC, compare_gt_iff_gt, compare_ge_iff_ge]
      simp only [Nearer, not_le]

theorem Nearer.trans {a b c : SortKey} (first : Nearer mode a b) (second : Nearer mode b c) :
    Nearer mode a c := by
  cases mode with
  | exact => exact first
  | nextSmaller => exact le_trans second first
  | nextLarger => exact le_trans first second

theorem nearer_total (approximate : mode ≠ .exact) {a b : SortKey} (h : ¬ Nearer mode a b) :
    Nearer mode b a := by
  cases mode with
  | exact => exact absurd rfl approximate
  | nextSmaller => exact le_of_not_ge h
  | nextLarger => exact le_of_not_ge h

/-! ## The scan -/

def Standing (mode : MatchMode) (key : CellValue) (seen : List CellValue) :
    Option (Nat × CellValue) → Prop
  | none => ∀ c ∈ seen, ¬ Suits mode key c
  | some (i, c) => IsBest mode key seen i c

theorem getElem?_snoc {x : CellValue} (h : (seen ++ [c])[j]? = some x) :
    (j < seen.length ∧ seen[j]? = some x) ∨ (j = seen.length ∧ x = c) := by
  rcases lt_trichotomy j seen.length with before | here | behind
  · rw [List.getElem?_append_left before] at h
    exact .inl ⟨before, h⟩
  · subst here
    rw [List.getElem?_concat_length] at h
    exact .inr ⟨rfl, (Option.some.inj h).symm⟩
  · rw [List.getElem?_eq_none (by simpa using behind)] at h
    cases h

theorem IsBest.lt (h : IsBest mode key seen i c) : i < seen.length :=
  (List.getElem?_eq_some_iff.1 h.found).1

theorem IsBest.append (h : IsBest mode key seen i c)
    (later : ∀ j d, seen.length ≤ j → (seen ++ rest)[j]? = some d → Suits mode key d →
      Beats mode i c j d) : IsBest mode key (seen ++ rest) i c := by
  refine ⟨?_, h.suits, fun j d found suits other => ?_⟩
  · rw [List.getElem?_append_left h.lt]
    exact h.found
  · by_cases before : j < seen.length
    · rw [List.getElem?_append_left before] at found
      exact h.beats j d found suits other
    · exact later j d (Nat.le_of_not_lt before) found suits

theorem Standing.skip (h : Standing mode key seen best) (unsuited : ¬ Suits mode key c) :
    Standing mode key (seen ++ [c]) best := by
  cases best with
  | none =>
      intro d mem
      rcases List.mem_append.1 mem with before | here
      · exact h d before
      · rw [List.mem_singleton.1 here]
        exact unsuited
  | some b =>
      refine IsBest.append h fun j d behind found suits => ?_
      rcases getElem?_snoc found with ⟨before, _⟩ | ⟨_, rfl⟩
      · exact absurd before (Nat.not_lt_of_le behind)
      · exact absurd suits unsuited

theorem Standing.first (h : Standing mode key seen none) (suits : Suits mode key c) :
    Standing mode key (seen ++ [c]) (some (seen.length, c)) := by
  refine ⟨List.getElem?_concat_length, suits, fun j d found suits other => ?_⟩
  rcases getElem?_snoc found with ⟨_, before⟩ | ⟨here, _⟩
  · exact absurd suits (h d (List.mem_of_getElem? before))
  · exact absurd here other

section
variable (numbers : ∀ d ∈ seen, d.isNaN = false) (number : c.isNaN = false)
include numbers number

theorem Standing.replace (h : Standing mode key seen (some (i, d))) (suits : Suits mode key c)
    (better : improves mode c d = true) :
    Standing mode key (seen ++ [c]) (some (seen.length, c)) := by
  have approximate : mode ≠ .exact := by
    rintro rfl
    cases better
  have numberD := numbers d (List.mem_of_getElem? h.found)
  have nearer := (improves_iff suits h.suits number numberD).1 better
  refine ⟨List.getElem?_concat_length, suits, fun j x found suitsX other => ?_⟩
  rcases getElem?_snoc found with ⟨before, seenX⟩ | ⟨here, _⟩
  · have numberX := numbers x (List.mem_of_getElem? seenX)
    refine (beats_iff approximate suits suitsX number numberX).2
      ⟨?_, fun behind => absurd behind (Nat.lt_asymm before)⟩
    by_cases same : j = i
    · subst same
      cases Option.some.inj (seenX.symm.trans h.found)
      exact nearer
    · exact nearer.trans
        ((beats_iff approximate h.suits suitsX numberD numberX).1 (h.beats j x seenX suitsX same)).1
  · exact absurd here other

theorem Standing.keep (h : Standing mode key seen (some (i, d))) (approximate : mode ≠ .exact)
    (worse : improves mode c d = false) : Standing mode key (seen ++ [c]) (some (i, d)) := by
  refine IsBest.append h fun j x behind found suitsX => ?_
  rcases getElem?_snoc found with ⟨before, _⟩ | ⟨_, rfl⟩
  · exact absurd before (Nat.not_lt_of_le behind)
  · have numberD := numbers d (List.mem_of_getElem? h.found)
    have far : ¬ Nearer mode x.sortKey d.sortKey := by
      rw [← improves_iff suitsX h.suits number numberD, worse]
      exact Bool.false_ne_true
    exact (beats_iff approximate h.suits suitsX numberD number).2
      ⟨nearer_total approximate far, fun _ => far⟩

end

theorem IsBest.append_exact (h : IsBest .exact key seen i c) : IsBest .exact key (seen ++ rest) i c :=
  h.append fun _ _ behind _ _ => h.lt.trans_le behind

theorem search_standing (numbers : ∀ c ∈ seen ++ rest, c.isNaN = false)
    (exactly : mode = .exact → best = none) (h : Standing mode key seen best) :
    ∃ final, Standing mode key (seen ++ rest) final ∧
      search mode key seen.length best rest = final.map (·.1) := by
  -- The candidates go over from those to come to those seen one by one.
  induction rest generalizing seen best with
  | nil => exact ⟨best, by rwa [List.append_nil], rfl⟩
  | cons c rest ih =>
      have whole : seen ++ c :: rest = (seen ++ [c]) ++ rest := by simp
      have length : seen.length + 1 = (seen ++ [c]).length := by simp
      have number : c.isNaN = false := numbers c (by simp)
      have before : ∀ d ∈ seen, d.isNaN = false := fun d mem => numbers d (List.mem_append_left _ mem)
      rw [whole] at numbers ⊢
      rw [search, length]
      by_cases suits : Suits mode key c
      · rw [suits_iff.1 suits, Bool.true_and]
        by_cases exact : mode = .exact
        · subst exact
          rw [exactly rfl] at h ⊢
          exact ⟨some (seen.length, c), IsBest.append_exact (h.first suits), rfl⟩
        · rw [if_neg exact]
          cases best with
          | none => exact ih numbers (absurd · exact) (h.first suits)
          | some b =>
              obtain ⟨i, d⟩ := b
              rw [Option.all_some]
              cases better : improves mode c d with
              | true => exact ih numbers (absurd · exact) (h.replace before number suits better)
              | false => exact ih numbers exactly (h.keep before number exact better)
      · rw [Bool.eq_false_iff.2 (mt suits_iff.2 suits), Bool.false_and, if_neg Bool.false_ne_true]
        exact ih numbers exactly (h.skip suits)

/-! ## The result -/

theorem IsBest.unique {candidates : List CellValue} (numbers : ∀ c ∈ candidates, c.isNaN = false)
    (first : IsBest mode key candidates i c) (second : IsBest mode key candidates j d) : i = j := by
  by_contra other
  have beats := first.beats j d second.found second.suits (Ne.symm other)
  have beats' := second.beats i c first.found first.suits other
  by_cases exact : mode = .exact
  · subst exact
    exact Nat.lt_asymm beats beats'
  · have numberC := numbers c (List.mem_of_getElem? first.found)
    have numberD := numbers d (List.mem_of_getElem? second.found)
    rw [beats_iff exact first.suits second.suits numberC numberD] at beats
    rw [beats_iff exact second.suits first.suits numberD numberC] at beats'
    rcases Nat.lt_or_gt_of_ne other with before | behind
    · exact beats.2 before beats'.1
    · exact beats'.2 behind beats.1

/-- Whatever the order and the kinds of the candidates, the match that is found is the best one: the
first that equals the key, or the nearest on its side and the last of these. There is none only where
no candidate suits the key. -/
theorem findPosition_best (mode : MatchMode) (key : CellValue) {candidates : List CellValue}
    (numbers : ∀ c ∈ candidates, c.isNaN = false) :
    (∀ i, findPosition key candidates mode = some i ↔ IsMatch mode key candidates i) ∧
    (findPosition key candidates mode = none ↔ ∀ c ∈ candidates, ¬ Suits mode key c) := by
  have start : Standing mode key [] none := fun c mem => nomatch mem
  obtain ⟨final, standing, result⟩ : ∃ final, Standing mode key candidates final ∧
      search mode key 0 none candidates = final.map (·.1) :=
    search_standing numbers (fun _ => rfl) start
  rw [findPosition, result]
  cases final with
  | none =>
      refine ⟨fun i => ⟨?_, ?_⟩, ⟨fun _ => standing, fun _ => rfl⟩⟩
      · intro found
        cases found
      · rintro ⟨c, isBest⟩
        exact absurd isBest.suits (standing c (List.mem_of_getElem? isBest.found))
  | some b =>
      obtain ⟨i, c⟩ := b
      refine ⟨fun j => ⟨?_, ?_⟩, ⟨?_, ?_⟩⟩
      · intro found
        cases found
        exact ⟨c, standing⟩
      · rintro ⟨d, isBest⟩
        exact congrArg some (standing.unique numbers isBest)
      · intro found
        cases found
      · intro unsuited
        exact absurd standing.suits (unsuited c (List.mem_of_getElem? standing.found))

def breaks : List CellValue :=
  [.text "from", .number 20, .number 10, .number 20, .boolean true, .number 50]

theorem breaks_matched :
    (∀ c ∈ breaks, c.isNaN = false) ∧ IsMatch .nextSmaller (.number 25) breaks 3 ∧
      (findPosition (.text "to") breaks .exact = none ∧
        ∀ c ∈ breaks, ¬ Suits .exact (.text "to") c) := by
  have numbers : ∀ c ∈ breaks, c.isNaN = false := by decide +kernel
  have found : findPosition (.number 25) breaks .nextSmaller = some 3 := by decide +kernel
  have missing : findPosition (.text "to") breaks .exact = none := by decide +kernel
  exact ⟨numbers, ((findPosition_best .nextSmaller (.number 25) numbers).1 3).1 found, missing,
    (findPosition_best .exact (.text "to") numbers).2.1 missing⟩

end Spreadsheet.Lookup
