import Spreadsheet.Graph.Countdown
import Spreadsheet.Proofs.Graph.Layers

namespace Spreadsheet

namespace Countdown
variable {c mid c' : Countdown} {p : Position} {ps qs : List Position}

def Suffices (c : Countdown) (ps : List Position) : Prop :=
  ∀ q n, c.waiting[q]? = some n → ps.count q ≤ n

/-- Every counter falls by the number of times its cell is met, and its cell gets ready if that uses
it up. -/
structure Arrived (c c' : Countdown) (ps : List Position) : Prop where
  waiting : ∀ q, c'.waiting[q]? = c.waiting[q]?.map (· - ps.count q)
  ready : ∀ q, q ∈ c'.ready ↔ q ∈ c.ready ∨ ∃ n, c.waiting[q]? = some n ∧ 0 < n ∧ ps.count q = n

theorem Arrived.nil (c : Countdown) : Arrived c c [] := by
  refine ⟨fun q => by simp, fun q => ?_⟩
  constructor
  · exact .inl
  · rintro (old | ⟨n, _, positive, used⟩)
    · exact old
    · rw [List.count_nil] at used
      omega

theorem Suffices.rest (enough : c.Suffices (ps ++ qs)) (h : Arrived c mid ps) : mid.Suffices qs := by
  intro q n found
  rw [h.waiting] at found
  obtain ⟨m, old, rfl⟩ := Option.map_eq_some_iff.1 found
  have used := enough q m old
  rw [List.count_append] at used
  omega

theorem Arrived.append (h : Arrived c mid ps) (h' : Arrived mid c' qs)
    (enough : c.Suffices (ps ++ qs)) : Arrived c c' (ps ++ qs) := by
  refine ⟨fun q => ?_, fun q => ?_⟩
  · rw [h'.waiting, h.waiting, Option.map_map, List.count_append]
    congr 1
    funext n
    exact Nat.sub_sub n _ _
  · rw [h'.ready, h.ready, h.waiting, or_assoc, List.count_append]
    refine or_congr Iff.rfl ?_
    cases found : c.waiting[q]? with
    | none => simp
    | some n =>
        have used := enough q n found
        rw [List.count_append] at used
        simp only [Option.some.injEq, Option.map_some, exists_eq_left']
        omega

theorem arrive_of_suffices (enough : c.Suffices [p]) :
    ∃ c', c.arrive p = some c' ∧ Arrived c c' [p] := by
  unfold arrive
  split
  · rename_i none
    refine ⟨c, rfl, fun q => ?_, fun q => ?_⟩
    · by_cases same : q = p
      · rw [same, none]
        rfl
      · simp [Ne.symm same]
    · by_cases same : q = p
      · simp [same, none]
      · simp [Ne.symm same]
  · rename_i zero
    have used := enough p 0 zero
    simp at used
  · rename_i n found
    refine ⟨_, rfl, fun q => ?_, fun q => ?_⟩
    · rw [OrderedMap.insert_at]
      by_cases same : q = p
      · simp [same, found]
      · simp [same, Ne.symm same]
    · by_cases same : q = p
      · cases n <;> simp [same, found]
      · cases n <;> simp [Ne.symm same]

theorem arriveAll_of_suffices (enough : c.Suffices ps) :
    ∃ c', c.arriveAll ps = some c' ∧ Arrived c c' ps := by
  induction ps generalizing c with
  | nil => exact ⟨c, rfl, .nil c⟩
  | cons p ps ih =>
      have first : c.Suffices [p] := fun q n found =>
        Nat.le_trans (List.Sublist.count_le q (List.singleton_sublist.2 List.mem_cons_self))
          (enough q n found)
      obtain ⟨mid, goes, arrived⟩ := arrive_of_suffices first
      obtain ⟨c', later, arrived'⟩ := ih
        (Suffices.rest (show c.Suffices ([p] ++ ps) from enough) arrived)
      refine ⟨c', ?_, arrived.append arrived' enough⟩
      unfold arriveAll at later ⊢
      rw [List.foldlM_cons, goes]
      exact later

end Countdown

namespace Graph
variable {g : Graph} {cells left : PositionSet} {c : Countdown}

theorem degreeIn_eq_countP (g : Graph) (cells : PositionSet) (p : Position) :
    g.degreeIn cells p = cells.toList.countP fun q => g.Edge q p := by
  unfold degreeIn
  rw [List.countP_eq_length_filter, List.countP_eq_length_filter]
  refine List.Perm.length_eq ((List.perm_ext_iff_of_nodup ?_ ?_).2 fun q => ?_)
  · exact (PositionSet.nodup_toList _).filter _
  · exact (PositionSet.nodup_toList _).filter _
  · rw [List.mem_filter, List.mem_filter, Std.ExtTreeSet.mem_toList, Std.ExtTreeSet.mem_toList,
      Std.ExtTreeSet.contains_iff_mem, decide_eq_true_iff]
    exact and_comm

theorem degreeIn_eq_zero {p : Position} :
    g.degreeIn left p = 0 ↔ g.isReady left p = true := by
  rw [degreeIn_eq_countP, List.countP_eq_zero, isReady_iff]
  simp only [Std.ExtTreeSet.mem_toList, decide_eq_true_iff]

theorem Mirrored.count_dependents (h : g.Mirrored) (ps : List Position) (q : Position) :
    (ps.flatMap fun p => (g.dependents.of p).toList).count q = ps.countP fun p => g.Edge p q := by
  induction ps with
  | nil => rfl
  | cons p ps ih =>
      have once : (g.dependents.of p).toList.count q = if g.Edge p q then 1 else 0 := by
        rw [(PositionSet.nodup_toList _).count]
        exact if_congr (Std.ExtTreeSet.mem_toList.trans (h p q).symm) rfl rfl
      rw [List.flatMap_cons, List.count_append, ih, once, List.countP_cons, Nat.add_comm]
      simp

theorem degreeIn_rest (h : g.Mirrored) (left : PositionSet) (q : Position) :
    g.degreeIn left q =
      ((left.filter (g.isReady left)).toList.flatMap fun p => (g.dependents.of p).toList).count q +
        g.degreeIn (left.filter fun p => !g.isReady left p) q := by
  rw [h.count_dependents, degreeIn_eq_countP, degreeIn_eq_countP, Std.ExtTreeSet.toList_filter,
    Std.ExtTreeSet.toList_filter]
  exact List.countP_eq_countP_filter_add _ _ _

structure Tracks (g : Graph) (cells left : PositionSet) (c : Countdown) : Prop where
  among : ∀ p ∈ left, p ∈ cells
  inside : ∀ p ∈ cells, c.waiting[p]? = some (g.degreeIn left p)
  outside : ∀ p, ¬ p ∈ cells → c.waiting[p]? = none
  placed : ∀ p ∈ cells, ¬ p ∈ left → g.degreeIn left p = 0
  ready : c.ready = left.filter (g.isReady left)

theorem tracks_countdown (g : Graph) (cells : PositionSet) :
    g.Tracks cells cells (g.countdown cells) := by
  have inside : ∀ p ∈ cells, (g.degrees cells)[p]? = some (g.degreeIn cells p) := by
    intro p mem
    refine OrderedMap.ofList_at_of_mem ?_ (List.mem_map.2 ⟨p, Std.ExtTreeSet.mem_toList.2 mem, rfl⟩)
    exact List.pairwise_map.2 (PositionSet.nodup_toList cells)
  have among : ∀ p n, (g.degrees cells)[p]? = some n → p ∈ cells := by
    intro p n found
    obtain ⟨q, mem, same⟩ := List.mem_map.1 (OrderedMap.mem_of_ofList_at found)
    cases same
    exact Std.ExtTreeSet.mem_toList.1 mem
  refine ⟨fun _ mem => mem, inside, fun p absent => ?_, fun p mem absent => absurd mem absent, ?_⟩
  · exact Option.eq_none_iff_forall_ne_some.2 fun n found => absent (among p n found)
  · apply Std.ExtTreeSet.ext_mem
    intro p
    rw [PositionSet.mem_filter_iff, ← degreeIn_eq_zero]
    unfold countdown
    rw [PositionSet.mem_ofList_iff, PositionMap.mem_keys_iff]
    rw [Std.ExtTreeMap.getElem?_filter, Option.pfilter_eq_filter]
    simp only [Option.filter_eq_some_iff, beq_iff_eq]
    constructor
    · rintro ⟨n, found, zero⟩
      have mem := among p n found
      rw [inside p mem] at found
      exact ⟨mem, (Option.some.inj found).trans zero⟩
    · rintro ⟨mem, zero⟩
      exact ⟨_, inside p mem, zero⟩

theorem Tracks.counted (h : g.Tracks cells left c) {p : Position} {n : Nat}
    (found : c.waiting[p]? = some n) : p ∈ cells ∧ n = g.degreeIn left p := by
  by_cases mem : p ∈ cells
  · rw [h.inside p mem] at found
    exact ⟨mem, (Option.some.inj found).symm⟩
  · rw [h.outside p mem] at found
    cases found

theorem Tracks.remains (h : g.Tracks cells left c) {p : Position} (mem : p ∈ cells)
    (positive : g.degreeIn left p ≠ 0) : p ∈ left :=
  Classical.byContradiction fun absent => positive (h.placed p mem absent)

theorem Tracks.place (h : g.Tracks cells left c) (mirrored : g.Mirrored) :
    ∃ c', g.place c = some c' ∧ g.Tracks cells (left.filter fun p => !g.isReady left p) c' := by
  have split := degreeIn_rest mirrored left
  have enough : ({ c with ready := ∅ } : Countdown).Suffices
      ((left.filter (g.isReady left)).toList.flatMap fun p => (g.dependents.of p).toList) := by
    intro q n found
    rw [(h.counted found).2, split q]
    omega
  unfold Graph.place
  rw [h.ready]
  obtain ⟨c', goes, counters, ready⟩ := Countdown.arriveAll_of_suffices enough
  refine ⟨c', goes, ?_, ?_, ?_, ?_, ?_⟩
  · exact fun p rest => h.among p ((PositionSet.mem_filter_iff _ _ _).1 rest).1
  · intro q mem
    rw [counters, h.inside q mem, split q]
    simp
  · intro q absent
    rw [counters, h.outside q absent]
    rfl
  · intro q mem absent
    have none : g.degreeIn left q = 0 := by
      by_cases remains : q ∈ left
      · rw [degreeIn_eq_zero]
        rw [PositionSet.mem_filter_iff, Bool.not_eq_true'] at absent
        exact Bool.not_eq_false _ ▸ fun behind => absent ⟨remains, behind⟩
      · exact h.placed q mem remains
    have := split q
    omega
  · apply Std.ExtTreeSet.ext_mem
    intro q
    rw [ready, PositionSet.mem_filter_iff, PositionSet.mem_filter_iff, ← degreeIn_eq_zero,
      Bool.not_eq_true', ← Bool.not_eq_true, ← degreeIn_eq_zero]
    constructor
    · rintro (none | ⟨n, found, positive, used⟩)
      · exact absurd none (PositionSet.not_mem_empty q)
      · obtain ⟨mem, rfl⟩ := h.counted found
        have := split q
        exact ⟨⟨h.remains mem (Nat.pos_iff_ne_zero.1 positive), by omega⟩, by omega⟩
    · rintro ⟨⟨remains, positive⟩, zero⟩
      have := split q
      exact .inr ⟨_, h.inside q (h.among q remains), by omega, by omega⟩

theorem Tracks.placeAll (h : g.Tracks cells left c) (mirrored : g.Mirrored) :
    ∃ layers last rest, g.placeAll c = some (layers, last) ∧ g.Tracks cells rest last ∧
      (rest.filter (g.isReady rest)).isEmpty = true ∧
      g.levels left = layers ++ (if rest.isEmpty then [] else [rest.toList]) ∧
      layers.flatten.length + rest.size = left.size := by
  fun_induction levels g left generalizing c with
  | case1 left none empty =>
      refine ⟨[], c, left, ?_, h, none, ?_, ?_⟩
      · unfold Graph.placeAll
        rw [dif_pos (by rw [h.ready]; exact none)]
      · rw [if_pos empty]
        rfl
      · simp
  | case2 left none some =>
      refine ⟨[], c, left, ?_, h, none, ?_, ?_⟩
      · unfold Graph.placeAll
        rw [dif_pos (by rw [h.ready]; exact none)]
      · rw [if_neg some]
        rfl
      · simp
  | case3 left some less ih =>
      obtain ⟨next, goes, tracks⟩ := h.place mirrored
      obtain ⟨layers, last, rest, runs, ends, none, split, total⟩ := ih tracks
      refine ⟨c.ready.toList :: layers, last, rest, ?_, ends, none, ?_, ?_⟩
      · rw [Graph.placeAll, dif_neg (by rw [h.ready]; exact some)]
        split
        · rename_i none
          rw [goes] at none
          cases none
        · rename_i found
          rw [goes] at found
          cases found
          rw [runs]
          rfl
      · rw [split, h.ready]
        rfl
      · have parts := (List.filter_append_perm (g.isReady left) left.toList).length_eq
        rw [List.length_append, ← Std.ExtTreeSet.toList_filter, ← Std.ExtTreeSet.toList_filter,
          Std.ExtTreeSet.length_toList, Std.ExtTreeSet.length_toList, Std.ExtTreeSet.length_toList]
          at parts
        rw [List.flatten_cons, List.length_append, h.ready, Std.ExtTreeSet.length_toList]
        omega

theorem Tracks.keys_behind (h : g.Tracks cells left c)
    (none : (left.filter (g.isReady left)).isEmpty = true) : c.behind.keys = left.toList := by
  have same : ∀ p, p ∈ c.behind.keys ↔ p ∈ left.toList := by
    intro p
    rw [PositionMap.mem_keys_iff, Std.ExtTreeSet.mem_toList]
    simp only [Countdown.behind_at, Option.filter_eq_some_iff, bne_iff_ne]
    constructor
    · rintro ⟨n, found, positive⟩
      obtain ⟨mem, rfl⟩ := h.counted found
      exact h.remains mem positive
    · intro remains
      refine ⟨_, h.inside p (h.among p remains), fun zero => ?_⟩
      exact (PositionSet.isEmpty_iff _).1 none p
        ((PositionSet.mem_filter_iff _ _ _).2 ⟨remains, degreeIn_eq_zero.1 zero⟩)
  refine List.Perm.eq_of_pairwise ?_ Std.ExtTreeMap.ordered_keys Std.ExtTreeSet.ordered_toList
    ((List.perm_ext_iff_of_nodup (PositionMap.keys_nodup _) (PositionSet.nodup_toList _)).2 same)
  intro p q _ _ before after
  rw [Position.compare_eq_lt_iff] at before after
  omega

theorem Mirrored.countedLevels_eq (h : g.Mirrored) (cells : PositionSet) :
    g.countedLevels cells = some (g.levels cells) := by
  obtain ⟨layers, last, rest, runs, ends, none, split, total⟩ :=
    (tracks_countdown g cells).placeAll h
  unfold countedLevels
  rw [runs, Option.map_some, split]
  dsimp only
  rw [ends.keys_behind none]
  by_cases empty : rest.isEmpty = true
  · have zero : rest.size = 0 := by simpa [Std.ExtTreeSet.isEmpty_eq_size_beq_zero] using empty
    rw [if_pos empty, if_neg (by omega), List.append_nil]
  · have positive : rest.size ≠ 0 := by simpa [Std.ExtTreeSet.isEmpty_eq_size_beq_zero] using empty
    rw [if_neg empty, if_pos (by omega)]

end Graph

end Spreadsheet
