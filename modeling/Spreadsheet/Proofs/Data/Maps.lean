import Std.Data.ExtTreeMap

namespace Spreadsheet.OrderedMap
variable {κ α : Type} [Ord κ]

theorem foldl_eq_length [Std.TransOrd κ] {β : Type} (m : Std.ExtTreeMap κ α) {size : α → Nat} {f : κ × α → List β}
    (lengths : ∀ e, (f e).length = size e.2) :
    m.foldl (fun total _ x => total + size x) 0 = (m.toList.flatMap f).length := by
  have total : ∀ (entries : List (κ × α)) start,
      entries.foldl (fun total e => total + size e.2) start = start + (entries.flatMap f).length := by
    intro entries
    induction entries with
    | nil => exact fun start => rfl
    | cons e entries ih =>
        intro start
        rw [List.foldl_cons, ih, List.flatMap_cons, List.length_append, lengths, Nat.add_assoc]
  rw [Std.ExtTreeMap.foldl_eq_foldl_toList, total, Nat.zero_add]

variable [Std.LawfulEqOrd κ]

theorem compare_eq_eq {a b : κ} : compare a b = .eq ↔ a = b := Std.LawfulEqCmp.compare_eq_iff_eq

theorem ne_of_before {a b : κ} (before : compare a b = .lt) : a ≠ b := by
  intro same
  cases (compare_eq_eq.2 same).symm.trans before

variable [Std.TransOrd κ] {m : Std.ExtTreeMap κ α} {entries : List (κ × α)} {k : κ} {x : α}

theorem mem_toList_iff : (k, x) ∈ m.toList ↔ m[k]? = some x :=
  Std.ExtTreeMap.mem_toList_iff_getElem?_eq_some

theorem distinct_toList (m : Std.ExtTreeMap κ α) : m.toList.Pairwise fun a b => a.1 ≠ b.1 :=
  Std.ExtTreeMap.distinct_keys_toList.imp fun apart same => apart (compare_eq_eq.2 same)

variable [DecidableEq κ]

theorem insert_at (m : Std.ExtTreeMap κ α) (k l : κ) (x : α) :
    (m.insert k x)[l]? = if l = k then some x else m[l]? := by
  rw [Std.ExtTreeMap.getElem?_insert]
  by_cases eq : l = k
  · rw [if_pos (compare_eq_eq.2 eq.symm), if_pos eq]
  · rw [if_neg fun h => eq (compare_eq_eq.1 h).symm, if_neg eq]

theorem erase_at (m : Std.ExtTreeMap κ α) (k l : κ) :
    (m.erase k)[l]? = if l = k then none else m[l]? := by
  rw [Std.ExtTreeMap.getElem?_erase]
  by_cases eq : l = k
  · rw [if_pos (compare_eq_eq.2 eq.symm), if_pos eq]
  · rw [if_neg fun h => eq (compare_eq_eq.1 h).symm, if_neg eq]

theorem insertMany_at_of_mem (m : Std.ExtTreeMap κ α) (distinct : entries.Pairwise fun a b => a.1 ≠ b.1)
    (mem : (k, x) ∈ entries) : (m.insertMany entries)[k]? = some x :=
  Std.ExtTreeMap.getElem?_insertMany_list_of_mem (compare_eq_eq.2 rfl)
    (distinct.imp fun other same => other (compare_eq_eq.1 same)) mem

theorem insertMany_at_of_absent (m : Std.ExtTreeMap κ α) (absent : ∀ x, (k, x) ∉ entries) :
    (m.insertMany entries)[k]? = m[k]? := by
  refine Std.ExtTreeMap.getElem?_insertMany_list_of_contains_eq_false ?_
  rw [Bool.eq_false_iff, ne_eq, List.contains_iff_mem, List.mem_map]
  rintro ⟨⟨_, x⟩, mem, rfl⟩
  exact absent x mem

theorem mem_of_ofList_at (stands : (Std.ExtTreeMap.ofList entries : Std.ExtTreeMap κ α)[k]? = some x) :
    (k, x) ∈ entries := by
  rw [Std.ExtTreeMap.ofList_eq_insertMany_empty, Std.ExtTreeMap.getElem?_insertMany_list,
    List.findSomeRev?_eq_findSome?_reverse, Std.ExtTreeMap.getElem?_empty, Option.or_none] at stands
  obtain ⟨⟨l, y⟩, mem, found⟩ := List.exists_of_findSome?_eq_some stands
  dsimp only at found
  split at found
  · rename_i same
    obtain rfl := compare_eq_eq.1 same
    cases found
    exact List.mem_reverse.1 mem
  · cases found

theorem ofList_at_of_mem (distinct : entries.Pairwise fun a b => a.1 ≠ b.1) (mem : (k, x) ∈ entries) :
    (Std.ExtTreeMap.ofList entries : Std.ExtTreeMap κ α)[k]? = some x := by
  rw [Std.ExtTreeMap.ofList_eq_insertMany_empty]
  exact insertMany_at_of_mem ∅ distinct mem

theorem ofList_perm {entries' : List (κ × α)} (distinct : entries.Pairwise fun a b => a.1 ≠ b.1)
    (perm : entries.Perm entries') :
    (Std.ExtTreeMap.ofList entries : Std.ExtTreeMap κ α) = .ofList entries' := by
  have distinct' : entries'.Pairwise fun a b => a.1 ≠ b.1 :=
    perm.pairwise distinct fun other same => other same.symm
  refine Std.ExtTreeMap.ext_getElem? fun k => Option.ext fun x => ?_
  constructor
  · exact fun stands => ofList_at_of_mem distinct' (perm.mem_iff.1 (mem_of_ofList_at stands))
  · exact fun stands => ofList_at_of_mem distinct (perm.mem_iff.2 (mem_of_ofList_at stands))

theorem toList_ofList (ordered : entries.Pairwise fun a b => compare a.1 b.1 = .lt) :
    (Std.ExtTreeMap.ofList entries : Std.ExtTreeMap κ α).toList = entries := by
  have apart : ∀ {l : List (κ × α)}, (l.Pairwise fun a b => compare a.1 b.1 = .lt) → l.Nodup :=
    fun ordered => ordered.imp fun before same => ne_of_before before (congrArg Prod.fst same)
  have distinct : entries.Pairwise fun a b => a.1 ≠ b.1 := ordered.imp ne_of_before
  have members : ∀ e, e ∈ (Std.ExtTreeMap.ofList entries : Std.ExtTreeMap κ α).toList ↔ e ∈ entries := by
    rintro ⟨k, x⟩
    rw [mem_toList_iff]
    exact ⟨mem_of_ofList_at, ofList_at_of_mem distinct⟩
  refine List.Perm.eq_of_pairwise (fun a b _ _ before after => ?_) Std.ExtTreeMap.ordered_keys_toList
    ordered ((List.perm_ext_iff_of_nodup (apart Std.ExtTreeMap.ordered_keys_toList) (apart ordered)).2 members)
  exact absurd after (Std.OrientedCmp.not_lt_of_lt before)

theorem ofList_toList (m : Std.ExtTreeMap κ α) : .ofList m.toList = m := by
  refine Std.ExtTreeMap.ext_getElem? fun k => ?_
  cases found : m[k]? with
  | some x => exact ofList_at_of_mem (distinct_toList m) (mem_toList_iff.2 found)
  | none =>
      rw [Option.eq_none_iff_forall_ne_some]
      intro x listed
      rw [mem_toList_iff.1 (mem_of_ofList_at listed)] at found
      cases found

end Spreadsheet.OrderedMap
