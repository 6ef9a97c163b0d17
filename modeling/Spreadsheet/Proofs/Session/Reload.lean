import Spreadsheet.Proofs.Session.Crash

namespace Spreadsheet

theorem Matrix.dirtyCells_eq_nil {m : Matrix}
    (clean : ∀ (p : Position) (c : Cell), m.cells[p]? = some c → c.dirty = false) :
    m.dirtyCells = [] := by
  unfold dirtyCells
  rw [List.map_eq_nil_iff, List.filter_eq_nil_iff]
  rintro ⟨p, c⟩ mem
  simp [clean p c (Std.ExtTreeMap.mem_toList_iff_getElem?_eq_some.1 mem)]

namespace Session

theorem loadSheets_cons {limits : Limits} {loaded : List Sheet} {snapshot : MatrixSnapshot}
    {sheet : Sheet} (new : ¬ snapshot.name ∈ loaded.map Sheet.name)
    (accepted : Sheet.ofSnapshot snapshot limits = .ok sheet) (rest : List MatrixSnapshot) :
    loadSheets limits loaded (snapshot :: rest) = (Attempt.ofOption (sheet.recalcAll false) >>= fun r =>
      loadSheets limits (loaded ++ [r.1]) rest) := by
  rw [loadSheets, if_neg fun known => new (List.contains_iff_mem.1 known)]
  show (Attempt.ofExcept (Sheet.ofSnapshot snapshot limits) >>= _) = _
  rw [accepted]
  rfl

theorem loadSheets_snapshots {limits : Limits} {sheets : List Sheet} (loaded : List Sheet)
    (regular : ∀ sheet ∈ sheets, sheet.Regular limits)
    (nodup : (loaded.map Sheet.name ++ sheets.map Sheet.name).Nodup) :
    ((¬ ∀ sheet ∈ sheets, sheet.Shows) ∧
      loadSheets limits loaded (sheets.map Sheet.snapshot) = .error .crash) ∨
    (∀ sheet ∈ sheets, sheet.Shows) ∧ ∃ back,
      loadSheets limits loaded (sheets.map Sheet.snapshot) = .ok (loaded ++ back) ∧
      back.map Sheet.snapshot = sheets.map Sheet.snapshot ∧
      ∀ sheet ∈ back, sheet.matrix.dirtyCells = [] := by
  induction sheets generalizing loaded with
  | nil => exact .inr ⟨nofun, [], by simp [loadSheets], rfl, by simp⟩
  | cons sheet rest ih =>
      rw [List.forall_mem_cons] at regular
      obtain ⟨read, accepted, same⟩ := regular.1.ofSnapshot
      obtain ⟨sound, limits_eq, _, pending⟩ := Sheet.ofSnapshot_ok accepted
      have truthful := sound.truthful pending
      have shows : read.Shows ↔ sheet.Shows :=
        regular.1.toTruthful.shows_of_snapshot truthful (limits_eq.trans regular.1.limits_eq.symm) same
      have new : ¬ sheet.name ∈ loaded.map Sheet.name :=
        fun mem => (List.nodup_append.1 nodup).2.2 _ mem _ List.mem_cons_self rfl
      rw [List.forall_mem_cons, ← shows, ← truthful.recalcAll_isSome_iff, List.map_cons,
        loadSheets_cons new accepted]
      cases ran : read.recalcAll false with
      | none => exact .inl ⟨by simp, rfl⟩
      | some result =>
          obtain ⟨fresh, stats⟩ := result
          have stored : fresh.snapshot = sheet.snapshot := (sound.snapshot_recalcAll ran).trans same
          have clean : fresh.matrix.dirtyCells = [] :=
            Matrix.dirtyCells_eq_nil fun p c => sound.recalcAll_clean ran
          have name : fresh.name = sheet.name := congrArg MatrixSnapshot.name stored
          have next := ih (loaded ++ [fresh]) regular.2 (by
            rwa [List.map_append, List.map_singleton, name, List.append_assoc])
          rcases next with ⟨hides, crashes⟩ | ⟨shown, back, loads, backs, cleans⟩
          · exact .inl ⟨fun all => hides all.2, crashes⟩
          · refine .inr ⟨⟨rfl, shown⟩, fresh :: back, ?_, ?_, List.forall_mem_cons.2 ⟨clean, cleans⟩⟩
            · rw [ofOption_some_bind, loads, List.append_assoc]
              rfl
            · rw [List.map_cons, stored, backs]

/-- Row by row the formula in the first cell would be accepted, but it was entered last and refused. -/
def enteredBackwards : Session := reached {}
  [.addMatrix "S", .setCell "S" ⟨0, 1⟩ "=A1" true, .setCell "S" ⟨0, 0⟩ "=B1" false]

end Session

end Spreadsheet
