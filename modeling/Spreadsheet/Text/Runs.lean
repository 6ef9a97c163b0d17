namespace Spreadsheet.Text

def inRuns (runs : List (Nat × Nat)) (c : Char) : Bool :=
  runs.any fun run => run.1 ≤ c.toNat && c.toNat ≤ run.2

theorem length_sub_lt_of_dropWhile {p : Char → Bool} {cs rest : List Char} {c : Char}
    (h : cs.dropWhile p = c :: rest) (n : Nat) : rest.length - n < cs.length := by
  have := (List.dropWhile_suffix p (l := cs)).length_le
  rw [h, List.length_cons] at this
  omega

end Spreadsheet.Text
