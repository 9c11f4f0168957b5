import AntTrail.Text.Split

/-!
# Lines

How a text is written line by line (`Written`), and that its lines are exactly those with
which it is written so (`written_iff`). A line is what stands before a line feed, less the
carriage returns at its end; the last line may do without a line feed, unless nothing at all
stands in it.
-/
namespace AntTrail.Text

/-- A line as it is counted: it holds no line feed and does not end with a carriage return. -/
structure Plain (line : List Char) : Prop where
  newline_not_mem : '\n' ∉ line
  getLast?_ne : line.getLast? ≠ some '\r'

theorem Plain.newline_not_mem_append {line : List Char} (h : Plain line) {n : Nat} :
    '\n' ∉ line ++ List.replicate n '\r' := by
  rw [List.mem_append, List.mem_replicate]
  rintro (hm | ⟨-, hc⟩)
  · exact h.newline_not_mem hm
  · cases hc

/-- The texts that are written with some lines. Any number of carriage returns can stand at
the end of each. -/
inductive Written : List Char → List (List Char) → Prop
  | none : Written [] []
  | last {line : List Char} {n : Nat} (h : Plain line) (hne : line ++ List.replicate n '\r' ≠ []) :
    Written (line ++ List.replicate n '\r') [line]
  | cons {line rest : List Char} {n : Nat} {ls : List (List Char)} (h : Plain line)
    (hrest : Written rest ls) : Written (line ++ List.replicate n '\r' ++ '\n' :: rest) (line :: ls)

/-! ## Carriage returns -/

theorem dropReturns_of_getLast? {line : List Char} (h : line.getLast? ≠ some '\r') :
    dropReturns line = line := by
  rw [← List.head?_reverse] at h
  rw [dropReturns]
  cases hr : line.reverse with
  | nil => rw [List.reverse_eq_nil_iff.mp hr]; rfl
  | cons c cs =>
    have hc : (c == '\r') = false := by
      rw [beq_eq_false_iff_ne]
      rintro rfl
      exact h (by rw [hr]; rfl)
    rw [List.dropWhile_cons_of_neg (by simp [hc]), ← hr, List.reverse_reverse]

theorem dropReturns_append_replicate (line : List Char) (n : Nat) :
    dropReturns (line ++ List.replicate n '\r') = dropReturns line := by
  rw [dropReturns, List.reverse_append, List.reverse_replicate,
    List.dropWhile_append_of_pos (by simp), dropReturns]

theorem dropReturns_eq {line : List Char} (h : Plain line) (n : Nat) :
    dropReturns (line ++ List.replicate n '\r') = line := by
  rw [dropReturns_append_replicate, dropReturns_of_getLast? h.getLast?_ne]

/-- What is dropped are carriage returns, all there are at the end. -/
theorem exists_returns (cs : List Char) :
    (dropReturns cs).getLast? ≠ some '\r' ∧ ∃ n, cs = dropReturns cs ++ List.replicate n '\r' := by
  constructor
  · rw [dropReturns, List.getLast?_reverse]
    intro h
    have := List.head?_dropWhile_not (· == '\r') cs.reverse
    rw [h] at this
    cases this
  · have hall : ∀ c ∈ cs.reverse.takeWhile (· == '\r'), c = '\r' :=
      fun c hc => beq_iff_eq.mp (List.all_eq_true.mp List.all_takeWhile c hc)
    refine ⟨(cs.reverse.takeWhile (· == '\r')).length, ?_⟩
    calc cs = (cs.reverse.takeWhile (· == '\r') ++ cs.reverse.dropWhile (· == '\r')).reverse := by
          rw [List.takeWhile_append_dropWhile, List.reverse_reverse]
      _ = dropReturns cs ++ (cs.reverse.takeWhile (· == '\r')).reverse := List.reverse_append
      _ = dropReturns cs ++ List.replicate (cs.reverse.takeWhile (· == '\r')).length '\r' := by
          rw [List.eq_replicate_of_mem hall, List.reverse_replicate, List.length_replicate]

/-! ## Lines -/

theorem lines_of_not_mem {cs : List Char} (hne : cs ≠ []) (h : '\n' ∉ cs) :
    lines cs = [dropReturns cs] := by
  have hs : cs.splitOnP (· == '\n') = [cs] :=
    List.splitOnP_eq_singleton fun c hc => by
      rw [beq_eq_false_iff_ne]
      exact fun e => h (e ▸ hc)
  simp [lines, hs, hne]

theorem lines_append_cons {cs : List Char} (h : '\n' ∉ cs) (rest : List Char) :
    lines (cs ++ '\n' :: rest) = dropReturns cs :: lines rest := by
  have hs : (cs ++ '\n' :: rest).splitOnP (· == '\n') = cs :: rest.splitOnP (· == '\n') :=
    List.splitOnP_append_cons_of_forall_mem (fun c hc => by
      rw [beq_eq_false_iff_ne]
      exact fun e => h (e ▸ hc)) '\n' rfl rest
  have hne : rest.splitOnP (· == '\n') ≠ [] := List.splitOnP_ne_nil _ _
  simp only [lines, hs, List.getLast?_cons_of_ne_nil hne, List.dropLast_cons_of_ne_nil hne]
  split <;> rfl

theorem lines_of_written {cs : List Char} {ls : List (List Char)} (h : Written cs ls) :
    lines cs = ls := by
  induction h with
  | none => rfl
  | last h hne => rw [lines_of_not_mem hne h.newline_not_mem_append, dropReturns_eq h]
  | cons h hrest ih => rw [lines_append_cons h.newline_not_mem_append, dropReturns_eq h, ih]

theorem plain_dropReturns {cs : List Char} (h : '\n' ∉ cs) : Plain (dropReturns cs) := by
  obtain ⟨hlast, n, hcs⟩ := exists_returns cs
  refine ⟨fun hm => h ?_, hlast⟩
  rw [hcs]
  exact List.mem_append_left _ hm

theorem written_lines (cs : List Char) : Written cs (lines cs) := by
  by_cases h : '\n' ∈ cs
  · obtain ⟨front, rest, hcs, hfront⟩ := List.eq_append_cons_of_mem h
    have hrest := written_lines rest
    obtain ⟨-, n, hn⟩ := exists_returns front
    rw [hcs, lines_append_cons hfront]
    have hw := Written.cons (n := n) (plain_dropReturns hfront) hrest
    rwa [← hn] at hw
  · by_cases hne : cs = []
    · subst hne
      exact .none
    · obtain ⟨-, n, hn⟩ := exists_returns cs
      rw [lines_of_not_mem hne h]
      have hw := Written.last (n := n) (plain_dropReturns h) (hn ▸ hne)
      rwa [← hn] at hw
termination_by cs.length
decreasing_by
  rw [hcs, List.length_append, List.length_cons]
  omega

/-- The lines of a text are the only ones with which it is written. -/
theorem written_iff {cs : List Char} {ls : List (List Char)} : Written cs ls ↔ lines cs = ls :=
  ⟨lines_of_written, fun h => h ▸ written_lines cs⟩

end AntTrail.Text
