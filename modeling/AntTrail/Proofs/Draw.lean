import AntTrail.Draw
import AntTrail.Proofs.Reading

/-!
# What is drawn

A word scaled to a bound and divided by the number of words is below the bound, so a
draw that ends gives what it is asked for: a number in its range, a member of its array,
as many draws as were asked for. From a range or an array that is not empty, not to end
is the only way in which a draw can fail (`Unfailing`).
-/
namespace AntTrail.Draw

theorem ensures_belowWithin (bound attempts : Nat) (h : 0 < bound) :
    Ensures (belowWithin bound attempts) (· < bound) := by
  induction attempts with
  | zero => exact .throw
  | succ attempts ih =>
    refine .after fun v => ?_
    dsimp only
    split
    · refine .pure (Nat.div_lt_of_lt_mul ?_)
      exact Nat.mul_lt_mul_of_pos_right v.toNat_lt_size h
    · exact ih

theorem ensures_below (bound : Nat) : Ensures (below bound) (· < bound) := by
  unfold below
  split
  · exact .throw
  · next h => exact ensures_belowWithin bound _ (Nat.pos_of_ne_zero h)

theorem ensures_between (low high : Nat) :
    Ensures (between low high) fun n => low ≤ n ∧ n < high :=
  .bind (ensures_below _) fun n hn => .pure (by omega)

theorem ensures_pick {α : Type} (xs : Array α) : Ensures (pick xs) (· ∈ xs) := by
  refine .after fun i => ?_
  cases h : xs[i]? with
  | none => exact .throw
  | some x => exact .pure (Array.mem_of_getElem? h)

theorem ensures_times {α : Type} (draw : Draw α) (n : Nat) :
    Ensures (times draw n) (·.length = n) := by
  induction n with
  | zero => exact .pure rfl
  | succ n ih => exact .after fun x => .bind ih fun xs hxs => .pure (by rw [List.length_cons, hxs])

/-- What each draw ensures holds of all that is drawn. -/
theorem ensures_times_all {α : Type} {draw : Draw α} {post : α → Prop} (h : Ensures draw post)
    (n : Nat) : Ensures (times draw n) fun xs => ∀ x ∈ xs, post x := by
  induction n with
  | zero => exact .pure nofun
  | succ n ih =>
    exact .bind h fun x hx => .bind ih fun xs hxs => .pure (List.forall_mem_cons.mpr ⟨hx, hxs⟩)

/-! ## How a draw fails -/

/-- `d` fails in no other way than by a draw that never ends. -/
def Unfailing {α : Type} (d : Draw α) : Prop := FailsOnly d (· = .endlessDraw)

theorem unfailing_word64 : Unfailing word64 := nofun

theorem unfailing_belowWithin {bound : Nat} (attempts : Nat) :
    Unfailing (belowWithin bound attempts) := by
  induction attempts with
  | zero => exact FailsOnly.throw rfl
  | succ attempts ih =>
    refine unfailing_word64.andThen fun v => ?_
    dsimp only
    split
    · exact .pure
    · exact ih

theorem unfailing_below {bound : Nat} (h : 0 < bound) : Unfailing (below bound) := by
  rw [below, if_neg (Nat.pos_iff_ne_zero.mp h)]
  exact unfailing_belowWithin _

theorem unfailing_between {low high : Nat} (h : low < high) : Unfailing (between low high) := by
  have hd : Unfailing (below (high - low)) := unfailing_below (by omega)
  exact hd.andThen fun n => .pure

theorem unfailing_pick {α : Type} {xs : Array α} (h : 0 < xs.size) : Unfailing (pick xs) := by
  refine (unfailing_below h).bind (ensures_below xs.size) fun i hi => ?_
  rw [Array.getElem?_eq_getElem hi]
  exact .pure

theorem unfailing_times {α : Type} {draw : Draw α} (h : Unfailing draw) (n : Nat) :
    Unfailing (times draw n) := by
  induction n with
  | zero => exact FailsOnly.pure
  | succ n ih => exact h.andThen fun x => ih.andThen fun xs => .pure

/-! ## One draw after the other -/

/-- The draw that comes after `n` like it. -/
def nth {α : Type} (draw : Draw α) (n : Nat) : Draw α := do
  let _ ← times draw n
  draw

variable {α : Type} {draw : Draw α} {s s₁ s' : Source} {x : α} {xs : List α} {m n : Nat}

theorem run_times_succ :
    (times draw (n + 1)).run s = .ok (xs, s') ↔
      ∃ x s₁ rest, draw.run s = .ok (x, s₁) ∧ (times draw n).run s₁ = .ok (rest, s') ∧
        xs = x :: rest := by
  rw [times, run_bind_eq_ok]
  refine exists_congr fun x => exists_congr fun s₁ => ?_
  rw [run_bind_eq_ok]
  constructor
  · rintro ⟨hx, rest, _, hrest, h⟩
    obtain ⟨rfl, rfl⟩ := run_pure_eq_ok.mp h
    exact ⟨rest, hx, hrest, rfl⟩
  · rintro ⟨rest, hx, hrest, rfl⟩
    exact ⟨hx, rest, s', hrest, run_pure_eq_ok.mpr ⟨rfl, rfl⟩⟩

theorem run'_nth_succ (h : draw.run s = .ok (x, s₁)) :
    (nth draw (n + 1)).run' s = (nth draw n).run' s₁ := by
  show Prod.fst <$> (nth draw (n + 1)).run s = Prod.fst <$> (nth draw n).run s₁
  rw [nth, nth, times, bind_assoc, run_bind_ok h]
  simp only [bind_assoc, pure_bind]

/-- What several draws give is what each of them gives after those before it. -/
theorem run'_times_eq_ok_iff :
    (times draw n).run' s = .ok xs ↔
      xs.length = n ∧ ∀ i y, xs[i]? = some y → (nth draw i).run' s = .ok y := by
  induction n generalizing s xs with
  | zero =>
    constructor
    · intro h
      obtain rfl := Except.ok.inj h
      exact ⟨rfl, by simp⟩
    · rintro ⟨hlength, -⟩
      rw [List.length_eq_zero_iff.mp hlength]
      rfl
  | succ n ih =>
    constructor
    · intro h
      obtain ⟨s', h⟩ := run'_eq_ok.mp h
      obtain ⟨x, s₁, rest, hx, hrest, rfl⟩ := run_times_succ.mp h
      obtain ⟨hlength, hnth⟩ := ih.mp (run'_eq_ok.mpr ⟨s', hrest⟩)
      refine ⟨by rw [List.length_cons, hlength], fun i y hy => ?_⟩
      cases i with
      | zero =>
        obtain rfl := Option.some.inj hy
        exact run'_eq_ok.mpr ⟨s₁, hx⟩
      | succ i =>
        rw [run'_nth_succ hx]
        exact hnth i y hy
    · rintro ⟨hlength, hnth⟩
      cases xs with
      | nil => cases hlength
      | cons x rest =>
        obtain ⟨s₁, hx⟩ := run'_eq_ok.mp (hnth 0 x rfl)
        have hx : draw.run s = .ok (x, s₁) := hx
        have hrest : (times draw n).run' s₁ = .ok rest :=
          ih.mpr ⟨Nat.succ.inj hlength, fun i y hy => run'_nth_succ hx ▸ hnth (i + 1) y hy⟩
        obtain ⟨s', hrest⟩ := run'_eq_ok.mp hrest
        exact run'_eq_ok.mpr ⟨s', run_times_succ.mpr ⟨x, s₁, rest, hx, hrest, rfl⟩⟩

/-- Fewer draws give the first of what more of them give. -/
theorem run'_times_take (h : (times draw n).run' s = .ok xs) (hm : m ≤ n) :
    (times draw m).run' s = .ok (xs.take m) := by
  obtain ⟨hlength, hnth⟩ := run'_times_eq_ok_iff.mp h
  refine run'_times_eq_ok_iff.mpr ⟨by simp [hlength, hm], fun i y hy => ?_⟩
  rw [List.getElem?_take] at hy
  split at hy
  · exact hnth i y hy
  · cases hy

end AntTrail.Draw
