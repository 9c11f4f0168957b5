import AntTrail.Proofs.Trial.Step

/-!
# Food accounting

An ant is asked to act and to look ahead, in any order. Along every such run the
board, the count of food eaten and the cells that the ant has occupied stay tied
to the board that it began with (`Accounts`): food is gone just from the cells that
were occupied, and each piece has been counted once.
-/
namespace AntTrail

/-- What can be asked of an ant. -/
inductive Request where
  | act (a : Action)
  | look

namespace Trial

/-- The trial after a request. -/
def answer (t : Trial) : Request → Except Fault Trial
  | .act a => t.act a
  | .look => do
    let _ ← t.foodAhead
    return t

end Trial

/-- A trial, and the cells that the ant has occupied so far, the latest first. -/
structure Journey where
  trial : Trial
  visited : List Position

namespace Journey

/-- A journey begins where the ant stands. -/
def begin (t : Trial) : Journey := ⟨t, [t.position]⟩

/-- The journey after a request. -/
def step (j : Journey) (r : Request) : Except Fault Journey := do
  let next ← j.trial.answer r
  return ⟨next, next.position :: j.visited⟩

/-- The journey after some requests. -/
def run (j : Journey) (rs : List Request) : Except Fault Journey := rs.foldlM step j

end Journey

/-- The number of cells with food among some places of a board. -/
def Board.foodAmong (b : Board) (places : List Nat) : Nat :=
  b.cells.toList.zipIdx.countP fun e => e.1 == .food && places.contains e.2

/-- A cell that had food and has been occupied. -/
def Board.Grazed (b : Board) (visited : List Position) (i : Nat) : Prop :=
  b.cells[i]? = some .food ∧ i ∈ visited.map b.place

/-! ## Counting -/

/-- Of some cells with food, those that are eaten and those that are not are all. -/
theorem count_add_countP_zipIdx (before after : List Cell) (places : List Nat) (k : Nat)
    (heaten : ∀ i, before[i]? = some .food ∧ k + i ∈ places → after[i]? = some .eaten)
    (hkept : ∀ i, ¬(before[i]? = some .food ∧ k + i ∈ places) → after[i]? = before[i]?) :
    after.count .food +
      (before.zipIdx k).countP (fun e => e.1 == .food && places.contains e.2) =
    before.count .food := by
  induction before generalizing after k with
  | nil =>
    obtain rfl : after = [] := by simpa using hkept 0 (by simp)
    rfl
  | cons c before ih =>
    have hzero : after[0]? = if c = .food ∧ k ∈ places then some .eaten else some c := by
      by_cases hc : c = .food ∧ k ∈ places
      · rw [if_pos hc]
        exact heaten 0 (by simpa using hc)
      · rw [if_neg hc]
        exact hkept 0 (by simpa using hc)
    cases after with
    | nil =>
      rw [List.getElem?_nil] at hzero
      split at hzero
      · cases hzero
      · cases hzero
    | cons d after =>
      have hrest := ih after (k + 1)
        (fun i hi => heaten (i + 1) (by
          rw [List.getElem?_cons_succ, Nat.add_comm i, ← Nat.add_assoc]
          exact hi))
        (fun i hi => hkept (i + 1) (by
          rw [List.getElem?_cons_succ, Nat.add_comm i, ← Nat.add_assoc]
          exact hi))
      rw [List.zipIdx_cons, List.countP_cons, List.count_cons, List.count_cons, ← hrest]
      by_cases hc : c = .food ∧ k ∈ places
      · obtain ⟨rfl, hk⟩ := hc
        obtain rfl : d = .eaten := by simpa [hk] using hzero
        have hm : (Cell.food == .food && places.contains k) = true := by simpa using hk
        rw [if_pos hm, if_neg (by decide), if_pos (by decide)]
        omega
      · obtain rfl : d = c := by simpa [hc] using hzero
        have hm : ¬(d == .food && places.contains k) = true := by simpa using hc
        rw [if_neg hm]
        omega

/-! ## One request -/

/-- The books of a trial: what has become of the board that it began with, given
the cells that the ant has occupied. -/
structure Accounts (board : Board) (visited : List Position) (t : Trial) : Prop where
  shape : t.board.toShape = board.toShape
  held : ∀ p ∈ visited, board.Holds p
  count : t.board.foodCount + t.foodEaten = board.foodCount
  eaten : ∀ i, board.Grazed visited i → t.board.cells[i]? = some .eaten
  kept : ∀ i, ¬board.Grazed visited i → t.board.cells[i]? = board.cells[i]?

theorem Board.grazed_cons {b : Board} {visited : List Position} {p : Position} {i : Nat} :
    b.Grazed (p :: visited) i ↔
      b.Grazed visited i ∨ (b.cells[i]? = some .food ∧ i = b.place p) := by
  unfold Grazed
  rw [List.map_cons, List.mem_cons]
  grind

namespace Accounts

variable {board : Board} {visited : List Position} {t t' : Trial}

/-- The count of food eaten is that of the cells that had food and were occupied. -/
theorem foodEaten (h : Accounts board visited t) :
    t.foodEaten = board.foodAmong (visited.map board.place) := by
  have hsum := count_add_countP_zipIdx board.cells.toList t.board.cells.toList
    (visited.map board.place) 0
    (fun i hi => by
      rw [Nat.zero_add, Array.getElem?_toList] at hi
      rw [Array.getElem?_toList]
      exact h.eaten i hi)
    (fun i hi => by
      rw [Nat.zero_add, Array.getElem?_toList] at hi
      rw [Array.getElem?_toList, Array.getElem?_toList]
      exact h.kept i hi)
  have hcount := h.count
  unfold Board.foodCount at hcount
  unfold Board.foodAmong
  rw [Array.count_toList, Array.count_toList] at hsum
  omega

/-- The books are about the board and the count, not about where the ant stands. -/
theorem frame (h : Accounts board visited t) (hb : t'.board = t.board)
    (hc : t'.foodEaten = t.foodEaten) : Accounts board visited t' where
  shape := by rw [hb, h.shape]
  held := h.held
  count := by rw [hb, hc, h.count]
  eaten := by rw [hb]; exact h.eaten
  kept := by rw [hb]; exact h.kept

/-- Coming to a cell for another time changes nothing. -/
theorem again {p : Position} (h : Accounts board visited t) (hp : p ∈ visited) :
    Accounts board (p :: visited) t where
  shape := h.shape
  held := List.forall_mem_cons.mpr ⟨h.held p hp, h.held⟩
  count := h.count
  eaten := by
    intro i hi
    rcases Board.grazed_cons.mp hi with hi | ⟨hf, rfl⟩
    · exact h.eaten i hi
    · exact h.eaten _ ⟨hf, List.mem_map_of_mem hp⟩
  kept := fun i hi => h.kept i fun hg => hi (Board.grazed_cons.mpr (.inl hg))

/-- An ant that eats where it stands has that cell in its books. -/
theorem eat (h : Accounts board visited t) (hp : t.Placed) (he : t.eat = .ok t') :
    Accounts board (t'.position :: visited) t' := by
  rw [Trial.position_eat hp he]
  have hhere : board.place t.position = t.here := by
    rw [Trial.here, h.shape]
  have hq : board.Holds t.position := by
    rw [← h.shape]
    exact hp
  have hheld := List.forall_mem_cons.mpr ⟨hq, h.held⟩
  have hcount := (Trial.eat_later hp he).foodCount.trans h.count
  rcases Trial.eat_cases hp he with ⟨hc, rfl⟩ | ⟨hc, after, hshape, hcells, rfl⟩
  · -- the cell under the ant had no food, or the ant has been there
    refine ⟨h.shape, hheld, hcount, fun i hi => ?_, fun i hi => ?_⟩
    · rcases Board.grazed_cons.mp hi with hi | ⟨hf, rfl⟩
      · exact h.eaten i hi
      · rw [hhere] at hf ⊢
        by_cases hg : board.Grazed visited t'.here
        · exact h.eaten _ hg
        · exact absurd ((h.kept _ hg).trans hf) hc
    · exact h.kept i fun hg => hi (Board.grazed_cons.mpr (.inl hg))
  · -- it has food, so the ant comes there for the first time
    have hnew : ¬board.Grazed visited t.here := by
      intro hg
      rw [h.eaten _ hg] at hc
      cases hc
    have hf : board.cells[t.here]? = some .food := by rw [← h.kept _ hnew, hc]
    obtain ⟨hlt, -⟩ := Array.getElem?_eq_some_iff.mp hc
    refine ⟨hshape.trans h.shape, hheld, hcount, fun i hi => ?_, fun i hi => ?_⟩
    · show after.cells[i]? = some .eaten
      rw [hcells, Array.getElem?_setIfInBounds]
      by_cases hi' : t.here = i
      · rw [if_pos hi', if_pos hlt]
      · rw [if_neg hi']
        rcases Board.grazed_cons.mp hi with hi | ⟨-, rfl⟩
        · exact h.eaten i hi
        · exact absurd hhere.symm hi'
    · show after.cells[i]? = board.cells[i]?
      have hi' : t.here ≠ i := by
        rintro rfl
        exact hi (Board.grazed_cons.mpr (.inr ⟨hf, hhere.symm⟩))
      rw [hcells, Array.getElem?_setIfInBounds, if_neg hi']
      exact h.kept i fun hg => hi (Board.grazed_cons.mpr (.inl hg))

/-- A trial begins with its books in order. -/
theorem start {settings : TrialSettings} {total : Int32}
    (h : Trial.start board settings total = .ok t) : Accounts board [t.position] t := by
  obtain ⟨position, -, hp, he⟩ := Trial.start_cases h
  have hq : Trial.Placed ⟨board, position, settings.heading, settings.maxSteps, total, 0⟩ := hp
  have hnone : ∀ i, ¬board.Grazed [] i := fun i hi => nomatch hi.2
  have hfirst : Accounts board []
      ⟨board, position, settings.heading, settings.maxSteps, total, 0⟩ :=
    ⟨rfl, by simp, rfl, fun i hi => absurd hi (hnone i), fun _ _ => rfl⟩
  exact hfirst.eat hq he

end Accounts

/-! ## Many requests -/

namespace Journey

variable {board : Board} {j j' : Journey} {r : Request} {rs : List Request}

theorem step_cases (h : j.step r = .ok j') :
    j.trial.answer r = .ok j'.trial ∧ j'.visited = j'.trial.position :: j.visited := by
  obtain ⟨next, hn, h⟩ := bind_eq_ok.mp h
  obtain rfl := pure_eq_ok.mp h
  exact ⟨hn, rfl⟩

theorem run_cons_cases (h : j.run (r :: rs) = .ok j') :
    ∃ next, j.step r = .ok next ∧ next.run rs = .ok j' := by
  rw [run, List.foldlM_cons] at h
  exact bind_eq_ok.mp h

/-- A journey whose books are in order. -/
structure Sound (board : Board) (j : Journey) : Prop where
  accounts : Accounts board j.visited j.trial
  placed : j.trial.Placed
  here : j.trial.position ∈ j.visited

/-- A request keeps the books in order. -/
theorem Sound.step (hj : j.Sound board) (h : j.step r = .ok j') :
    j'.Sound board ∧ j.trial.Later j'.trial := by
  obtain ⟨hanswer, hvisited⟩ := step_cases h
  obtain ⟨trial, visited⟩ := j'
  obtain rfl : visited = trial.position :: j.visited := hvisited
  obtain ⟨hacc, hplaced, hhere⟩ := hj
  cases r with
  | look =>
    obtain ⟨_, -, ht⟩ := bind_eq_ok.mp hanswer
    obtain rfl : j.trial = trial := pure_eq_ok.mp ht
    exact ⟨⟨hacc.again hhere, hplaced, .head _⟩, .refl _⟩
  | act a =>
    have hl := Trial.act_later hanswer
    obtain ⟨stepsLeft, -, ⟨heading, ht⟩ | ⟨position, ha, he⟩⟩ := Trial.act_cases hanswer
    · obtain rfl : trial = { j.trial with stepsLeft, heading } := ht
      exact ⟨⟨(hacc.again hhere).frame rfl rfl, hplaced, .head _⟩, hl⟩
    · have hq : Trial.Placed { j.trial with stepsLeft, position } := Shape.holds_step ha
      have hm : Accounts board j.visited { j.trial with stepsLeft, position } :=
        hacc.frame rfl rfl
      exact ⟨⟨hm.eat hq he, hl.placed hplaced, .head _⟩, hl⟩

/-- So do any number of requests. -/
theorem Sound.run (hj : j.Sound board) (h : j.run rs = .ok j') :
    j'.Sound board ∧ j.trial.Later j'.trial := by
  induction rs generalizing j with
  | nil =>
    obtain rfl := pure_eq_ok.mp h
    exact ⟨hj, .refl _⟩
  | cons r rs ih =>
    obtain ⟨next, h₁, h₂⟩ := run_cons_cases h
    obtain ⟨hn, hl⟩ := hj.step h₁
    obtain ⟨hj', hl'⟩ := ih hn h₂
    exact ⟨hj', hl.trans hl'⟩

theorem Sound.begin {settings : TrialSettings} {total : Int32} {t : Trial}
    (h : Trial.start board settings total = .ok t) : (begin t).Sound board :=
  ⟨.start h, (Trial.start_spec h).2.1, .head _⟩

/-- Food accounting. However an ant is asked to act and to look, the cells with
food that it has occupied are eaten and all others are as they were; the count of
food eaten is the number of the former, and what is left on the board makes up the
rest. The shape of the board and the food to score against stay, so the score stays
between none and all of it, and a trial that has finished never starts again. -/
theorem food_accounts {settings : TrialSettings} {total : Int32} {t₀ : Trial}
    (htotal : Trial.resolveFood board settings = .ok total)
    (hstart : Trial.start board settings total = .ok t₀) (hrun : (begin t₀).run rs = .ok j) :
    settings.start.wrap board.width board.height = .ok t₀.position ∧
    (∀ p ∈ j.visited, board.Holds p) ∧
    (∀ i, board.Grazed j.visited i → j.trial.board.cells[i]? = some .eaten) ∧
    (∀ i, ¬board.Grazed j.visited i → j.trial.board.cells[i]? = board.cells[i]?) ∧
    j.trial.foodEaten = board.foodAmong (j.visited.map board.place) ∧
    j.trial.board.foodCount + j.trial.foodEaten = board.foodCount ∧
    j.trial.foodTotal = total ∧ j.trial.board.toShape = board.toShape ∧
    j.trial.score = total.toInt - j.trial.foodEaten ∧
    0 ≤ j.trial.score ∧ j.trial.score ≤ total.toInt ∧
    (j.trial.finished → ∀ more j', j.run more = .ok j' → j'.trial.finished) := by
  obtain ⟨hsound, hlater⟩ := (Sound.begin hstart).run hrun
  obtain ⟨hwrap, -, -, -, hfirst, -⟩ := Trial.start_spec hstart
  have hacc := hsound.accounts
  have htot : j.trial.foodTotal = total := hlater.foodTotal.trans hfirst
  obtain ⟨hlow, hhigh⟩ := Trial.score_bounds htotal htot hacc.count
  rw [htot] at hhigh
  have hscore : j.trial.score = total.toInt - j.trial.foodEaten := by
    rw [Trial.score, htot]
  exact ⟨hwrap, hacc.held, hacc.eaten, hacc.kept, hacc.foodEaten, hacc.count, htot, hacc.shape,
    hscore, hlow, hhigh, fun hf more j' hmore => (hsound.run hmore).2.finished hf⟩

/-- A track of three cells, with food on two of them. -/
def track : Board where
  width := 3
  height := 1
  width_pos := by decide
  height_pos := by decide
  area_lt := by decide
  cells := #[.food, .empty, .food]
  size_eq := rfl

theorem food_accounts_track :
    ∃ t₀ j, Trial.resolveFood track { maxFood := some 5 } = .ok 5 ∧
      Trial.start track { maxFood := some 5 } 5 = .ok t₀ ∧
      (begin t₀).run [.act .turnRight, .look, .act .turnLeft, .act .move, .act .move] = .ok j ∧
      j.trial.foodEaten = track.foodAmong (j.visited.map track.place) ∧
      j.trial.board.foodCount + j.trial.foodEaten = 2 ∧ 0 ≤ j.trial.score ∧ j.trial.score ≤ 5 := by
  have hok : (Trial.start track { maxFood := some 5 } 5 >>= fun t =>
      (begin t).run [.act .turnRight, .look, .act .turnLeft, .act .move, .act .move]).isOk := by
    decide +kernel
  have htotal : Trial.resolveFood track { maxFood := some 5 } = .ok 5 := by rfl
  obtain ⟨j, hj⟩ := exists_of_isOk hok
  obtain ⟨t₀, hstart, hrun⟩ := bind_eq_ok.mp hj
  obtain ⟨-, -, -, -, heaten, hcount, -, -, -, hlow, hhigh, -⟩ :=
    food_accounts htotal hstart hrun
  exact ⟨t₀, j, htotal, hstart, hrun, heaten, hcount, hlow, hhigh⟩

end Journey
end AntTrail
