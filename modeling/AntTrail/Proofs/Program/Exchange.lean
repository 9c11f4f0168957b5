import AntTrail.Program.Crossover
import AntTrail.Proofs.Draw
import AntTrail.Proofs.Program.Surroundings

/-!
# Exchanging subtrees

What stands around a subtree bounds what comes of putting another one in its place: the way
to a node says by how many levels it lies below the root (`Way.depth`). Below the root an
exchange keeps the kinds of both roots, and each of the two new programs has fewer levels
than the two old ones together (`Way.height_exchange`). Crossover draws nodes below the
root, so programs with a branch for a root have children with a branch for a root
(`ensures_crossover`).
-/
namespace AntTrail

namespace Program

/-! ## Programs with a branch for a root -/

theorem height_pos_iff {p : Program} : 0 < p.height ↔ p.isLeaf = false := by
  cases p <;> simp [height, isLeaf, kind, Kind.isLeaf, Kind.arity]

/-- A branch for a root, and no leaf more than `levels` below it. -/
structure BranchWithin (p : Program) (levels : Nat) : Prop where
  isLeaf_eq : p.isLeaf = false
  height_le : p.height ≤ levels

theorem BranchWithin.mono {p : Program} {m n : Nat} (h : p.BranchWithin m) (hmn : m ≤ n) :
    p.BranchWithin n :=
  ⟨h.isLeaf_eq, Nat.le_trans h.height_le hmn⟩

theorem BranchWithin.two_le_size {p : Program} {levels : Nat} (h : p.BranchWithin levels) :
    2 ≤ p.size := by
  have hp := height_pos_iff.mpr h.isLeaf_eq
  have hs := p.height_lt_size
  omega

/-! ## Levels around a subtree -/

/-- The other children of a branch set a bound below which the child does not matter. -/
theorem Frame.exists_height_wrap (f : Frame) :
    ∃ others, ∀ p, (f.wrap p).height = max others p.height + 1 := by
  cases f with
  | ifFoodFirst q => exact ⟨q.height, fun p => by simp only [wrap, height]; omega⟩
  | ifFoodSecond q => exact ⟨q.height, fun p => by simp only [wrap, height]⟩
  | seq2First q => exact ⟨q.height, fun p => by simp only [wrap, height]; omega⟩
  | seq2Second q => exact ⟨q.height, fun p => by simp only [wrap, height]⟩
  | seq3First q r => exact ⟨max q.height r.height, fun p => by simp only [wrap, height]; omega⟩
  | seq3Second q r => exact ⟨max q.height r.height, fun p => by simp only [wrap, height]; omega⟩
  | seq3Third q r => exact ⟨max q.height r.height, fun p => by simp only [wrap, height]; omega⟩

namespace Way

/-- The number of levels by which the end of the way lies below the root. -/
def depth : Way → Nat
  | here => 0
  | down _ way => way.depth + 1

theorem depth_pos {way : Way} (h : 0 < way.node) : 0 < way.depth := by
  cases way with
  | here => exact absurd h (Nat.lt_irrefl 0)
  | down f way => exact way.depth.succ_pos

/-- A subtree has no more levels than are left where it stands. -/
theorem depth_add_height_le (way : Way) (p : Program) :
    way.depth + p.height ≤ (way.fill p).height := by
  induction way with
  | here => exact Nat.le_of_eq (Nat.zero_add _)
  | down f way ih =>
    obtain ⟨others, hw⟩ := f.exists_height_wrap
    rw [depth, fill, hw]
    omega

/-- The whole gets no more levels from another subtree, unless that one reaches further
down. -/
theorem height_fill_le (way : Way) (p new : Program) :
    (way.fill new).height ≤ max (way.fill p).height (way.depth + new.height) := by
  induction way with
  | here => exact Nat.le_trans (Nat.le_of_eq (Nat.zero_add _).symm) (Nat.le_max_right ..)
  | down f way ih =>
    obtain ⟨others, hw⟩ := f.exists_height_wrap
    rw [depth, fill, fill, hw, hw]
    omega

/-- A place below the root leaves the kind of the root alone. -/
theorem kind_fill {way : Way} (h : 0 < way.node) (p q : Program) :
    (way.fill q).kind = (way.fill p).kind := by
  cases way with
  | here => exact absurd h (Nat.lt_irrefl 0)
  | down f way => rw [fill, fill, Frame.kind_wrap, Frame.kind_wrap]

/-- Below the root another program's subtree from below its root is put: at most all levels
of both but one are there. -/
theorem height_exchange {way way' : Way} (h : 0 < way.node) (h' : 0 < way'.node)
    (p q : Program) : (way.fill q).height < (way.fill p).height + (way'.fill q).height := by
  have hd := depth_pos h
  have hd' := depth_pos h'
  have hp := way.depth_add_height_le p
  have hq := way'.depth_add_height_le q
  have hnew := way.height_fill_le p q
  omega

theorem exchange?_fill (way way' : Way) (p q : Program) :
    (way.fill p).exchange? way.node (way'.fill q) way'.node =
      some (way.fill q, way'.fill p) := by
  rw [exchange?, focus?_fill, focus?_fill]

end Way

/-! ## Exchange and crossover -/

/-- What an exchange below both roots gives. -/
theorem exchange?_inside {p q : Program} {i j : Nat} (hi : 0 < i ∧ i < p.size)
    (hj : 0 < j ∧ j < q.size) :
    ∃ a b, p.exchange? i q j = some (a, b) ∧
      (a.kind = p.kind ∧ a.height < p.height + q.height) ∧
      (b.kind = q.kind ∧ b.height < q.height + p.height) := by
  obtain ⟨way, s, rfl, rfl⟩ := exists_fill hi.2
  obtain ⟨way', s', rfl, rfl⟩ := exists_fill hj.2
  exact ⟨_, _, way.exchange?_fill way' s s',
    ⟨Way.kind_fill hi.1 s s', Way.height_exchange hi.1 hj.1 s s'⟩,
    ⟨Way.kind_fill hj.1 s' s, Way.height_exchange hj.1 hi.1 s' s⟩⟩

theorem BranchWithin.of_exchange {p q a : Program} {m n : Nat} (hp : p.BranchWithin m)
    (hq : q.BranchWithin n) (h : a.kind = p.kind ∧ a.height < p.height + q.height) :
    a.BranchWithin (m + n - 1) where
  isLeaf_eq := by
    rw [isLeaf, h.1]
    exact hp.isLeaf_eq
  height_le := by
    have := hp.height_le
    have := hq.height_le
    have := h.2
    omega

/-- Parents with branches for roots have such children. -/
theorem ensures_crossover {p q : Program} {m n : Nat} (hp : p.BranchWithin m)
    (hq : q.BranchWithin n) :
    Ensures (p.crossover q) fun c =>
      c.1.BranchWithin (m + n - 1) ∧ c.2.BranchWithin (m + n - 1) := by
  have hsize : ¬ (p.size < 2 ∨ q.size < 2) := by
    have := hp.two_le_size
    have := hq.two_le_size
    omega
  rw [crossover, if_neg hsize]
  refine .bind (Draw.ensures_between 1 p.size) fun i hi => ?_
  refine .bind (Draw.ensures_between 1 q.size) fun j hj => .pure ?_
  -- both nodes exist and neither is a root
  obtain ⟨a, b, he, ha, hb⟩ := exchange?_inside hi hj
  rw [he]
  exact ⟨hp.of_exchange hq ha, (Nat.add_comm m n) ▸ hq.of_exchange hp hb⟩

theorem unfailing_crossover (p q : Program) : Draw.Unfailing (p.crossover q) := by
  unfold crossover
  split
  · exact FailsOnly.pure
  · next h =>
    have hp : 1 < p.size := by omega
    have hq : 1 < q.size := by omega
    exact (Draw.unfailing_between hp).andThen fun i =>
      (Draw.unfailing_between hq).andThen fun j => .pure

end Program
end AntTrail
