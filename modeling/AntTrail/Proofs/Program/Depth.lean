import AntTrail.Proofs.Program.Growth

/-!
# Depths in random programs

Where the nodes of a random program stand. `Program.layers` lists them in pre-order with
their depths. A generator counts the depth upwards and may note what it draws
(`Generator.generateNoted`): the notes are the nodes of the program in pre-order, one for
each, and with or without notes the draws and the program are the same
(`run_generateNoted`). Between the bounds no leaf stands too high and no node too deep
(`Consistent.ensures_permits_generate`).
-/
namespace AntTrail

namespace Program

/-- The kinds of the nodes in pre-order, each with its depth; the root has the depth `d`. -/
def layers : Program → (d : Nat) → List (Nat × Kind)
  | action a, d => [(d, .action a)]
  | ifFood p q, d => (d, .ifFood) :: (p.layers (d + 1) ++ q.layers (d + 1))
  | seq2 p q, d => (d, .seq2) :: (p.layers (d + 1) ++ q.layers (d + 1))
  | seq3 p q r, d =>
    (d, .seq3) :: (p.layers (d + 1) ++ q.layers (d + 1) ++ r.layers (d + 1))

theorem layers_eq_cons (p : Program) (d : Nat) :
    p.layers d = (d, p.kind) :: p.children.flatMap (·.layers (d + 1)) := by
  cases p <;> simp [layers, kind, children]

/-- Without their depths they are the kinds in pre-order. -/
theorem map_snd_layers (p : Program) (d : Nat) : (p.layers d).map Prod.snd = p.kinds := by
  induction p generalizing d with
  | action a => rfl
  | ifFood p q ihp ihq => simp [layers, ihp, ihq, kinds_eq_cons (ifFood p q), kind, children]
  | seq2 p q ihp ihq => simp [layers, ihp, ihq, kinds_eq_cons (seq2 p q), kind, children]
  | seq3 p q r ihp ihq ihr =>
    simp [layers, ihp, ihq, ihr, kinds_eq_cons (seq3 p q r), kind, children]

/-- A program reaches down to its leaves: where all of them stand at least as deep as `least`,
so does its lowest level. -/
theorem le_height_of_leaves {p : Program} {d least : Nat}
    (h : ∀ e k, (e, k) ∈ p.layers d → k.isLeaf → least ≤ e) : least ≤ d + p.height := by
  -- any way down to a leaf will do, and the first child is always there
  induction p generalizing d with
  | action a => exact h d _ (List.mem_singleton_self _) rfl
  | ifFood p q ihp _ | seq2 p q ihp _ =>
    have hp := ihp (d := d + 1) fun e k hk => h e k (by simp [layers, hk])
    rw [height]
    omega
  | seq3 p q r ihp _ _ =>
    have hp := ihp (d := d + 1) fun e k hk => h e k (by simp [layers, hk])
    rw [height]
    omega

end Program

namespace Generator

variable {g : Generator} {d : Nat} {k : Kind}

/-! ## Notes -/

/-- Draws with notes: the kinds that were drawn, in order, each with the depth of the node
for which it was drawn. -/
abbrev Noted := StateT (List (Nat × Kind)) Draw

/-- A draw for a node at depth `d`, with a note of the kind that comes of it. -/
def noting {α : Type} (d : Nat) (kind : α → Kind) (draw : Draw α) : Noted α := do
  let x ← draw
  modify fun notes => notes ++ [(d, kind x)]
  return x

/-- The largest depth that is counted. -/
def maxDepth : Nat := 4294967295

/-- A random program whose root stands at a depth, with notes. -/
def growNoted (g : Generator) (depth : Nat) : Noted Program :=
  if depth < g.bounds.maxHeight then do
    let k ← noting depth id
      (Draw.pick (if depth < g.bounds.minHeight then g.branches else g.kinds))
    k.build do
      if maxDepth ≤ depth then throw .addOverflow
      g.growNoted (depth + 1)
  else do
    let a ← noting depth .action (Draw.pick g.leaves)
    return .action a
termination_by g.bounds.maxHeight - depth

/-- A random program within the bounds, with notes. -/
def generateNoted (g : Generator) : Noted Program := do
  let k ← noting 0 id (Draw.pick g.branches)
  k.build (g.growNoted 1)

/-- With notes, `d'` draws as `d` does, and adds `f` of what it gives to the notes. -/
def Notes {α : Type} (d' : Noted α) (d : Draw α) (f : α → List (Nat × Kind)) : Prop :=
  ∀ notes, d'.run notes = (fun x => (x, notes ++ f x)) <$> d

theorem notes_noting {α : Type} (d : Nat) (kind : α → Kind) (draw : Draw α) :
    Notes (noting d kind draw) draw fun x => [(d, kind x)] := by
  intro notes
  simp [noting]

/-- A node notes itself and then all below it. -/
theorem Notes.node {kind : Draw Kind} {child' : Noted Program} {child : Draw Program}
    (h : Notes child' child (·.layers (d + 1))) :
    Notes (noting d id kind >>= fun k => k.build child') (kind >>= fun k => k.build child)
      (·.layers d) := by
  intro notes
  rw [StateT.run_bind, notes_noting, bind_map_left, map_bind]
  refine bind_congr fun k => ?_
  cases k with
  | action a => simp [Kind.build, Program.layers]
  | ifFood => simp [Kind.build, h _, Program.layers]
  | seq2 => simp [Kind.build, h _, Program.layers]
  | seq3 => simp [Kind.build, h _, Program.layers]

/-- Counting up from a depth and counting down the levels that are left are the same. -/
theorem notes_growNoted (hmax : g.bounds.maxHeight ≤ maxDepth) (hd : d ≤ g.bounds.maxHeight) :
    Notes (g.growNoted d) (g.grow (g.bounds.maxHeight - d)) (·.layers d) := by
  induction hn : g.bounds.maxHeight - d generalizing d with
  | zero =>
    intro notes
    rw [growNoted, if_neg (by omega), grow, StateT.run_bind, notes_noting]
    simp [Program.layers]
  | succ n ih =>
    have hlt : d < g.bounds.maxHeight := by omega
    have hroom : ¬maxDepth ≤ d := by omega
    have hkinds : g.kindsAbove (n + 1) =
        if d < g.bounds.minHeight then g.branches else g.kinds := by
      rw [kindsAbove, ← hn, Nat.sub_sub_self hd]
    have hchild := ih (d := d + 1) hlt (by omega)
    rw [growNoted, if_pos hlt, grow, hkinds]
    simp only [if_neg hroom]
    exact Notes.node hchild

/-- The notes are the nodes of the program, and nothing else about it changes. -/
theorem run_generateNoted (hpos : 0 < g.bounds.maxHeight) (hmax : g.bounds.maxHeight ≤ maxDepth) :
    g.generateNoted.run [] = (fun p => (p, p.layers 0)) <$> g.generate := by
  have hchild : Notes (g.growNoted 1) (g.grow (g.bounds.maxHeight - 1)) (·.layers 1) :=
    notes_growNoted hmax hpos
  exact Notes.node hchild []

/-! ## Discipline -/

/-- A generator whose bounds and kinds fit together. -/
structure Consistent (g : Generator) : Prop where
  maxHeight_pos : 0 < g.bounds.maxHeight
  minHeight_le : g.bounds.minHeight ≤ g.bounds.maxHeight
  leaf_mem : ∀ {a}, a ∈ g.leaves → .action a ∈ g.kinds
  branch_mem : ∀ {k}, k ∈ g.branches → k ∈ g.kinds ∧ k.isLeaf = false

theorem consistent_ofKinds {bounds : GrowthBounds} {kinds : List Kind}
    (h : ofKinds bounds kinds = .ok g) : g.Consistent := by
  obtain ⟨hc, -, -, rfl⟩ := ofKinds_cases h
  obtain ⟨hpos, hle⟩ := GrowthBounds.check_eq_ok_iff.mp hc
  refine ⟨hpos, hle, fun {a} ha => ?_, fun {k} hk => ?_⟩
  · obtain ⟨k, hk, hka⟩ := List.mem_filterMap.mp (List.mem_toArray.mp ha)
    cases k with
    | action b =>
      obtain rfl := Option.some.inj hka
      exact List.mem_toArray.mpr hk
    | _ => cases hka
  · have hm : k ∈ kinds.filter fun k => !k.isLeaf := List.mem_toArray.mp hk
    simpa using hm

/-- What is allowed of a node at a depth: its kind is one of those that are given, it is not
too deep, and if it is a leaf it is deep enough. -/
structure Allows (g : Generator) (d : Nat) (k : Kind) : Prop where
  mem : k ∈ g.kinds
  le_maxHeight : d ≤ g.bounds.maxHeight
  le_of_isLeaf : k.isLeaf → max g.bounds.minHeight 1 ≤ d

/-- Every node of a program is allowed where it stands, if the root stands at depth `d`. -/
def Permits (g : Generator) (d : Nat) (p : Program) : Prop :=
  ∀ e k, (e, k) ∈ p.layers d → g.Allows e k

theorem ensures_permits_build {child : Draw Program} (hk : g.Allows d k)
    (h : Ensures child (g.Permits (d + 1))) : Ensures (k.build child) (g.Permits d) := by
  refine (Ensures.build h k).weaken ?_
  rintro p ⟨rfl, hq⟩ e j hj
  rw [Program.layers_eq_cons, List.mem_cons, List.mem_flatMap] at hj
  rcases hj with hroot | ⟨q, hmem, hj⟩
  · obtain ⟨rfl, rfl⟩ := Prod.mk.inj hroot
    exact hk
  · exact hq q hmem e j hj

namespace Consistent

variable (h : g.Consistent)
include h

/-- What is drawn below the root for a node that may have more below it. -/
theorem allows_of_mem_kindsAbove {n : Nat} (hn : n < g.bounds.maxHeight)
    (hk : k ∈ g.kindsAbove n) : g.Allows (g.bounds.maxHeight - n) k := by
  unfold kindsAbove at hk
  split at hk
  · obtain ⟨hmem, hbranch⟩ := h.branch_mem hk
    exact ⟨hmem, Nat.sub_le .., fun hleaf => absurd hleaf (by simp [hbranch])⟩
  · next hdeep => exact ⟨hk, Nat.sub_le .., fun _ => by omega⟩

theorem ensures_permits_grow {n : Nat} (hn : n < g.bounds.maxHeight) :
    Ensures (g.grow n) (g.Permits (g.bounds.maxHeight - n)) := by
  induction n with
  | zero =>
    refine .bind (Draw.ensures_pick g.leaves) fun a ha => .pure ?_
    intro e k hk
    obtain ⟨rfl, rfl⟩ := Prod.mk.inj (List.mem_singleton.mp hk)
    have hmin := h.minHeight_le
    exact ⟨h.leaf_mem ha, Nat.le_refl _, fun _ => by omega⟩
  | succ n ih =>
    refine .bind (Draw.ensures_pick _) fun k hk =>
      ensures_permits_build (h.allows_of_mem_kindsAbove hn hk) ?_
    rw [show g.bounds.maxHeight - (n + 1) + 1 = g.bounds.maxHeight - n by omega]
    exact ih (by omega)

/-- The root is a branch, and below it everything stands where it may. -/
theorem ensures_permits_generate : Ensures g.generate (g.Permits 0) := by
  have hpos := h.maxHeight_pos
  refine .bind (Draw.ensures_pick g.branches) fun k hk => ensures_permits_build ?_ ?_
  · obtain ⟨hmem, hbranch⟩ := h.branch_mem hk
    exact ⟨hmem, Nat.zero_le _, fun hleaf => absurd hleaf (by simp [hbranch])⟩
  · have hgrow := h.ensures_permits_grow (n := g.bounds.maxHeight - 1) (by omega)
    rwa [Nat.sub_sub_self hpos] at hgrow

end Consistent

/-- Random programs keep to the bounds. From whatever kinds a generator was accepted with,
no draw is made from an empty array and the depth that is counted never overflows, so that
nothing but a draw without end keeps a program from coming about. The program has a branch
for its root and kinds from among the given ones. Its leaves stand at the least height or
deeper, and never at the root, none of its nodes deeper than the greatest height, and its
own height lies between the two. What has been drawn for it are its kinds in pre-order, one
draw for each node. -/
theorem generate_disciplined {bounds : GrowthBounds} {kinds : List Kind}
    (h : ofKinds bounds kinds = .ok g) (hmax : bounds.maxHeight < UInt32.size) :
    (∀ s e, (g.generateNoted.run []).run s = .error e → e = .endlessDraw) ∧
    ∀ s, g.generate.run s ≠ .error .endlessDraw → ∃ p s', g.generate.run s = .ok (p, s') ∧
      (g.generateNoted.run []).run s = .ok ((p, p.layers 0), s') ∧
      (p.layers 0).map Prod.snd = p.kinds ∧ p.isLeaf = false ∧
      (∀ d k, (d, k) ∈ p.layers 0 →
        k ∈ kinds ∧ d ≤ bounds.maxHeight ∧ (k.isLeaf → max bounds.minHeight 1 ≤ d)) ∧
      max bounds.minHeight 1 ≤ p.height ∧ p.height ≤ bounds.maxHeight := by
  have hc := consistent_ofKinds h
  have hunfailing := (stocked_ofKinds h).unfailing_generate
  have hsound := (sound_ofKinds h).ensures_generate
  obtain ⟨-, -, -, hg⟩ := ofKinds_cases h
  have hbounds : g.bounds = bounds := by rw [hg]
  have hkinds : g.kinds = kinds.toArray := by rw [hg]
  have hnoted := run_generateNoted hc.maxHeight_pos (by rw [hbounds]; exact Nat.le_of_lt_succ hmax)
  refine ⟨fun s e he => ?_, fun s hs => ?_⟩
  · rw [hnoted, run_map_eq_error] at he
    exact hunfailing s e he
  · cases hrun : g.generate.run s with
    | error e => exact absurd (hunfailing s e hrun ▸ hrun) hs
    | ok r =>
      obtain ⟨p, s'⟩ := r
      obtain ⟨hbranch, hheight⟩ := hsound _ _ _ hrun
      have hnodes : ∀ d k, (d, k) ∈ p.layers 0 →
          k ∈ kinds ∧ d ≤ bounds.maxHeight ∧ (k.isLeaf → max bounds.minHeight 1 ≤ d) := by
        intro d k hk
        obtain ⟨hmem, hle, hleaf⟩ := hc.ensures_permits_generate _ _ _ hrun d k hk
        rw [hbounds] at hle hleaf
        rw [hkinds] at hmem
        exact ⟨List.mem_toArray.mp hmem, hle, hleaf⟩
      have hleast := Program.le_height_of_leaves fun d k hk => (hnodes d k hk).2.2
      refine ⟨p, s', rfl, ?_, p.map_snd_layers 0, hbranch, hnodes, ?_, hbounds ▸ hheight⟩
      · rw [hnoted, run_map_eq_ok]
        exact ⟨p, hrun, rfl⟩
      · rwa [Nat.zero_add] at hleast

/-- All branches, and among the leaves a move twice as likely as a turn. -/
def assorted : Generator where
  bounds := { minHeight := 1, maxHeight := 2 }
  kinds := #[.seq2, .action .move, .action .move, .ifFood, .action .turnLeft, .seq3]
  leaves := #[.move, .move, .turnLeft]
  branches := #[.seq2, .ifFood, .seq3]

/-- A leaf at the least height, and three more at the greatest. -/
theorem generate_disciplined_assorted :
    ∃ p s', ofKinds { minHeight := 1, maxHeight := 2 }
        [.seq2, .action .move, .action .move, .ifFood, .action .turnLeft, .seq3] = .ok assorted ∧
      assorted.generate.run (.ofSeed 5) = .ok (p, s') ∧
      p = .seq2 (.action .turnLeft)
        (.seq3 (.action .move) (.action .turnLeft) (.action .move)) ∧
      (assorted.generateNoted.run []).run (.ofSeed 5) =
        .ok ((p, [(0, .seq2), (1, .action .turnLeft), (1, .seq3), (2, .action .move),
          (2, .action .turnLeft), (2, .action .move)]), s') ∧
      1 ≤ p.height ∧ p.height ≤ 2 := by
  have htree : assorted.generate.run' (.ofSeed 5) =
      .ok (.seq2 (.action .turnLeft)
        (.seq3 (.action .move) (.action .turnLeft) (.action .move))) :=
    eq_ok_of_toOption (by decide +kernel)
  obtain ⟨s₁, hrun⟩ := run'_eq_ok.mp htree
  have haccepted : ofKinds { minHeight := 1, maxHeight := 2 }
      [.seq2, .action .move, .action .move, .ifFood, .action .turnLeft, .seq3] = .ok assorted := rfl
  obtain ⟨p, s', hp, hnoted, -, -, -, hleast, hmost⟩ :=
    (generate_disciplined haccepted (by decide)).2 (.ofSeed 5) (by rw [hrun]; exact nofun)
  obtain ⟨rfl, rfl⟩ := Prod.mk.inj (Except.ok.inj (hp.symm.trans hrun))
  exact ⟨_, _, haccepted, hp, rfl, hnoted, hleast, hmost⟩

end Generator
end AntTrail
