import AntTrail.Proofs.Program.Notation

/-!
# Texts that are refused

Whether tokens are a program can be told without building one: it is enough to count the
nodes that are still needed, token by token (`countDown`). Reading a tree takes one off
that count and stops where the count stops (`counts_readTree`), so the count foretells
what the parser answers, and of several faults of a text which one it reports
(`parsePostfix_counted`).
-/
namespace AntTrail.Program

/-- How a count of the nodes that are needed can end. -/
inductive Verdict where
  /-- The last token is the last node that is needed. -/
  | complete
  /-- No node is needed, but there are tokens. -/
  | leftover (unread : List String)
  /-- A node is needed, and the token names none. -/
  | unknown (token : String)
  /-- Nodes are needed, but there is no token. -/
  | missing
deriving DecidableEq, Repr

/-- The count, from `need` on. A token is one node that is needed, and its kind needs as
many more as it has children. -/
def countDown (v : Vocabulary) : (need : Nat) → List String → Verdict
  | 0, [] => .complete
  | 0, t :: ts => .leftover (t :: ts)
  | _ + 1, [] => .missing
  | need + 1, t :: ts =>
    match v.lookup t with
    | .ok k => countDown v (need + k.arity) ts
    | .error _ => .unknown t

/-- The errors with which reading a tree can end, and how the count ends then. -/
inductive Stops : ParseError → Verdict → Prop
  | exhausted : Stops .exhausted .missing
  | unknown (t : String) : Stops (.unknownToken t) (.unknown t)

variable {α β : Type} {v : Vocabulary} {bound : Nat}

theorem countDown_token {k : Kind} (hk : k ∈ v) (need : Nat) (ts : List String) :
    countDown v (need + 1) (k.token :: ts) = countDown v (need + k.arity) ts := by
  rw [countDown, lookup_eq_ok.mpr ⟨rfl, hk⟩]

theorem lookup_eq_error {token : String} {e : ParseError} (h : v.lookup token = .error e) :
    e = .unknownToken token := by
  unfold Vocabulary.lookup at h
  split at h
  · cases h
  · exact (Except.error.inj h).symm

/-- Where no kind can be read, the count stops. -/
theorem stops_readKind {ts : List String} {e : ParseError} (h : (readKind v).run ts = .error e)
    (need : Nat) : Stops e (countDown v (need + 1) ts) := by
  cases ts with
  | nil =>
    obtain rfl := Except.error.inj h
    exact .exhausted
  | cons t ts =>
    have hl : v.lookup t = .error e := run_lift_eq_error.mp h
    rw [countDown, hl, lookup_eq_error hl]
    exact .unknown t

/-- On up to `bound` tokens `d` reads as many nodes as bring the count down by `n`, and if
it fails, so does the count. -/
structure Counts (v : Vocabulary) (bound : Nat) (d : Reading α) (n : Nat) : Prop where
  ok : ∀ ts a rest, ts.length ≤ bound → d.run ts = .ok (a, rest) →
    rest.length ≤ bound ∧ ∀ need, countDown v (need + n) ts = countDown v need rest
  error : ∀ ts e, ts.length ≤ bound → d.run ts = .error e →
    ∀ need, Stops e (countDown v (need + n) ts)

namespace Counts

theorem pure {a : α} : Counts v bound (Pure.pure a) 0 where
  ok := by
    intro ts b rest hts hr
    obtain ⟨-, rfl⟩ := run_pure_eq_ok.mp hr
    exact ⟨hts, fun need => rfl⟩
  error := nofun

/-- What two computations read one after the other adds up. -/
theorem bind {d : Reading α} {f : α → Reading β} {n m : Nat} (hd : Counts v bound d n)
    (hf : ∀ a, Counts v bound (f a) m) : Counts v bound (d >>= f) (m + n) where
  ok := by
    intro ts b rest hts hr
    obtain ⟨a, ts₁, h₁, h₂⟩ := run_bind_eq_ok.mp hr
    obtain ⟨hlen, hcount⟩ := hd.ok ts a ts₁ hts h₁
    obtain ⟨hlen', hcount'⟩ := (hf a).ok ts₁ b rest hlen h₂
    refine ⟨hlen', fun need => ?_⟩
    rw [← Nat.add_assoc, hcount, hcount']
  error := by
    intro ts e hts hr need
    rw [← Nat.add_assoc]
    rcases run_bind_eq_error.mp hr with h | ⟨a, ts₁, h₁, h₂⟩
    · exact hd.error ts e hts h (need + m)
    · obtain ⟨hlen, hcount⟩ := hd.ok ts a ts₁ hts h₁
      rw [hcount]
      exact (hf a).error ts₁ e hlen h₂ need

/-- Children are read one by one, as many as the kind has. -/
theorem build {child : Reading Program} (h : Counts v bound child 1) (k : Kind) :
    Counts v bound (k.build child) k.arity := by
  cases k with
  | action a => exact .pure
  | ifFood => exact h.bind fun p => h.bind fun q => .pure
  | seq2 => exact h.bind fun p => h.bind fun q => .pure
  | seq3 => exact h.bind fun p => h.bind fun q => h.bind fun r => .pure

/-- A node is read as its kind and then its children, from a token less. -/
theorem node {child : Reading Program} (h : Counts v bound child 1) :
    Counts v (bound + 1) (readKind v >>= fun k => k.build child) 1 where
  ok := by
    intro ts p rest hts hr
    obtain ⟨k, ts₁, h₁, h₂⟩ := run_bind_eq_ok.mp hr
    obtain ⟨hk, rfl⟩ := (reads_readKind v).of_run h₁
    obtain ⟨hlen, hcount⟩ := (h.build k).ok ts₁ p rest (Nat.le_of_succ_le_succ hts) h₂
    exact ⟨Nat.le_succ_of_le hlen, fun need => (countDown_token hk need ts₁).trans (hcount need)⟩
  error := by
    intro ts e hts hr need
    rcases run_bind_eq_error.mp hr with hr | ⟨k, ts₁, h₁, h₂⟩
    · exact stops_readKind hr need
    · obtain ⟨hk, rfl⟩ := (reads_readKind v).of_run h₁
      have hstop := (h.build k).error ts₁ e (Nat.le_of_succ_le_succ hts) h₂ need
      rwa [← countDown_token hk] at hstop

end Counts

/-- Reading a tree takes one off the count. The fuel is enough for the tokens, so it runs
out only with them. -/
theorem counts_readTree (v : Vocabulary) (fuel : Nat) : Counts v fuel (readTree v fuel) 1 := by
  induction fuel with
  | zero =>
    constructor
    · nofun
    · intro ts e hts hr need
      obtain rfl := List.length_eq_zero_iff.mp (Nat.le_zero.mp hts)
      obtain rfl := Except.error.inj hr
      exact .exhausted
  | succ fuel ih =>
    have hnode := ih.node
    rwa [readKind, bind_assoc] at hnode

/-! ## What the parser answers -/

theorem ofPostfixTokens_of_error {ts : List String} {e : ParseError} (hts : ts ≠ [])
    (h : takeTree v ts.reverse = .error e) : ofPostfixTokens v ts = .error e := by
  cases ts with
  | nil => exact absurd rfl hts
  | cons t ts =>
    rw [ofPostfixTokens, h]
    rfl

/-- Tokens that are not read stand before the others. -/
theorem ofPostfixTokens_of_leftover {ts rest : List String} {root : Program} (hrest : rest ≠ [])
    (h : takeTree v ts.reverse = .ok (root, rest)) :
    ∃ first, ts.head? = some first ∧
      ofPostfixTokens v ts = .error (.leftBefore rest.length first) := by
  obtain ⟨hsplit, -⟩ := takeTree_eq_ok.mp h
  have hts : ts = rest.reverse ++ root.polishTokens.reverse := by
    rw [← List.reverse_append, ← hsplit, List.reverse_reverse]
  cases hfront : rest.reverse with
  | nil => exact absurd (List.reverse_eq_nil_iff.mp hfront) hrest
  | cons first front =>
    rw [hfront, List.cons_append] at hts
    subst hts
    refine ⟨first, rfl, bind_eq_error.mpr (.inr ⟨(root, rest), h, ?_⟩)⟩
    dsimp only
    rw [hfront]
    rfl

/-- The parser answers what the count foretells. Tokens are counted off from the last one
to the first, for one node that is needed. If that ends in time there is a program; if
tokens are left over, they stand before a complete root and are reported by their number
and the first token of the text, whatever they are; a token without a kind is reported if
it is reached; and if nodes are missing, so are tokens. -/
theorem parsePostfix_counted (v : Vocabulary) (text : String) :
    match countDown v 1 (tokens text).reverse with
    | .complete => ∃ p, parsePostfix v text = .ok p
    | .leftover unread => ∃ (root : Program) (first : String),
      (tokens text).reverse = root.polishTokens ++ unread ∧ (tokens text).head? = some first ∧
      parsePostfix v text = .error (.leftBefore unread.length first) ∧
      (ParseError.leftBefore unread.length first).message =
        s!"Malformed program: {unread.length} unused token(s) before the root, starting with >>{first}<<"
    | .unknown t => parsePostfix v text = .error (.unknownToken t)
    | .missing =>
      parsePostfix v text = .error (if (tokens text).isEmpty then .empty else .exhausted) := by
  rw [parsePostfix]
  generalize tokens text = ts
  by_cases hts : ts = []
  · subst hts
    rfl
  have hcounts := counts_readTree v ts.reverse.length
  cases hrun : takeTree v ts.reverse with
  | error e =>
    have hstop := hcounts.error _ e (Nat.le_refl _) hrun 0
    rw [Nat.zero_add] at hstop
    rw [ofPostfixTokens_of_error hts hrun]
    generalize countDown v 1 ts.reverse = verdict at hstop
    cases hstop with
    | exhausted =>
      dsimp only
      rw [List.isEmpty_eq_false_iff.mpr hts]
      rfl
    | unknown t => rfl
  | ok r =>
    obtain ⟨root, rest⟩ := r
    obtain ⟨-, hcount⟩ := hcounts.ok _ root rest (Nat.le_refl _) hrun
    rw [← Nat.zero_add 1, hcount 0]
    cases rest with
    | nil => exact ⟨root, ofPostfixTokens_eq_ok.mpr hrun⟩
    | cons t rest =>
      obtain ⟨first, hfirst, hanswer⟩ := ofPostfixTokens_of_leftover (List.cons_ne_nil t rest) hrun
      exact ⟨root, first, (takeTree_eq_ok.mp hrun).1, hfirst, hanswer, rfl⟩

/-- A token without a kind is not reported if it is not reached. -/
example : countDown Kind.all 1 (tokens "jump l m").reverse = .leftover ["l", "jump"] := by cbv

end AntTrail.Program
