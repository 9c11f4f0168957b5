import AntTrail.Proofs.Program.Counter
import AntTrail.Proofs.Program.Simulation

/-!
# One notation is the other reversed

A text in postfix form need not be turned round to be read: a place in its tokens goes
back from the end, and each node takes the token before it (`readBack`). Step by step
this does what reading the reversed tokens from the front does (`Follows`), so it gives
the same answer (`ofTokensBack_eq`). From there a text and its reverse differ only in
how they call tokens that are left over (`ofPolishTokens_reverse`).
-/
namespace AntTrail

/-! ## Errors -/

namespace ParseError

/-- The tokens that were read name kinds, but they are no program. -/
def isMalformed : ParseError → Bool
  | unknownToken _ => false
  | _ => true

/-- The error of the reversed tokens in the other notation. What is left over stands
after the root there. -/
def reversed : ParseError → ParseError
  | leftBefore count _ => leftAfter count
  | e => e

theorem isMalformed_reversed (e : ParseError) : e.reversed.isMalformed = e.isMalformed := by
  cases e <;> rfl

end ParseError

namespace Program

variable {α β : Type} {v : Vocabulary} {ts : Array String}

/-! ## Reading backwards -/

/-- The computations that go back in some tokens. The state is the number of tokens before
the place that has been reached. -/
abbrev Backward (ts : Array String) := StateT (Fin (ts.size + 1)) (Except ParseError)

/-- The token before the place, which is then in front of it. -/
def tokenBefore (ts : Array String) : Backward ts String := do
  match ← get with
  | ⟨0, _⟩ => throw .exhausted
  | ⟨i + 1, h⟩ =>
    have hi : i < ts.size := Nat.lt_of_succ_lt_succ h
    set (⟨i, Nat.lt_of_succ_lt h⟩ : Fin (ts.size + 1))
    return ts[i]

/-- Takes one complete program, from its root back to the last of its tokens. Every node
takes a token, so as much `fuel` as there are tokens is enough. -/
def readBack (v : Vocabulary) (ts : Array String) : (fuel : Nat) → Backward ts Program
  | 0 => throw .exhausted
  | fuel + 1 => do
    let t ← tokenBefore ts
    let k ← v.lookup t
    k.build (readBack v ts fuel)

/-- The program with the given postfix tokens, read from the last token on. -/
def ofTokensBack (v : Vocabulary) (ts : Array String) : Except ParseError Program := do
  if ts.isEmpty then throw .empty
  let (p, place) ← (readBack v ts ts.size).run (Fin.last ts.size)
  if h : 0 < place.val then
    have hts : 0 < ts.size := Nat.lt_of_lt_of_le h (Nat.le_of_lt_succ place.isLt)
    throw (.leftBefore place.val ts[0])
  else return p

/-- The tokens before a place, in the order in which they are met on the way back. -/
def wayBack (ts : Array String) (place : Fin (ts.size + 1)) : List String :=
  (ts.toList.take place.val).reverse

theorem wayBack_last (ts : Array String) : wayBack ts (Fin.last ts.size) = ts.toList.reverse := by
  rw [wayBack, Fin.val_last, ← Array.length_toList, List.take_length]

theorem wayBack_succ {i : Nat} (h : i + 1 < ts.size + 1) (hi : i < ts.size) :
    wayBack ts ⟨i + 1, h⟩ = ts[i] :: wayBack ts ⟨i, Nat.lt_of_succ_lt h⟩ := by
  have hl : i < ts.toList.length := by rwa [Array.length_toList]
  rw [wayBack, List.take_succ_eq_append_getElem hl, List.reverse_append, List.reverse_singleton,
    List.singleton_append, Array.getElem_toList]
  rfl

theorem reverse_wayBack (ts : Array String) (place : Fin (ts.size + 1)) :
    (wayBack ts place).reverse = ts.toList.take place.val :=
  List.reverse_reverse _

theorem length_wayBack (ts : Array String) (place : Fin (ts.size + 1)) :
    (wayBack ts place).length = place.val := by
  rw [wayBack, List.length_reverse, List.length_take, Array.length_toList]
  exact Nat.min_eq_left (Nat.le_of_lt_succ place.isLt)

/-! ## Backwards and from the front -/

/-- Going back from any place does what reading the way back from its front does, and ends
where there is as much left of the way. -/
def Follows (d : Backward ts α) (d' : Reading α) : Prop :=
  ∀ place, Alike (fun x y => x.1 = y.1 ∧ y.2 = wayBack ts x.2) (d.run place)
    (d'.run (wayBack ts place))

namespace Follows

theorem pure {a : α} : Follows (Pure.pure a : Backward ts α) (Pure.pure a) :=
  fun _ => .ok ⟨rfl, rfl⟩

theorem throw {e : ParseError} :
    Follows (MonadExcept.throw e : Backward ts α) (MonadExcept.throw e) :=
  fun _ => .error e

theorem lift {x : Except ParseError α} : Follows (liftM x : Backward ts α) (liftM x) := by
  intro place
  cases x with
  | error e => exact .error e
  | ok a => exact .ok ⟨rfl, rfl⟩

theorem bind {d : Backward ts α} {d' : Reading α} {f : α → Backward ts β} {f' : α → Reading β}
    (h : Follows d d') (hf : ∀ a, Follows (f a) (f' a)) : Follows (d >>= f) (d' >>= f') := by
  intro place
  rw [StateT.run_bind, StateT.run_bind]
  refine (h place).bind ?_
  rintro ⟨a, next⟩ ⟨_, _⟩ ⟨rfl, rfl⟩
  exact hf a next

theorem token : Follows (tokenBefore ts) nextToken := by
  rintro ⟨_ | i, h⟩
  · exact .error _
  · have hi : i < ts.size := Nat.lt_of_succ_lt_succ h
    rw [wayBack_succ h hi]
    exact .ok ⟨rfl, rfl⟩

theorem build {child : Backward ts Program} {child' : Reading Program} (h : Follows child child')
    (k : Kind) : Follows (k.build child) (k.build child') := by
  cases k with
  | action a => exact pure
  | ifFood => exact h.bind fun p => h.bind fun q => pure
  | seq2 => exact h.bind fun p => h.bind fun q => pure
  | seq3 => exact h.bind fun p => h.bind fun q => h.bind fun r => pure

end Follows

theorem follows_readBack (v : Vocabulary) (ts : Array String) (fuel : Nat) :
    Follows (readBack v ts fuel) (readTree v fuel) := by
  induction fuel with
  | zero => exact .throw
  | succ fuel ih => exact Follows.token.bind fun t => Follows.lift.bind fun k => ih.build k

/-- Reading backwards gives the same answer as reading the reversed tokens. -/
theorem ofTokensBack_eq (v : Vocabulary) (ts : Array String) :
    ofTokensBack v ts = ofPostfixTokens v ts.toList := by
  obtain ⟨ts⟩ := ts
  cases ts with
  | nil => rfl
  | cons t ts =>
    have h := follows_readBack v (t :: ts).toArray (t :: ts).length (Fin.last _)
    rw [wayBack_last] at h
    rw [ofTokensBack, ofPostfixTokens, takeTree, List.length_reverse]
    refine h.bind_eq ?_
    rintro ⟨p, place⟩ ⟨_, _⟩ ⟨rfl, rfl⟩
    dsimp only
    rw [length_wayBack, reverse_wayBack]
    obtain ⟨_ | i, hi⟩ := place <;> rfl

/-! ## What the parsers answer -/

/-- Where no tree can be taken nothing is left over, so the error is the same for both. -/
theorem reversed_of_takeTree {ts : List String} {e : ParseError} (h : takeTree v ts = .error e) :
    e.reversed = e := by
  have hstop := (counts_readTree v ts.length).error ts e (Nat.le_refl _) h 0
  generalize countDown v (0 + 1) ts = verdict at hstop
  cases hstop <;> rfl

/-- Reading a list of tokens in one notation and the reversed list in the other gives the
same program, or the same error but for its words. -/
theorem ofPolishTokens_reverse (v : Vocabulary) (ts : List String) :
    ofPolishTokens v ts.reverse = (ofPostfixTokens v ts).mapError .reversed := by
  rw [ofPolishTokens, ofPostfixTokens, List.isEmpty_reverse]
  cases ts with
  | nil => rfl
  | cons t ts =>
    cases ht : takeTree v (t :: ts).reverse with
    | error e => exact congrArg Except.error (reversed_of_takeTree ht).symm
    | ok r =>
      obtain ⟨p, rest⟩ := r
      simp only [List.isEmpty_cons, Bool.false_eq_true, if_false, ok_bind]
      -- the first of the tokens that are left over is the last one in the other notation
      cases rest with
      | nil => rfl
      | cons r rest =>
        cases hr : (r :: rest).reverse with
        | nil => exact absurd (List.reverse_eq_nil_iff.mp hr) (List.cons_ne_nil r rest)
        | cons first front => rfl

/-- Tokens without a blank are found again in the text that they make with spaces between
them, the empty ones apart. -/
theorem tokens_spaced_of_forall {ts : List String}
    (h : ∀ t ∈ ts, ∀ c ∈ t.toList, Text.isBlank c = false) :
    tokens (spaced ts) = ts.filter fun t => !t.toList.isEmpty := by
  by_cases hts : ts = []
  · subst hts
    rfl
  have hws : ∀ w ∈ ts.map String.toList, ∀ c ∈ w, Text.isBlank c = false := by
    simpa using h
  rw [tokens, spaced, String.toList_ofList, Text.words,
    Text.splitOnP_unwords (by simpa using hts) hws, List.filter_map, List.map_map]
  simp [Function.comp_def]

theorem tokens_spaced_reverse {ts : List String}
    (h : ∀ t ∈ ts, ∀ c ∈ t.toList, Text.isBlank c = false) :
    tokens (spaced ts.reverse) = (tokens (spaced ts)).reverse := by
  rw [tokens_spaced_of_forall h, tokens_spaced_of_forall fun t ht => h t (List.mem_reverse.mp ht),
    List.filter_reverse]

/-- Reversing the tokens of a text takes one notation to the other, in print and in reading.
The tokens of a program in one are those of the other reversed. A parser that goes back
from the last token reads the postfix form. And for every vocabulary and every list of
tokens, the list in postfix form and the reversed list in Polish form are read as the same
program, or refused for the same unknown token, or both malformed, in the same way. -/
theorem parse_reversed (v : Vocabulary) :
    (∀ p : Program, tokens p.polishText = (tokens p.postfixText).reverse) ∧
    (∀ text, parsePostfix v text = ofTokensBack v (tokens text).toArray) ∧
    ∀ ts : List String, (∀ t ∈ ts, ∀ c ∈ t.toList, Text.isBlank c = false) →
      parsePolish v (spaced ts.reverse) = (parsePostfix v (spaced ts)).mapError .reversed ∧
      ((∃ p, parsePostfix v (spaced ts) = .ok p ∧ parsePolish v (spaced ts.reverse) = .ok p) ∨
        (∃ t, parsePostfix v (spaced ts) = .error (.unknownToken t) ∧
          parsePolish v (spaced ts.reverse) = .error (.unknownToken t)) ∨
        ∃ e e', parsePostfix v (spaced ts) = .error e ∧
          parsePolish v (spaced ts.reverse) = .error e' ∧ e.isMalformed ∧ e'.isMalformed) := by
  refine ⟨fun p => ?_, fun text => (ofTokensBack_eq v _).symm, fun ts hts => ?_⟩
  · rw [tokens_polishText, tokens_postfixText, polishTokens_eq_reverse]
  have hrev :
      parsePolish v (spaced ts.reverse) = (parsePostfix v (spaced ts)).mapError .reversed := by
    rw [parsePolish, tokens_spaced_reverse hts, ofPolishTokens_reverse, parsePostfix]
  refine ⟨hrev, ?_⟩
  rw [hrev]
  cases parsePostfix v (spaced ts) with
  | ok p => exact .inl ⟨p, rfl, rfl⟩
  | error e =>
    cases hm : e.isMalformed with
    | true => exact .inr (.inr ⟨e, e.reversed, rfl, rfl, hm, e.isMalformed_reversed.trans hm⟩)
    | false =>
      cases e with
      | unknownToken t => exact .inr (.inl ⟨t, rfl, rfl⟩)
      | _ => cases hm

theorem parse_reversed_leftover :
    (∀ t ∈ ["jump", "l", "m"], ∀ c ∈ t.toList, Text.isBlank c = false) ∧
      parsePostfix Kind.all (spaced ["jump", "l", "m"]) = .error (.leftBefore 2 "jump") ∧
      parsePolish Kind.all (spaced ["m", "l", "jump"]) = .error (.leftAfter 2) := by
  have hall : ["jump", "l", "m"].all (fun t => t.toList.all (Text.isBlank · = false)) = true := by
    decide
  have hts : ∀ t ∈ ["jump", "l", "m"], ∀ c ∈ t.toList, Text.isBlank c = false := fun t ht c hc =>
    of_decide_eq_true (List.all_eq_true.mp (List.all_eq_true.mp hall t ht) c hc)
  have hpost :
      parsePostfix Kind.all (spaced ["jump", "l", "m"]) = .error (.leftBefore 2 "jump") := by
    rfl
  refine ⟨hts, hpost, ?_⟩
  have h := ((parse_reversed Kind.all).2.2 ["jump", "l", "m"] hts).1
  rw [hpost] at h
  exact h

end Program
end AntTrail
