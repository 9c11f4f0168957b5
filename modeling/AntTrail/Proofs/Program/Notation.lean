import AntTrail.Program.Parser
import AntTrail.Proofs.Program.Tree

/-!
# Notations are exact

What stands between blanks decides what a text means, and the two parsers accept
exactly the token lists that the two printers write. The argument is made once,
on lists of tokens: a token is read as a kind, so `Reads.tree` applies, and both
printers write the kinds in pre-order, the postfix one backwards. That a printed
text falls apart into its tokens again (`tokens_spaced`) then carries the result
to texts (`parsePostfix_eq_ok_iff`, `parsePolish_eq_ok_iff`).
-/
namespace AntTrail

/-! ## Words -/

namespace Text

theorem splitOnP_unwords {ws : List (List Char)} (hws : ws ≠ [])
    (h : ∀ w ∈ ws, ∀ c ∈ w, isBlank c = false) : (unwords ws).splitOnP isBlank = ws := by
  induction ws with
  | nil => exact absurd rfl hws
  | cons w ws ih =>
    obtain ⟨hw, hrest⟩ := List.forall_mem_cons.mp h
    cases ws with
    | nil =>
      rw [unwords, List.intercalate_singleton]
      exact List.splitOnP_eq_singleton hw
    | cons v vs =>
      have ht := ih (List.cons_ne_nil v vs) hrest
      rw [unwords] at ht
      rw [unwords, List.intercalate_cons_cons, List.append_assoc, List.singleton_append,
        List.splitOnP_append_cons_of_forall_mem hw ' ' (by decide), ht]

/-- Words with a space between neighbours are found again. -/
theorem words_unwords {ws : List (List Char)}
    (h : ∀ w ∈ ws, w ≠ [] ∧ ∀ c ∈ w, isBlank c = false) : words (unwords ws) = ws := by
  by_cases hws : ws = []
  · subst hws
    rfl
  · rw [words, splitOnP_unwords hws fun w hw => (h w hw).2, List.filter_eq_self]
    intro w hw
    cases w with
    | nil => exact absurd rfl (h [] hw).1
    | cons c cs => rfl

end Text

theorem Kind.token_word (k : Kind) :
    k.token.toList ≠ [] ∧ ∀ c ∈ k.token.toList, Text.isBlank c = false := by
  have h : k.token.toList.isEmpty = false ∧ k.token.toList.any Text.isBlank = false := by
    cases k with
    | action a => cases a <;> exact ⟨rfl, rfl⟩
    | _ => exact ⟨rfl, rfl⟩
  constructor
  · exact List.isEmpty_eq_false_iff.mp h.1
  · simpa using h.2

namespace Program

theorem tokens_spaced (ks : List Kind) :
    tokens (spaced (ks.map Kind.token)) = ks.map Kind.token := by
  have hw : ∀ w ∈ (ks.map Kind.token).map String.toList,
      w ≠ [] ∧ ∀ c ∈ w, Text.isBlank c = false := by
    simp only [List.mem_map]
    rintro _ ⟨_, ⟨k, -, rfl⟩, rfl⟩
    exact k.token_word
  rw [tokens, spaced, String.toList_ofList, Text.words_unwords hw, List.map_map]
  simp

theorem postfixTokens_eq_map (p : Program) :
    p.postfixTokens = (p.kinds.reverse).map Kind.token := by
  rw [List.map_reverse, ← polishTokens_eq_map, polishTokens_eq_reverse, List.reverse_reverse]

/-- The words of a printed program are its tokens. -/
@[simp] theorem tokens_postfixText (p : Program) : tokens p.postfixText = p.postfixTokens := by
  rw [postfixText, postfixTokens_eq_map, tokens_spaced]

@[simp] theorem tokens_polishText (p : Program) : tokens p.polishText = p.polishTokens := by
  rw [polishText, polishTokens_eq_map, tokens_spaced]

/-! ## Kinds -/

variable {v : Vocabulary}

theorem lookup_eq_ok {token : String} {k : Kind} :
    v.lookup token = .ok k ↔ token = k.token ∧ k ∈ v := by
  rw [Vocabulary.lookup]
  constructor
  · intro h
    split at h
    · next j hj =>
      obtain rfl := Except.ok.inj h
      have ht := List.find?_some hj
      exact ⟨(beq_iff_eq.mp ht).symm, List.mem_of_find?_eq_some hj⟩
    · cases h
  · rintro ⟨rfl, hk⟩
    cases hf : v.find? fun j => j.token == k.token with
    | none => exact absurd (BEq.rfl) (List.find?_eq_none.mp hf k hk)
    | some j =>
      have ht := List.find?_some hf
      rw [Kind.token_injective (beq_iff_eq.mp ht)]

/-- Reading one token as a kind. -/
def readKind (v : Vocabulary) : Reading Kind := do
  let t ← nextToken
  v.lookup t

theorem reads_readKind (v : Vocabulary) : Reads (readKind v) (fun k => [k.token]) (· ∈ v) where
  run_write := by
    intro k hk rest
    show (liftM (v.lookup k.token) : Reading Kind).run rest = _
    rw [lookup_eq_ok.mpr ⟨rfl, hk⟩]
    rfl
  of_run := by
    intro ts k rest hr
    cases ts with
    | nil => cases hr
    | cons t ts =>
      have hr : (liftM (v.lookup t) : Reading Kind).run ts = .ok (k, rest) := hr
      cases hl : v.lookup t with
      | error e => rw [hl] at hr; cases hr
      | ok j =>
        rw [hl] at hr
        obtain ⟨rfl, rfl⟩ := Prod.mk.inj (Except.ok.inj hr)
        obtain ⟨rfl, hv⟩ := lookup_eq_ok.mp hl
        exact ⟨hv, rfl⟩

/-! ## Token lists -/

theorem reads_readTree (v : Vocabulary) (fuel : Nat) :
    Reads (readTree v fuel) (fun p => p.kinds.flatMap fun k => [k.token])
      (fun p => p.height < fuel ∧ ∀ k ∈ p.kinds, k ∈ v) :=
  Reads.tree (reads_readKind v) (by intro ts p rest hr; cases hr)
    (fun fuel => by rw [readTree, readKind, bind_assoc]) fuel

/-- One program is taken from the front of some tokens just if its Polish form
stands there. -/
theorem takeTree_eq_ok {ts rest : List String} {p : Program} :
    takeTree v ts = .ok (p, rest) ↔ ts = p.polishTokens ++ rest ∧ ∀ k ∈ p.kinds, k ∈ v := by
  have hm : (p.kinds.flatMap fun k => [k.token]) = p.polishTokens := by
    rw [polishTokens_eq_map, List.map_eq_flatMap]
  constructor
  · intro h
    obtain ⟨⟨-, hv⟩, ht⟩ := (reads_readTree v ts.length).of_run h
    rw [hm] at ht
    exact ⟨ht, hv⟩
  · rintro ⟨rfl, hv⟩
    -- the fuel is the number of tokens, and a tree has more nodes than levels
    have hfuel : p.height < (p.polishTokens ++ rest).length := by
      rw [List.length_append, polishTokens_eq_map, List.length_map, length_kinds]
      have := p.height_lt_size
      omega
    have hr := (reads_readTree v _).run_write ⟨hfuel, hv⟩ rest
    rw [hm] at hr
    exact hr

theorem ofPolishTokens_eq_ok {ts : List String} {p : Program} :
    ofPolishTokens v ts = .ok p ↔ takeTree v ts = .ok (p, []) := by
  constructor
  · intro h
    cases ts with
    | nil => cases h
    | cons t ts =>
      obtain ⟨⟨q, rest⟩, ht, h⟩ := bind_eq_ok.mp h
      cases rest with
      | nil => rw [ht, Except.ok.inj h]
      | cons r rest => cases h
  · intro h
    cases ts with
    | nil => cases h
    | cons t ts =>
      rw [ofPolishTokens, h]
      rfl

theorem ofPostfixTokens_eq_ok {ts : List String} {p : Program} :
    ofPostfixTokens v ts = .ok p ↔ takeTree v ts.reverse = .ok (p, []) := by
  constructor
  · intro h
    cases ts with
    | nil => cases h
    | cons t ts =>
      obtain ⟨⟨q, rest⟩, ht, h⟩ := bind_eq_ok.mp h
      cases hr : rest.reverse with
      | nil =>
        obtain rfl := List.reverse_eq_nil_iff.mp hr
        rw [ht, Except.ok.inj h]
      | cons r front =>
        -- tokens before the root are an error
        dsimp only at h
        rw [hr] at h
        cases h
  · intro h
    cases ts with
    | nil => cases h
    | cons t ts =>
      rw [ofPostfixTokens, h]
      rfl

/-! ## Texts -/

/-- The texts in Polish form of a program are those with its tokens between
blanks, as far as the vocabulary has its kinds. -/
theorem parsePolish_eq_ok {text : String} {p : Program} :
    parsePolish v text = .ok p ↔ tokens text = tokens p.polishText ∧ ∀ k ∈ p.kinds, k ∈ v := by
  rw [parsePolish, ofPolishTokens_eq_ok, takeTree_eq_ok, List.append_nil, tokens_polishText]

theorem parsePostfix_eq_ok {text : String} {p : Program} :
    parsePostfix v text = .ok p ↔ tokens text = tokens p.postfixText ∧ ∀ k ∈ p.kinds, k ∈ v := by
  rw [parsePostfix, ofPostfixTokens_eq_ok, takeTree_eq_ok, List.append_nil, tokens_postfixText,
    polishTokens_eq_reverse, List.reverse_inj]

/-- Forms that can be read back tell programs apart. -/
theorem injective_of_read {print : Program → String} (parse : String → Except ParseError Program)
    (h : ∀ p, parse (print p) = .ok p) : Function.Injective print := by
  intro p q hpq
  have hq := h q
  rw [← hpq, h p] at hq
  exact Except.ok.inj hq

theorem polishText_injective : Function.Injective polishText :=
  injective_of_read (parsePolish Kind.all) fun _ =>
    parsePolish_eq_ok.mpr ⟨rfl, fun k _ => k.mem_all⟩

theorem postfixText_injective : Function.Injective postfixText :=
  injective_of_read (parsePostfix Kind.all) fun _ =>
    parsePostfix_eq_ok.mpr ⟨rfl, fun k _ => k.mem_all⟩

/-- Printing gives back what was read, with one space between neighbouring tokens
and no other blank. -/
theorem polishText_of_parse {text : String} {p : Program} (h : parsePolish v text = .ok p) :
    p.polishText = spaced (tokens text) := by
  rw [(parsePolish_eq_ok.mp h).1, tokens_polishText, polishText]

theorem postfixText_of_parse {text : String} {p : Program} (h : parsePostfix v text = .ok p) :
    p.postfixText = spaced (tokens text) := by
  rw [(parsePostfix_eq_ok.mp h).1, tokens_postfixText, postfixText]

/-- The parsers accept exactly what the printers write. For every vocabulary, a
text is read as a program just if it has the words of the program's printed form
and the vocabulary has the program's kinds. So reading undoes printing, printing
undoes reading up to blanks, and no two programs have the same form. -/
theorem parse_iff_print (v : Vocabulary) :
    (∀ text p, parsePostfix v text = .ok p ↔
      tokens text = tokens p.postfixText ∧ ∀ k ∈ p.kinds, k ∈ v) ∧
    (∀ text p, parsePolish v text = .ok p ↔
      tokens text = tokens p.polishText ∧ ∀ k ∈ p.kinds, k ∈ v) ∧
    (∀ p, (parsePostfix v p.postfixText = .ok p ↔ ∀ k ∈ p.kinds, k ∈ v) ∧
      (parsePolish v p.polishText = .ok p ↔ ∀ k ∈ p.kinds, k ∈ v)) ∧
    (∀ text p, (parsePostfix v text = .ok p → p.postfixText = spaced (tokens text)) ∧
      (parsePolish v text = .ok p → p.polishText = spaced (tokens text))) ∧
    Function.Injective postfixText ∧ Function.Injective polishText := by
  refine ⟨fun _ _ => parsePostfix_eq_ok, fun _ _ => parsePolish_eq_ok, fun p => ⟨?_, ?_⟩,
    fun _ _ => ⟨postfixText_of_parse, polishText_of_parse⟩, postfixText_injective,
    polishText_injective⟩
  · rw [parsePostfix_eq_ok, eq_self, true_and]
  · rw [parsePolish_eq_ok, eq_self, true_and]

end Program
end AntTrail
