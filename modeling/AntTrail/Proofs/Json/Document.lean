import AntTrail.Json.Skip
import AntTrail.Proofs.Json.Lexeme

/-!
# Documents

A `Document` is a value of any kind as it is written, down to the escapes in its strings and
the digits of its numbers. `Document.Spelt` says which texts write it: its lexemes with any
blanks around them. Such a text is cut into the tokens of the document (`ofText_spelt`), and
where a value of any kind is to be skipped, a whole document is (`skip_tokens`).
-/
namespace AntTrail.Json

/-- A value as it is written. -/
inductive Document where
  | null
  | bool (b : Bool)
  | number (l : Literal)
  | string (ps : List Piece)
  | list (items : List Document)
  /-- Members in the order in which they are written; keys may repeat. -/
  | record (members : List (List Piece × Document))

/-- Members of a record: keys and values. -/
abbrev Members := List (List Piece × Document)

namespace Document

mutual

/-- What is written between blanks. -/
def lexemes : Document → List Lexeme
  | null => [.null]
  | bool b => [.bool b]
  | number l => [.number l]
  | string ps => [.string ps]
  | list ds => .opening .list :: itemLexemes true ds
  | record ms => .opening .record :: memberLexemes true ms

/-- The rest of a list, from an item on. -/
def itemLexemes (isFirst : Bool) : List Document → List Lexeme
  | [] => [.closing .list]
  | d :: ds => (if isFirst then [] else [.comma]) ++ (d.lexemes ++ itemLexemes false ds)

/-- The rest of a record, from a member on. -/
def memberLexemes (isFirst : Bool) : Members → List Lexeme
  | [] => [.closing .record]
  | (key, d) :: ms =>
    (if isFirst then [] else [.comma]) ++
      (.string key :: .colon :: (d.lexemes ++ memberLexemes false ms))

end

/-- The text writes the document. -/
def Spelt (d : Document) (text : String) : Prop := Spaced d.lexemes text.toList

/-! ## Numbers are kept apart -/

/-- A lexeme that is no number runs into none. -/
theorem isChain_cons {x : Lexeme} {xs : List Lexeme} (hx : x.isNumber = false)
    (h : xs.IsChain Lexeme.Parted) : (x :: xs).IsChain Lexeme.Parted :=
  List.isChain_cons.mpr ⟨fun _ _ hnum => absurd hnum (by simp [hx]), h⟩

theorem isChain_separator {isFirst : Bool} {xs : List Lexeme} (h : xs.IsChain Lexeme.Parted) :
    ((if isFirst then [] else [Lexeme.comma]) ++ xs).IsChain Lexeme.Parted := by
  cases isFirst with
  | true => exact h
  | false => exact isChain_cons rfl h

/-- No item comes right after another: a comma or a bracket stands between them. -/
theorem isNumber_itemLexemes (ds : List Document) (xs : List Lexeme) :
    ∀ y, (itemLexemes false ds ++ xs).head? = some y → y.isNumber = false := by
  cases ds <;> rintro y ⟨⟩ <;> rfl

theorem isNumber_memberLexemes (ms : Members) (xs : List Lexeme) :
    ∀ y, (memberLexemes false ms ++ xs).head? = some y → y.isNumber = false := by
  rcases ms with _ | ⟨⟨key, d⟩, ms⟩ <;> rintro y ⟨⟩ <;> rfl

mutual

theorem isChain_lexemes (d : Document) {xs : List Lexeme} (h : xs.IsChain Lexeme.Parted)
    (hx : ∀ y, xs.head? = some y → y.isNumber = false) :
    (d.lexemes ++ xs).IsChain Lexeme.Parted := by
  cases d with
  | null => exact isChain_cons rfl h
  | bool b => exact isChain_cons rfl h
  | number l => exact List.isChain_cons.mpr ⟨fun y hy _ => hx y hy, h⟩
  | string ps => exact isChain_cons rfl h
  | list ds => exact isChain_cons rfl (isChain_itemLexemes true ds h)
  | record ms => exact isChain_cons rfl (isChain_memberLexemes true ms h)

theorem isChain_itemLexemes (isFirst : Bool) (ds : List Document) {xs : List Lexeme}
    (h : xs.IsChain Lexeme.Parted) : (itemLexemes isFirst ds ++ xs).IsChain Lexeme.Parted := by
  cases ds with
  | nil => exact isChain_cons rfl h
  | cons d ds =>
    rw [itemLexemes, List.append_assoc, List.append_assoc]
    apply isChain_separator
    exact isChain_lexemes d (isChain_itemLexemes false ds h) (isNumber_itemLexemes ds xs)

theorem isChain_memberLexemes (isFirst : Bool) (ms : Members) {xs : List Lexeme}
    (h : xs.IsChain Lexeme.Parted) :
    (memberLexemes isFirst ms ++ xs).IsChain Lexeme.Parted := by
  cases ms with
  | nil => exact isChain_cons rfl h
  | cons m ms =>
    obtain ⟨key, d⟩ := m
    rw [memberLexemes, List.append_assoc]
    apply isChain_separator
    rw [List.cons_append, List.cons_append, List.append_assoc]
    apply isChain_cons rfl
    apply isChain_cons rfl
    exact isChain_lexemes d (isChain_memberLexemes false ms h) (isNumber_memberLexemes ms xs)

end

/-! ## Tokens -/

/-- The tokens of a document. -/
def tokens (d : Document) : List Token := d.lexemes.map Lexeme.token

/-- The tokens of the rest of a list, from an item on. -/
def itemTokens (isFirst : Bool) (ds : List Document) : List Token :=
  (itemLexemes isFirst ds).map Lexeme.token

/-- The tokens of the rest of a record, from a member on. -/
def memberTokens (isFirst : Bool) (ms : Members) : List Token :=
  (memberLexemes isFirst ms).map Lexeme.token

/-- What separates an item or a member from the one before it. -/
def separator (isFirst : Bool) : List Token := if isFirst then [] else [.comma]

theorem separator_true : separator true = [] := rfl

theorem separator_false : separator false = [.comma] := rfl

theorem tokens_list (ds : List Document) :
    (list ds).tokens = .opening .list :: itemTokens true ds := by
  rw [tokens, lexemes, List.map_cons]
  rfl

theorem tokens_record (ms : Members) :
    (record ms).tokens = .opening .record :: memberTokens true ms := by
  rw [tokens, lexemes, List.map_cons]
  rfl

theorem map_separator (isFirst : Bool) :
    (if isFirst then [] else [Lexeme.comma]).map Lexeme.token = separator isFirst := by
  cases isFirst <;> rfl

theorem itemTokens_nil (isFirst : Bool) : itemTokens isFirst [] = [.closing .list] := by
  rw [itemTokens, itemLexemes]
  rfl

theorem itemTokens_cons (isFirst : Bool) (d : Document) (ds : List Document) :
    itemTokens isFirst (d :: ds) = separator isFirst ++ (d.tokens ++ itemTokens false ds) := by
  rw [itemTokens, itemLexemes, List.map_append, List.map_append, map_separator]
  rfl

theorem memberTokens_nil (isFirst : Bool) : memberTokens isFirst [] = [.closing .record] := by
  rw [memberTokens, memberLexemes]
  rfl

theorem memberTokens_cons (isFirst : Bool) (key : List Piece) (d : Document) (ms : Members) :
    memberTokens isFirst ((key, d) :: ms) = separator isFirst ++
      (.string (quotation key) :: .colon :: (d.tokens ++ memberTokens false ms)) := by
  rw [memberTokens, memberLexemes, List.map_append, map_separator, List.map_cons, List.map_cons,
    List.map_append]
  rfl

/-- A text that writes a document is cut into its tokens. -/
theorem ofText_spelt {d : Document} {text : String} (h : d.Spelt text) :
    Token.ofText text = d.tokens := by
  have hchain : (d.lexemes ++ []).IsChain Lexeme.Parted :=
    isChain_lexemes d List.isChain_nil nofun
  rw [List.append_nil] at hchain
  exact Token.ofText_spaced h hchain

/-! ## Skipping -/

section
variable {bs : List Bracket} {rest : List Token}

/-- The first item of a list is a value. -/
theorem skip_first (d : Document) :
    skip ⟨.first, .list :: bs⟩ (d.tokens ++ rest) =
      skip ⟨.value, .list :: bs⟩ (d.tokens ++ rest) := by
  cases d <;> rfl

theorem skip_closing (b : Bracket) (isFirst : Bool) :
    skip ⟨if isFirst then .first else .more, b :: bs⟩ (.closing b :: rest) =
      skip ⟨.more, bs⟩ rest := by
  cases isFirst <;> simp [skip, Skip.isDone, Skip.step]

theorem skip_comma (b : Bracket) :
    skip ⟨.more, b :: bs⟩ (.comma :: rest) =
      skip ⟨if b = .list then .value else .key, b :: bs⟩ rest := by
  simp [skip, Skip.isDone, Skip.step]

theorem skip_key {e : Expected} (he : e = .first ∨ e = .key) (ps : List Piece) :
    skip ⟨e, .record :: bs⟩ (.string (quotation ps) :: .colon :: rest) =
      skip ⟨.value, .record :: bs⟩ rest := by
  have hskip : (quotation ps).skip = .ok () := by
    unfold quotation
    cases joined none ps <;> rfl
  rcases he with rfl | rfl <;>
    simp [skip, Skip.isDone, Skip.step, Skip.item, Skip.key, hskip, Except.map]

end

mutual

/-- Where a value is to be skipped, a whole document is. -/
theorem skip_tokens (d : Document) (bs : List Bracket) (rest : List Token) :
    skip ⟨.value, bs⟩ (d.tokens ++ rest) = skip ⟨.more, bs⟩ rest := by
  cases d with
  | null => rfl
  | bool b => rfl
  | number l =>
    show skip ⟨.value, bs⟩ (.atom l.atom :: rest) = _
    unfold Literal.atom
    cases l.value <;> rfl
  | string ps =>
    show skip ⟨.value, bs⟩ (.string (quotation ps) :: rest) = _
    unfold quotation
    cases joined none ps <;> rfl
  | list ds =>
    rw [tokens_list]
    exact skip_itemTokens true ds bs rest
  | record ms =>
    rw [tokens_record]
    exact skip_memberTokens true ms bs rest

/-- Inside a list, what is left of it is skipped. -/
theorem skip_itemTokens (isFirst : Bool) (ds : List Document) (bs : List Bracket)
    (rest : List Token) :
    skip ⟨if isFirst then .first else .more, .list :: bs⟩ (itemTokens isFirst ds ++ rest) =
      skip ⟨.more, bs⟩ rest := by
  cases ds with
  | nil =>
    rw [itemTokens_nil]
    exact skip_closing .list isFirst
  | cons d ds =>
    have hds := skip_itemTokens false ds bs rest
    rw [itemTokens_cons, List.append_assoc, List.append_assoc]
    cases isFirst with
    | true =>
      show skip ⟨.first, .list :: bs⟩ _ = _
      rw [separator_true, List.nil_append, skip_first, skip_tokens d]
      exact hds
    | false =>
      show skip ⟨.more, .list :: bs⟩ _ = _
      rw [separator_false, List.singleton_append, skip_comma, if_pos rfl, skip_tokens d]
      exact hds

/-- Inside a record, what is left of it is skipped. -/
theorem skip_memberTokens (isFirst : Bool) (ms : Members) (bs : List Bracket)
    (rest : List Token) :
    skip ⟨if isFirst then .first else .more, .record :: bs⟩ (memberTokens isFirst ms ++ rest) =
      skip ⟨.more, bs⟩ rest := by
  cases ms with
  | nil =>
    rw [memberTokens_nil]
    exact skip_closing .record isFirst
  | cons m ms =>
    obtain ⟨key, d⟩ := m
    have hms := skip_memberTokens false ms bs rest
    rw [memberTokens_cons, List.append_assoc, List.cons_append, List.cons_append,
      List.append_assoc]
    cases isFirst with
    | true =>
      show skip ⟨.first, .record :: bs⟩ _ = _
      rw [separator_true, List.nil_append, skip_key (.inl rfl), skip_tokens d]
      exact hms
    | false =>
      show skip ⟨.more, .record :: bs⟩ _ = _
      rw [separator_false, List.singleton_append, skip_comma, if_neg (by decide),
        skip_key (.inr rfl), skip_tokens d]
      exact hms

end

end Document
end AntTrail.Json
