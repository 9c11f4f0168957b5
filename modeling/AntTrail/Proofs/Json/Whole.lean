import AntTrail.Json.Reader
import AntTrail.Proofs.Json.Document

/-!
# Readers take whole values

A reader that is given a document either takes it as a whole or fails, and what comes after the
document has no say in it (`Reader.Whole`). So where a record is read, the next member is found
where the last one ends, whichever value it has. Plain values, values that may be `null` and
named values are read in this way.
-/
namespace AntTrail.Json

/-- The text for which the pieces of a string stand, if they stand for one. -/
def text? (ps : List Piece) : Option String := (quotation ps).read.toOption

/-- A text as it stands. -/
def pieces (s : String) : List Piece := s.toList.map .char

theorem text?_pieces (s : String) : text? (pieces s) = some s := by
  rw [text?, quotation, pieces, joined_map_char]
  exact congrArg some String.ofList_toList

/-! ## Documents that write a value -/

namespace Document

/-- An integer, written as such. -/
def WritesInteger (n : Int) (d : Document) : Prop := ∃ l, d = .number l ∧ l.Writes n

/-- A floating point number, written as an integer. -/
def WritesReal (x : Float) (d : Document) : Prop :=
  ∃ l, d = .number l ∧ l.IsInteger ∧
    ((∃ n, l.value = .ok (.integer n) ∧ x = Float.ofInt n) ∨ l.value = .ok (.real x))

/-- A string that stands for a text. -/
def WritesText (s : String) (d : Document) : Prop := ∃ ps, d = .string ps ∧ text? ps = some s

/-- `null`, or a value. -/
def WritesOptional {α : Type} (writes : α → Document → Prop) : Option α → Document → Prop
  | none, d => d = .null
  | some a, d => writes a d

/-- The name of a value, or a record with the name as its only key and nothing there. -/
def WritesName (s : String) (d : Document) : Prop :=
  ∃ ps, text? ps = some s ∧ (d = .string ps ∨ d = .record [(ps, .null)])

end Document

namespace Reader

variable {α β : Type} {r : Reader α} {f : α → Reader β} {ts us : List Token} {a : α} {b : β}

/-- The reader takes just these tokens, whatever follows them. -/
def Takes (r : Reader α) (ts : List Token) (a : α) : Prop :=
  ∀ rest, r.run (ts ++ rest) = .ok (a, rest)

/-- The reader fails on these tokens, whatever follows them. -/
def Refuses (r : Reader α) (ts : List Token) : Prop :=
  ∀ rest, ∃ e, r.run (ts ++ rest) = .error e

/-- Any document is taken as a whole or refused. -/
def Whole (r : Reader α) : Prop := ∀ d : Document, (∃ a, r.Takes d.tokens a) ∨ r.Refuses d.tokens

/-! ## One reader after the other -/

theorem Takes.bind (h : r.Takes ts a) (hf : (f a).Takes us b) : (r >>= f).Takes (ts ++ us) b := by
  intro rest
  rw [List.append_assoc, run_bind_ok (h _)]
  exact hf rest

theorem Takes.bind_refuses (h : r.Takes ts a) (hf : (f a).Refuses us) :
    (r >>= f).Refuses (ts ++ us) := by
  intro rest
  rw [List.append_assoc, run_bind_ok (h _)]
  exact hf rest

theorem Refuses.bind (h : r.Refuses ts) : (r >>= f).Refuses (ts ++ us) := by
  intro rest
  obtain ⟨e, he⟩ := h (us ++ rest)
  exact ⟨e, by rw [List.append_assoc, run_bind_error he]⟩

section
variable {t : Token}

theorem Takes.cons (h : r.Takes [t] a) (hf : (f a).Takes us b) : (r >>= f).Takes (t :: us) b :=
  h.bind hf

theorem Takes.cons_refuses (h : r.Takes [t] a) (hf : (f a).Refuses us) :
    (r >>= f).Refuses (t :: us) :=
  h.bind_refuses hf

theorem Refuses.cons (h : r.Refuses [t]) : (r >>= f).Refuses (t :: us) := h.bind

end

/-- Nothing more is taken by what comes after. -/
theorem Takes.andThen (h : r.Takes ts a) (hf : (f a).Takes [] b) : (r >>= f).Takes ts b := by
  simpa using h.bind hf

theorem Refuses.andThen (h : r.Refuses ts) : (r >>= f).Refuses ts := by
  rw [← List.append_nil ts]
  exact h.bind

theorem Takes.map (h : r.Takes ts a) (g : α → β) : (g <$> r).Takes ts (g a) := by
  intro rest
  exact run_map_eq_ok.mpr ⟨a, h rest, rfl⟩

theorem Refuses.map (h : r.Refuses ts) (g : α → β) : (g <$> r).Refuses ts := by
  intro rest
  obtain ⟨e, he⟩ := h rest
  exact ⟨e, run_map_eq_error.mpr he⟩

theorem Whole.map (h : r.Whole) (g : α → β) : (g <$> r).Whole := by
  intro d
  rcases h d with ⟨a, h⟩ | h
  · exact .inl ⟨g a, h.map g⟩
  · exact .inr (h.map g)

/-- What is taken is not refused. -/
theorem Takes.not_refuses (h : r.Takes ts a) : ¬r.Refuses ts := by
  intro href
  obtain ⟨e, he⟩ := href []
  rw [h []] at he
  cases he

/-! ## Plain values -/

section
variable {wanted : String} {accept : Found → Option (Except ReadError α)} {t : Token} {v : Found}

/-- A plain value is told by its first token. -/
theorem plain_run (t : Token) (rest : List Token) :
    (plain wanted accept).run (t :: rest) =
      match found t with
      | .error e => .error (.syntaxError e)
      | .ok v =>
        match accept v with
        | some (.ok a) => .ok (a, rest)
        | some (.error e) => .error e
        | none => .error (.wrongType v wanted) := by
  have hlook : lookAhead.run (t :: rest) = (answer (found t)).run (t :: rest) := rfl
  cases ht : found t with
  | error e =>
    rw [ht] at hlook
    exact run_bind_error hlook
  | ok v =>
    rw [ht] at hlook
    rw [plain, run_bind_ok hlook]
    dsimp only
    rcases accept v with _ | ⟨e | a⟩ <;> rfl

theorem plain_takes (ht : found t = .ok v) (ha : accept v = some (.ok a)) :
    (plain wanted accept).Takes [t] a := by
  intro rest
  rw [List.singleton_append, plain_run, ht]
  dsimp only
  rw [ha]

/-- What does not begin with an accepted value is refused. -/
theorem plain_refuses (h : ∀ v a, found t = .ok v → accept v ≠ some (.ok a)) (ts : List Token) :
    (plain wanted accept).Refuses (t :: ts) := by
  intro rest
  rw [List.cons_append, plain_run]
  cases ht : found t with
  | error e => exact ⟨_, rfl⟩
  | ok v =>
    dsimp only
    cases ha : accept v with
    | none => exact ⟨_, rfl⟩
    | some answer =>
      cases answer with
      | error e => exact ⟨_, rfl⟩
      | ok a => exact absurd ha (h v a ht)

theorem plain_takes_or_refuses (t : Token) :
    (∃ a, (plain wanted accept).Takes [t] a) ∨ (plain wanted accept).Refuses [t] := by
  by_cases h : ∃ v a, found t = .ok v ∧ accept v = some (.ok a)
  · obtain ⟨v, a, ht, ha⟩ := h
    exact .inl ⟨a, plain_takes ht ha⟩
  · exact .inr (plain_refuses (fun v a ht ha => h ⟨v, a, ht, ha⟩) [])

/-- Who accepts no brackets sees of a document all there is. -/
theorem plain_whole (hlist : accept .list = none) (hrecord : accept .record = none) :
    (plain wanted accept).Whole := by
  intro d
  cases d with
  | list ds =>
    rw [Document.tokens_list]
    refine .inr (plain_refuses ?_ _)
    rintro _ a ⟨⟩
    simp [hlist]
  | record ms =>
    rw [Document.tokens_record]
    refine .inr (plain_refuses ?_ _)
    rintro _ a ⟨⟩
    simp [hrecord]
  | _ => exact plain_takes_or_refuses _

end

theorem integer_whole (wanted : String) (low high : Int) : (integer wanted low high).Whole :=
  plain_whole rfl rfl

theorem int32_whole : int32.Whole := Whole.map (integer_whole _ _ _) _

theorem uint32_whole : uint32.Whole := Whole.map (integer_whole _ _ _) _

theorem uint64_whole : uint64.Whole := Whole.map (integer_whole _ _ _) _

theorem size_whole : size.Whole := Whole.map (integer_whole _ _ _) _

/-- What is found where a number is. -/
def numberFound : Number → Found
  | .integer n => .integer n
  | .real x => .real x

theorem found_atom {l : Literal} {x : Number} (h : l.value = .ok x) :
    found (.atom l.atom) = .ok (numberFound x) := by
  rw [Literal.atom, h]
  cases x <;> rfl

/-- An integer between the bounds is taken. -/
theorem integer_takes {wanted : String} {low high n : Int} {l : Literal} (h : l.Writes n)
    (hbounds : -9223372036854775808 ≤ low ∧ high ≤ 18446744073709551615)
    (hlow : low ≤ n) (hhigh : n ≤ high) :
    (integer wanted low high).Takes (Document.number l).tokens n := by
  have hvalue : l.value = .ok (.integer n) := h.value_eq (by omega) (by omega)
  exact plain_takes (found_atom hvalue) (by simp [numberFound, hlow, hhigh])

/-- A number that does not mean an integer is refused, whatever its size. -/
theorem integer_refuses {wanted : String} {low high : Int} {l : Literal}
    (h : ∀ n, l.value ≠ .ok (.integer n)) :
    (integer wanted low high).Refuses (Document.number l).tokens := by
  refine plain_refuses (fun v n hfound => ?_) []
  change found (.atom l.atom) = .ok v at hfound
  cases hvalue : l.value with
  | error e =>
    rw [Literal.atom, hvalue] at hfound
    cases hfound
  | ok x =>
    cases x with
    | integer n => exact absurd hvalue (h n)
    | real x =>
      obtain rfl := Except.ok.inj ((found_atom hvalue).symm.trans hfound)
      simp [numberFound]

theorem int32_takes {n : Int32} {d : Document} (h : d.WritesInteger n.toInt) :
    int32.Takes d.tokens n := by
  obtain ⟨l, rfl, hl⟩ := h
  have hlow : -2147483648 ≤ n.toInt := n.le_toInt
  have hhigh : n.toInt ≤ 2147483647 := Int.le_of_lt_add_one n.toInt_lt
  have htakes : (Int32.ofInt <$> integer "i32" (-2147483648) 2147483647).Takes
      (Document.number l).tokens (Int32.ofInt n.toInt) :=
    (integer_takes hl (by omega) hlow hhigh).map Int32.ofInt
  rwa [Int32.ofInt_toInt] at htakes

/-- A natural number up to the bound is taken. -/
theorem natural_takes {wanted : String} {n : Nat} {high : Int} {d : Document}
    (h : d.WritesInteger n) (hn : n ≤ high) (hhigh : high ≤ 18446744073709551615) :
    (Int.toNat <$> integer wanted 0 high).Takes d.tokens n := by
  obtain ⟨l, rfl, hl⟩ := h
  exact (integer_takes hl (by omega) (by omega) (by omega)).map Int.toNat

theorem uint32_takes {n : UInt32} {d : Document} (h : d.WritesInteger n.toNat) :
    uint32.Takes d.tokens n.toNat :=
  natural_takes h (Int.ofNat_le.mpr (Nat.le_of_lt_add_one n.toNat_lt)) (by decide)

theorem uint64_takes {n : UInt64} {d : Document} (h : d.WritesInteger n.toNat) :
    uint64.Takes d.tokens n.toNat :=
  natural_takes h (Int.ofNat_le.mpr (Nat.le_of_lt_add_one n.toNat_lt)) (by decide)

theorem size_takes {n : UInt64} {d : Document} (h : d.WritesInteger n.toNat) :
    size.Takes d.tokens n.toNat :=
  natural_takes h (Int.ofNat_le.mpr (Nat.le_of_lt_add_one n.toNat_lt)) (by decide)

theorem real_whole : real.Whole := plain_whole rfl rfl

theorem real_takes {x : Float} {d : Document} (h : d.WritesReal x) : real.Takes d.tokens x := by
  obtain ⟨l, rfl, -, ⟨n, hvalue, rfl⟩ | hvalue⟩ := h
  · exact plain_takes (found_atom hvalue) rfl
  · exact plain_takes (found_atom hvalue) rfl

theorem bool_whole : bool.Whole := plain_whole rfl rfl

theorem bool_takes (b : Bool) : bool.Takes (Document.bool b).tokens b := plain_takes rfl rfl

theorem unit_whole : unit.Whole := plain_whole rfl rfl

theorem string_whole (wanted : String) : (string wanted).Whole := plain_whole rfl rfl

theorem read_eq_ok {ps : List Piece} {s : String} :
    (quotation ps).read = .ok s ↔ text? ps = some s := by
  rw [text?]
  cases (quotation ps).read <;> simp [Except.toOption]

theorem string_takes {ps : List Piece} {s : String} (h : text? ps = some s) (wanted : String) :
    (string wanted).Takes [.string (quotation ps)] s := by
  have hfound : found (.string (quotation ps)) = .ok (.string s) := by
    rw [found, read_eq_ok.mpr h]
    rfl
  exact plain_takes hfound rfl

theorem text_takes {s : String} {d : Document} (h : d.WritesText s) (wanted : String) :
    (string wanted).Takes d.tokens s := by
  obtain ⟨ps, rfl, hs⟩ := h
  exact string_takes hs wanted

theorem string_refuses {ps : List Piece} (h : text? ps = none) (wanted : String) :
    (string wanted).Refuses [.string (quotation ps)] := by
  refine plain_refuses (fun v s hfound => ?_) []
  cases hr : (quotation ps).read with
  | error e =>
    rw [found, hr] at hfound
    cases hfound
  | ok s =>
    rw [read_eq_ok.mp hr] at h
    cases h

/-! ## Values that may be absent -/

theorem optional_null (r : Reader α) : (optional r).Takes Document.null.tokens none :=
  fun _ => rfl

/-- Any other value is read as it would be otherwise. -/
theorem optional_run (r : Reader α) {d : Document} (hd : d ≠ .null) (rest : List Token) :
    (optional r).run (d.tokens ++ rest) = (some <$> r).run (d.tokens ++ rest) := by
  cases d with
  | null => exact absurd rfl hd
  | number l =>
    show (optional r).run (.atom l.atom :: rest) = (some <$> r).run (.atom l.atom :: rest)
    rw [Literal.atom]
    cases l.value <;> rfl
  | _ => rfl

theorem optional_takes_some {d : Document} (h : r.Takes d.tokens a) (hd : d ≠ .null) :
    (optional r).Takes d.tokens (some a) := by
  intro rest
  rw [optional_run r hd]
  exact h.map some rest

theorem optional_takes {writes : α → Document → Prop} {o : Option α} {d : Document}
    (hr : ∀ a, writes a d → r.Takes d.tokens a) (hnull : ∀ a, ¬writes a .null)
    (h : d.WritesOptional writes o) : (optional r).Takes d.tokens o := by
  cases o with
  | none =>
    obtain rfl : d = .null := h
    exact optional_null r
  | some a =>
    refine optional_takes_some (hr a h) ?_
    rintro rfl
    exact hnull a h

theorem optional_whole (h : r.Whole) : (optional r).Whole := by
  intro d
  by_cases hd : d = .null
  · subst hd
    exact .inl ⟨none, optional_null r⟩
  · rcases h d with ⟨a, ha⟩ | hr
    · exact .inl ⟨some a, optional_takes_some ha hd⟩
    · right
      intro rest
      rw [optional_run r hd]
      exact hr.map some rest

/-! ## Named values -/

section
variable {name : α → String} {values : List α} {ps : List Piece}

theorem variant_takes (h : text? ps = some (name a))
    (ha : values.find? (fun v => name v == name a) = some a) :
    (variant name values).Takes [.string (quotation ps)] a := by
  have hs := string_takes h "variant identifier"
  refine hs.andThen fun rest => ?_
  rw [ha]
  rfl

theorem variant_takes_or_refuses (ps : List Piece) :
    (∃ a, (variant name values).Takes [.string (quotation ps)] a) ∨
      (variant name values).Refuses [.string (quotation ps)] := by
  cases h : text? ps with
  | none => exact .inr (string_refuses h _).andThen
  | some s =>
    have hs := string_takes h "variant identifier"
    cases hv : values.find? fun v => name v == s with
    | none =>
      right
      refine hs.cons_refuses fun rest => ?_
      rw [hv]
      exact ⟨_, rfl⟩
    | some v =>
      left
      refine ⟨v, hs.andThen fun rest => ?_⟩
      rw [hv]
      rfl

theorem colon_takes : colon.Takes [.colon] () := fun _ => rfl

/-- The rest of a record whose one member has a name that has been read. -/
def onlyMember (v : α) : Reader α := do
  colon
  unit
  match ← peek with
  | some (.closing .record) =>
    advance
    return v
  | some _ => fail .expectedValue
  | none => fail (.endOf .record)

theorem choice_record (ps : List Piece) (rest : List Token) :
    (choice name values).run (.opening .record :: .string (quotation ps) :: rest) =
      (variant name values >>= onlyMember).run (.string (quotation ps) :: rest) := rfl

theorem onlyMember_takes (v : α) {d : Document} (h : unit.Takes d.tokens ()) :
    (onlyMember v).Takes (.colon :: (d.tokens ++ Document.memberTokens false [])) v := by
  refine colon_takes.cons (h.bind fun rest => ?_)
  rw [Document.memberTokens_nil]
  rfl

theorem onlyMember_takes_or_refuses (v : α) (d : Document) (ms : Members) :
    (∃ a, (onlyMember v).Takes (.colon :: (d.tokens ++ Document.memberTokens false ms)) a) ∨
      (onlyMember v).Refuses (.colon :: (d.tokens ++ Document.memberTokens false ms)) := by
  rcases unit_whole d with ⟨⟨⟩, hd⟩ | hd
  · cases ms with
    | nil => exact .inl ⟨v, onlyMember_takes v hd⟩
    | cons m ms =>
      right
      refine colon_takes.cons_refuses (hd.bind_refuses fun rest => ?_)
      rw [Document.memberTokens_cons]
      exact ⟨_, rfl⟩
  · exact .inr (colon_takes.cons_refuses hd.bind)

theorem choice_whole : (choice name values).Whole := by
  intro d
  cases d with
  | null => exact .inr fun _ => ⟨_, rfl⟩
  | bool b => exact .inr fun _ => ⟨_, rfl⟩
  | number l => exact .inr fun _ => ⟨_, rfl⟩
  | list ds => exact .inr fun _ => ⟨_, rfl⟩
  | string ps => exact variant_takes_or_refuses ps
  | record ms =>
    rw [Document.tokens_record]
    rcases ms with _ | ⟨⟨key, d⟩, ms⟩
    · exact .inr fun _ => ⟨_, rfl⟩
    · rw [Document.memberTokens_cons, Document.separator_true, List.nil_append]
      rcases variant_takes_or_refuses key with ⟨v, hv⟩ | hv
      · rcases onlyMember_takes_or_refuses v d ms with ⟨a, ha⟩ | ha
        · exact .inl ⟨a, fun rest => (choice_record key _).trans (hv.bind ha rest)⟩
        · right
          intro rest
          obtain ⟨e, he⟩ := hv.bind_refuses ha rest
          exact ⟨e, (choice_record key _).trans he⟩
      · right
        intro rest
        obtain ⟨e, he⟩ := hv.bind rest
        exact ⟨e, (choice_record key _).trans he⟩

/-- A named value is taken in both ways in which it can be written. -/
theorem choice_takes {d : Document} (h : d.WritesName (name a))
    (ha : values.find? (fun v => name v == name a) = some a) :
    (choice name values).Takes d.tokens a := by
  obtain ⟨ps, hps, rfl | rfl⟩ := h
  · exact fun rest => variant_takes hps ha rest
  · intro rest
    have honly := onlyMember_takes a (d := .null) fun _ => rfl
    rw [Document.tokens_record, Document.memberTokens_cons, Document.separator_true,
      List.nil_append]
    exact (choice_record ps _).trans ((variant_takes hps ha).bind honly rest)

end

end Reader

/-! ## Whole texts -/

section
variable {α : Type} {r : Reader α} {d : Document} {text : String} {a : α}

theorem readText_of_takes (hd : d.Spelt text) (h : r.Takes d.tokens a) :
    readText r text = .ok a := by
  have hrun : r.run d.tokens = .ok (a, []) := by simpa using h []
  rw [readText, Document.ofText_spelt hd, hrun]
  rfl

theorem readText_of_refuses (hd : d.Spelt text) (h : r.Refuses d.tokens) :
    ∃ e, readText r text = .error e := by
  obtain ⟨e, he⟩ := h []
  rw [List.append_nil] at he
  refine ⟨e, ?_⟩
  rw [readText, Document.ofText_spelt hd, he]
  rfl

end

end AntTrail.Json
