import AntTrail.Proofs.Json.Whole

/-!
# Records are read member by member

`Schema.Gathers` says what a record with some members does to the fields that it describes:
members that are no field change nothing, and a field is changed by its value. It is all that a
reader of records does (`members_run`), so the members may stand in any order; and where it
cannot be said of the members, the record is refused (`gathers_or_blocks`). A field that is
written twice is such a case (`read_refuses_of_twice`), and so is a value that its own reader
refuses (`read_refuses_of_within`).
-/
namespace AntTrail.Json

open Document (memberTokens itemTokens separator)

/-- The values of the members with a name. -/
def valuesOf (name : String) (ms : Members) : List Document :=
  ms.filterMap fun m => if text? m.1 = some name then some m.2 else none

/-- All keys are texts: no half of a surrogate pair is alone. -/
def Legible (ms : Members) : Prop := ∀ m ∈ ms, (text? m.1).isSome = true

variable {key : List Piece} {d : Document} {ms : Members} {name n : String}

theorem valuesOf_cons_of_eq (h : text? key = some name) :
    valuesOf name ((key, d) :: ms) = d :: valuesOf name ms :=
  List.filterMap_cons_some (by simp [h])

theorem valuesOf_cons_of_ne (h : text? key ≠ some name) :
    valuesOf name ((key, d) :: ms) = valuesOf name ms :=
  List.filterMap_cons_none (by simp [h])

/-! ## Reading a member -/

namespace Reader

/-- A value that is skipped is skipped as a whole. -/
theorem skipped_takes (d : Document) : skipped.Takes d.tokens () := by
  intro rest
  have hskip : skip .start (d.tokens ++ rest) = .ok rest := by
    rw [Skip.start, Document.skip_tokens]
    cases rest <;> rfl
  show ((answer (skip .start (d.tokens ++ rest)) : Reader _) >>= set).run (d.tokens ++ rest) = _
  rw [hskip]
  rfl

end Reader

namespace Schema

variable {α : Type} {s : Schema α} {f : Field α} {change : α → α} {seen seen' : List String}
  {a a' : α} {rest : List Token}

theorem member_takes_other (hkey : text? key = some name) (hf : s.field? name = none) :
    (s.member seen).Takes (.string (quotation key) :: .colon :: d.tokens) (id, seen) := by
  refine (Reader.string_takes hkey _).cons fun rest => ?_
  rw [hf]
  exact Reader.colon_takes.cons ((Reader.skipped_takes d).andThen fun _ => rfl) rest

theorem member_takes_field (hkey : text? key = some name) (hf : s.field? name = some f)
    (hnew : f.name ∉ seen) (hd : f.read.Takes d.tokens change) :
    (s.member seen).Takes (.string (quotation key) :: .colon :: d.tokens)
      (change, f.name :: seen) := by
  refine (Reader.string_takes hkey _).cons fun rest => ?_
  rw [hf]
  dsimp only
  rw [if_neg (by simpa using hnew)]
  exact Reader.colon_takes.cons (hd.andThen fun _ => rfl) rest

theorem member_refuses_key (hkey : text? key = none) :
    (s.member seen).Refuses (.string (quotation key) :: .colon :: d.tokens) :=
  (Reader.string_refuses hkey _).cons

theorem member_refuses_seen (hkey : text? key = some name) (hf : s.field? name = some f)
    (hseen : f.name ∈ seen) :
    (s.member seen).Refuses (.string (quotation key) :: .colon :: d.tokens) := by
  refine (Reader.string_takes hkey _).cons_refuses fun rest => ?_
  rw [hf]
  dsimp only
  rw [if_pos (by simpa using hseen)]
  exact ⟨_, rfl⟩

theorem member_refuses_value (hkey : text? key = some name) (hf : s.field? name = some f)
    (hd : f.read.Refuses d.tokens) :
    (s.member seen).Refuses (.string (quotation key) :: .colon :: d.tokens) := by
  by_cases hnew : f.name ∈ seen
  · exact member_refuses_seen hkey hf hnew
  refine (Reader.string_takes hkey _).cons_refuses fun rest => ?_
  rw [hf]
  dsimp only
  rw [if_neg (by simpa using hnew)]
  exact Reader.colon_takes.cons_refuses hd.andThen rest

/-! ## Reading the members -/

/-- What members do to a record: from the fields that have been read and the record as it is to
those that have been read then and the record as it has become. -/
inductive Gathers (s : Schema α) : List String → α → Members → List String → α → Prop
  | nil {seen : List String} {a : α} : Gathers s seen a [] seen a
  | other {key : List Piece} {d : Document} {ms : Members} {name : String}
    {seen seen' : List String} {a a' : α} (hkey : text? key = some name)
    (hf : s.field? name = none) (h : Gathers s seen a ms seen' a') :
    Gathers s seen a ((key, d) :: ms) seen' a'
  | field {key : List Piece} {d : Document} {ms : Members} {name : String} {f : Field α}
    {change : α → α} {seen seen' : List String} {a a' : α} (hkey : text? key = some name)
    (hf : s.field? name = some f) (hnew : f.name ∉ seen) (hd : f.read.Takes d.tokens change)
    (h : Gathers s (f.name :: seen) (change a) ms seen' a') :
    Gathers s seen a ((key, d) :: ms) seen' a'

/-- Without another member, the record is closed. -/
theorem members_nil (fuel : Nat) (isFirst : Bool) :
    (s.members (fuel + 1) isFirst seen a).run (memberTokens isFirst [] ++ rest) =
      (s.finish seen a).run rest := by
  rw [Document.memberTokens_nil]
  cases isFirst <;> rfl

/-- The next member is read, and then those after it. -/
theorem members_cons (fuel : Nat) (isFirst : Bool) :
    (s.members (fuel + 1) isFirst seen a).run (memberTokens isFirst ((key, d) :: ms) ++ rest) =
      (s.member seen >>= fun p => s.members fuel false p.2 (p.1 a)).run
        ((.string (quotation key) :: .colon :: d.tokens) ++ (memberTokens false ms ++ rest)) := by
  rw [Document.memberTokens_cons, List.append_assoc, List.cons_append, List.cons_append,
    List.append_assoc]
  cases isFirst <;> rfl

/-- Members of which it can be said what they do are read, and do it. -/
theorem members_run (h : s.Gathers seen a ms seen' a') {fuel : Nat} (hfuel : ms.length < fuel)
    (isFirst : Bool) (rest : List Token) :
    (s.members fuel isFirst seen a).run (memberTokens isFirst ms ++ rest) =
      (s.finish seen' a').run rest := by
  induction h generalizing fuel isFirst with
  | nil =>
    obtain ⟨fuel, rfl⟩ := Nat.exists_eq_add_one_of_ne_zero (Nat.ne_zero_of_lt hfuel)
    exact members_nil fuel isFirst
  | other hkey hf h ih =>
    obtain ⟨fuel, rfl⟩ := Nat.exists_eq_add_one_of_ne_zero (Nat.ne_zero_of_lt hfuel)
    rw [members_cons, run_bind_ok (member_takes_other hkey hf _)]
    exact ih (Nat.lt_of_succ_lt_succ hfuel) false
  | field hkey hf hnew hd h ih =>
    obtain ⟨fuel, rfl⟩ := Nat.exists_eq_add_one_of_ne_zero (Nat.ne_zero_of_lt hfuel)
    rw [members_cons, run_bind_ok (member_takes_field hkey hf hnew hd _)]
    exact ih (Nat.lt_of_succ_lt_succ hfuel) false

/-- The members are refused, as the first ones of the record or after others. -/
def Blocks (s : Schema α) (seen : List String) (a : α) (ms : Members) : Prop :=
  ∀ fuel isFirst, ms.length < fuel →
    (s.members fuel isFirst seen a).Refuses (memberTokens isFirst ms)

theorem blocks_of_member
    (h : (s.member seen).Refuses (.string (quotation key) :: .colon :: d.tokens)) :
    s.Blocks seen a ((key, d) :: ms) := by
  intro fuel isFirst hfuel rest
  obtain ⟨fuel, rfl⟩ := Nat.exists_eq_add_one_of_ne_zero (Nat.ne_zero_of_lt hfuel)
  obtain ⟨e, he⟩ := h (memberTokens false ms ++ rest)
  exact ⟨e, by rw [members_cons, run_bind_error he]⟩

theorem Blocks.after
    (hm : (s.member seen).Takes (.string (quotation key) :: .colon :: d.tokens) (change, seen'))
    (h : s.Blocks seen' (change a) ms) : s.Blocks seen a ((key, d) :: ms) := by
  intro fuel isFirst hfuel rest
  obtain ⟨fuel, rfl⟩ := Nat.exists_eq_add_one_of_ne_zero (Nat.ne_zero_of_lt hfuel)
  obtain ⟨e, he⟩ := h fuel false (Nat.lt_of_succ_lt_succ hfuel) rest
  exact ⟨e, by rw [members_cons, run_bind_ok (hm _), he]⟩

/-- Members of which it cannot be said are refused, if every field is taken as a whole or not at
all. -/
theorem gathers_or_blocks (hfields : ∀ f ∈ s.fields, f.read.Whole) (ms : Members)
    (seen : List String) (a : α) :
    (∃ seen' a', s.Gathers seen a ms seen' a') ∨ s.Blocks seen a ms := by
  induction ms generalizing seen a with
  | nil => exact .inl ⟨seen, a, .nil⟩
  | cons m ms ih =>
    obtain ⟨key, d⟩ := m
    cases hkey : text? key with
    | none => exact .inr (blocks_of_member (member_refuses_key hkey))
    | some name =>
      cases hf : s.field? name with
      | none =>
        rcases ih seen a with ⟨seen', a', h⟩ | h
        · exact .inl ⟨seen', a', .other hkey hf h⟩
        · exact .inr (h.after (member_takes_other hkey hf))
      | some f =>
        by_cases hnew : f.name ∈ seen
        · exact .inr (blocks_of_member (member_refuses_seen hkey hf hnew))
        rcases hfields f (List.mem_of_find?_eq_some hf) d with ⟨change, hd⟩ | hd
        · rcases ih (f.name :: seen) (change a) with ⟨seen', a', h⟩ | h
          · exact .inl ⟨seen', a', .field hkey hf hnew hd h⟩
          · exact .inr (h.after (member_takes_field hkey hf hnew hd))
        · exact .inr (blocks_of_member (member_refuses_value hkey hf hd))

/-! ## What members that are gathered are like -/

theorem Gathers.legible (h : s.Gathers seen a ms seen' a') : Legible ms := by
  induction h with
  | nil => exact nofun
  | other hkey hf h ih => exact List.forall_mem_cons.mpr ⟨by simp [hkey], ih⟩
  | field hkey hf hnew hd h ih => exact List.forall_mem_cons.mpr ⟨by simp [hkey], ih⟩

/-- A key that names no field does not name this one. -/
theorem text?_ne_of_other (hkey : text? key = some name) (hf : s.field? name = none)
    (hn : (s.field? n).isSome = true) : text? key ≠ some n := by
  intro heq
  obtain rfl := Option.some.inj (hkey.symm.trans heq)
  rw [hf] at hn
  cases hn

/-- A field is written once at most, and not at all if it has been read before. -/
theorem Gathers.length_valuesOf_le (h : s.Gathers seen a ms seen' a')
    (hn : (s.field? n).isSome = true) :
    (valuesOf n ms).length ≤ 1 ∧ (n ∈ seen → valuesOf n ms = []) := by
  induction h with
  | nil => exact ⟨Nat.zero_le 1, fun _ => rfl⟩
  | @other key d ms name seen seen' a a' hkey hf h ih =>
    rw [valuesOf_cons_of_ne (text?_ne_of_other hkey hf hn)]
    exact ih
  | @field key d ms name f change seen seen' a a' hkey hf hnew hd h ih =>
    have hname : f.name = name := by simpa using List.find?_some hf
    subst hname
    by_cases heq : f.name = n
    · subst heq
      rw [valuesOf_cons_of_eq hkey, ih.2 List.mem_cons_self]
      exact ⟨Nat.le_refl 1, fun hseen => absurd hseen hnew⟩
    · rw [valuesOf_cons_of_ne (by simpa [hkey] using heq)]
      exact ⟨ih.1, fun hseen => ih.2 (List.mem_cons_of_mem _ hseen)⟩

/-- Fields that have been read, and those that are written, have been read then. -/
theorem Gathers.mem_seen (h : s.Gathers seen a ms seen' a') (hn : (s.field? n).isSome = true)
    (hin : n ∈ seen ∨ valuesOf n ms ≠ []) : n ∈ seen' := by
  induction h with
  | nil => exact hin.resolve_right (by simp [valuesOf])
  | @other key d ms name seen seen' a a' hkey hf h ih =>
    rw [valuesOf_cons_of_ne (text?_ne_of_other hkey hf hn)] at hin
    exact ih hin
  | @field key d ms name f change seen seen' a a' hkey hf hnew hd h ih =>
    have hname : f.name = name := by simpa using List.find?_some hf
    subst hname
    by_cases heq : f.name = n
    · exact ih (.inl (heq ▸ List.mem_cons_self))
    · rw [valuesOf_cons_of_ne (by simpa [hkey] using heq)] at hin
      exact ih (hin.imp_left (List.mem_cons_of_mem _))

/-- The value of a field is taken by its reader. -/
theorem Gathers.takes_value (h : s.Gathers seen a ms seen' a') (hf : s.field? n = some f)
    (hd : d ∈ valuesOf n ms) : ∃ change, f.read.Takes d.tokens change := by
  induction h with
  | nil => cases hd
  | @other key d' ms name seen seen' a a' hkey hf' h ih =>
    rw [valuesOf_cons_of_ne (text?_ne_of_other hkey hf' (by simp [hf]))] at hd
    exact ih hd
  | @field key d' ms name f' change seen seen' a a' hkey hf' hnew hd' h ih =>
    by_cases heq : name = n
    · subst heq
      obtain rfl := Option.some.inj (hf.symm.trans hf')
      rw [valuesOf_cons_of_eq hkey] at hd
      rcases List.mem_cons.mp hd with rfl | hd
      · exact ⟨change, hd'⟩
      · exact ih hd
    · rw [valuesOf_cons_of_ne (by simpa [hkey] using heq)] at hd
      exact ih hd

/-! ## Records -/

theorem finish_takes (h : s.complete = true → ∀ f ∈ s.fields, f.name ∈ seen) :
    (s.finish seen a).Takes [] a := by
  have hnone : s.fields.find? (fun f => s.complete && !seen.contains f.name) = none := by
    rw [List.find?_eq_none]
    intro f hf
    by_cases hc : s.complete = true
    · simp [h hc f hf]
    · simp [hc]
  rw [finish, hnone]
  exact fun _ => rfl

theorem finish_takes_or_refuses (seen : List String) (a : α) :
    (s.finish seen a).Takes [] a ∨ (s.finish seen a).Refuses [] := by
  unfold finish
  split
  · exact .inr fun _ => ⟨_, rfl⟩
  · exact .inl fun _ => rfl

theorem length_le_memberTokens (isFirst : Bool) (ms : Members) :
    ms.length ≤ (memberTokens isFirst ms).length := by
  induction ms generalizing isFirst with
  | nil => exact Nat.zero_le _
  | cons m ms ih =>
    obtain ⟨key, d⟩ := m
    have := ih false
    rw [Document.memberTokens_cons]
    simp
    omega

theorem read_record (ms : Members) (rest : List Token) :
    s.read.run ((Document.record ms).tokens ++ rest) =
      (s.members ((memberTokens true ms ++ rest).length + 1) true [] s.start).run
        (memberTokens true ms ++ rest) := by
  rw [Document.tokens_record]
  rfl

theorem length_lt_fuel (ms : Members) (rest : List Token) :
    ms.length < (memberTokens true ms ++ rest).length + 1 := by
  have := length_le_memberTokens true ms
  rw [List.length_append]
  omega

/-- A record is read as what its members make of the start. -/
theorem read_takes (h : s.Gathers [] s.start ms seen a)
    (hall : s.complete = true → ∀ f ∈ s.fields, f.name ∈ seen) :
    s.read.Takes (Document.record ms).tokens a := by
  intro rest
  rw [read_record, members_run h (length_lt_fuel ms rest)]
  exact finish_takes hall rest

theorem read_gathers_or_refuses (hfields : ∀ f ∈ s.fields, f.read.Whole) (ms : Members) :
    (∃ seen a, s.Gathers [] s.start ms seen a) ∨ s.read.Refuses (Document.record ms).tokens := by
  rcases s.gathers_or_blocks hfields ms [] s.start with h | h
  · exact .inl h
  · right
    intro rest
    rw [read_record]
    exact h _ true (length_lt_fuel ms rest) rest

/-! ## Lists in place of records -/

theorem anotherItem_nil (isFirst : Bool) (rest : List Token) :
    (anotherItem isFirst).run (itemTokens isFirst [] ++ rest) =
      .ok (false, .closing .list :: rest) := by
  rw [Document.itemTokens_nil]
  rfl

theorem anotherItem_cons (isFirst : Bool) (d : Document) (rest : List Token) :
    (anotherItem isFirst).run (separator isFirst ++ (d.tokens ++ rest)) =
      .ok (true, d.tokens ++ rest) := by
  cases d <;> cases isFirst <;> rfl

theorem listEnd_refuses (isFirst : Bool) (d : Document) (ts : List Token) :
    listEnd.Refuses (separator isFirst ++ (d.tokens ++ ts)) := by
  intro rest
  cases d <;> cases isFirst <;> exact ⟨_, rfl⟩

/-- The next item is read, and then those after it. -/
theorem items_cons {fs : List (Field α)} (index : Nat) (ds : List Document) :
    (s.items (f :: fs) index a).run (itemTokens (index == 0) (d :: ds) ++ rest) =
      (f.read >>= fun change => s.items fs (index + 1) (change a)).run
        ((d.tokens ++ itemTokens false ds) ++ rest) := by
  rw [Document.itemTokens_cons, List.append_assoc, List.append_assoc, items,
    run_bind_ok (anotherItem_cons _ d _), if_pos rfl]

/-- Items may be left out at the end, unless all of them are needed. -/
theorem items_end {fs : List (Field α)} (index : Nat) :
    (∃ b, (s.items (f :: fs) index a).Takes (itemTokens (index == 0) []) b) ∨
      (s.items (f :: fs) index a).Refuses (itemTokens (index == 0) []) := by
  by_cases hc : s.complete = true
  · right
    intro rest
    rw [items, run_bind_ok (anotherItem_nil _ rest), if_neg (by simp), if_pos hc]
    exact ⟨_, rfl⟩
  · left
    refine ⟨a, fun rest => ?_⟩
    rw [items, run_bind_ok (anotherItem_nil _ rest), if_neg (by simp), if_neg hc]
    rfl

theorem items_takes_or_refuses {fs : List (Field α)} (hfields : ∀ f ∈ fs, f.read.Whole)
    (ds : List Document) (index : Nat) (a : α) :
    (∃ b, (s.items fs index a).Takes (itemTokens (index == 0) ds) b) ∨
      (s.items fs index a).Refuses (itemTokens (index == 0) ds) := by
  induction fs generalizing ds index a with
  | nil =>
    cases ds with
    | nil =>
      left
      refine ⟨a, fun rest => ?_⟩
      rw [Document.itemTokens_nil]
      rfl
    | cons d ds =>
      right
      rw [Document.itemTokens_cons]
      exact (listEnd_refuses _ d _).andThen
  | cons f fs ih =>
    cases ds with
    | nil => exact items_end index
    | cons d ds =>
      rcases hfields f List.mem_cons_self d with ⟨change, hd⟩ | hd
      · rcases ih (fun f hf => hfields f (List.mem_cons_of_mem _ hf)) ds (index + 1) (change a)
          with ⟨b, hb⟩ | hb
        · exact .inl ⟨b, fun rest => (items_cons index ds).trans (hd.bind hb rest)⟩
        · right
          intro rest
          rw [items_cons]
          exact hd.bind_refuses hb rest
      · right
        intro rest
        rw [items_cons]
        exact hd.bind rest

/-! ## Whole records -/

theorem read_list (ds : List Document) (rest : List Token) :
    s.read.run ((Document.list ds).tokens ++ rest) =
      (s.items s.fields 0 s.start).run (itemTokens (0 == 0) ds ++ rest) := by
  rw [Document.tokens_list]
  rfl

/-- What is neither a record nor a list is refused, whichever value it is. -/
theorem read_refuses_other (hlist : ∀ ds, d ≠ .list ds) (hrecord : ∀ ms, d ≠ .record ms) :
    s.read.Refuses d.tokens := by
  intro rest
  have hread : s.read.run (d.tokens ++ rest) =
      (do throw (.wrongType (← Reader.lookAhead) s.name) : Reader α).run (d.tokens ++ rest) := by
    cases d with
    | list ds => exact absurd rfl (hlist ds)
    | record ms => exact absurd rfl (hrecord ms)
    | _ => rfl
  rw [hread]
  cases h : Reader.lookAhead.run (d.tokens ++ rest) with
  | error e => exact ⟨e, run_bind_error h⟩
  | ok p => exact ⟨_, run_bind_ok h⟩

theorem read_whole (hfields : ∀ f ∈ s.fields, f.read.Whole) : s.read.Whole := by
  intro d
  cases d with
  | list ds =>
    rcases s.items_takes_or_refuses hfields ds 0 s.start with ⟨a, h⟩ | h
    · exact .inl ⟨a, fun rest => (read_list ds rest).trans (h rest)⟩
    · right
      intro rest
      rw [read_list]
      exact h rest
  | record ms =>
    rcases s.read_gathers_or_refuses hfields ms with ⟨seen, a, h⟩ | h
    · have hrun (rest : List Token) :
          s.read.run ((Document.record ms).tokens ++ rest) =
            (s.finish seen a).run ([] ++ rest) := by
        rw [read_record, members_run h (length_lt_fuel ms rest), List.nil_append]
      rcases s.finish_takes_or_refuses seen a with hfin | hfin
      · exact .inl ⟨a, fun rest => (hrun rest).trans (hfin rest)⟩
      · right
        intro rest
        rw [hrun]
        exact hfin rest
    · exact .inr h
  | _ => exact .inr (read_refuses_other (by simp) (by simp))

/-! ## Records that are refused -/

/-- A key that is no text is refused, also where it names no field. -/
theorem read_refuses_of_not_legible (hfields : ∀ f ∈ s.fields, f.read.Whole)
    (h : ¬Legible ms) : s.read.Refuses (Document.record ms).tokens := by
  rcases s.read_gathers_or_refuses hfields ms with ⟨seen, a, hgather⟩ | hrefuses
  · exact absurd hgather.legible h
  · exact hrefuses

/-- A field of the record is written twice. -/
def Twice (s : Schema α) (d : Document) : Prop :=
  ∃ ms, d = .record ms ∧ ∃ f ∈ s.fields, 2 ≤ (valuesOf f.name ms).length

theorem isSome_field? (hf : f ∈ s.fields) : (s.field? f.name).isSome = true := by
  rw [field?, List.find?_isSome]
  exact ⟨f, hf, by simp⟩

theorem read_refuses_of_twice (hfields : ∀ f ∈ s.fields, f.read.Whole) (h : s.Twice d) :
    s.read.Refuses d.tokens := by
  obtain ⟨ms, rfl, f, hf, htwo⟩ := h
  rcases s.read_gathers_or_refuses hfields ms with ⟨seen, a, h⟩ | h
  · have := (h.length_valuesOf_le (isSome_field? hf)).1
    omega
  · exact h

end Schema

/-- A member with this name has such a value. -/
def Document.Within (name : String) (P : Document → Prop) (d : Document) : Prop :=
  ∃ ms, d = .record ms ∧ ∃ value ∈ valuesOf name ms, P value

theorem Schema.read_refuses_of_within {α : Type} {s : Schema α} {f : Field α}
    {P : Document → Prop} (hfields : ∀ f ∈ s.fields, f.read.Whole) (hf : s.field? name = some f)
    (hP : ∀ d, P d → f.read.Refuses d.tokens) (h : d.Within name P) : s.read.Refuses d.tokens := by
  obtain ⟨ms, rfl, value, hvalue, hv⟩ := h
  rcases s.read_gathers_or_refuses hfields ms with ⟨seen, a, h⟩ | h
  · obtain ⟨change, htakes⟩ := h.takes_value hf hvalue
    exact absurd (hP value hv) htakes.not_refuses
  · exact h

end AntTrail.Json
