import Mathlib.Data.List.Nodup
import Mathlib.Data.List.Pairwise
import AntTrail.Proofs.Json.Record

/-!
# Records that say something of some fields

A *form* is a list of parts, one for each field: what somebody says of the field, what a record
becomes by it, and which documents write it. Somebody who says nothing of a field leaves it as it
is. `Fills` holds of members that write just what is said, in any order and with other members
between them; they are read as the start with all that is said put in (`read_takes_overlay`).
-/
namespace AntTrail.Json

/-- A field of a record `α` of which `π` may say something. -/
structure Part (π α : Type) where
  name : String
  {Value : Type}
  /-- What is said of the field. -/
  said : π → Option Value
  /-- The record with the field as it is said to be. -/
  put : Option Value → α → α
  Writes : Value → Document → Prop

variable {π α : Type}

/-- It does not matter which of two fields is changed first. -/
def Part.Commutes (e e' : Part π α) : Prop :=
  ∀ o o' a, e.put o (e'.put o' a) = e'.put o' (e.put o a)

instance : Std.Symm (@Part.Commutes π α) where
  symm _ _ h o o' a := (h o' o a).symm

/-- A record with all that is said put in. -/
def overlay (parts : List (Part π α)) (p : π) (a : α) : α :=
  parts.foldl (fun a e => e.put (e.said p) a) a

/-- The members write what is said of the fields, and nothing of others. -/
def Fills (parts : List (Part π α)) (p : π) (ms : Members) : Prop :=
  ∀ e ∈ parts,
    match e.said p with
    | none => valuesOf e.name ms = []
    | some v => ∃ d, valuesOf e.name ms = [d] ∧ e.Writes v d

/-- A record that writes what is said, between members of other names. -/
def Document.WritesRecord (parts : List (Part π α)) (p : π) (d : Document) : Prop :=
  ∃ ms, d = .record ms ∧ Legible ms ∧ Fills parts p ms

/-- A part is a field: what is said is read from where it is written. -/
structure Part.IsField (e : Part π α) (f : Field α) : Prop where
  name_eq : f.name = e.name
  takes : ∀ v d, e.Writes v d → f.read.Takes d.tokens (e.put (some v))

/-- The parts are the fields of the schema, each changed by itself. -/
structure Describes (parts : List (Part π α)) (s : Schema α) : Prop where
  fields : List.Forall₂ Part.IsField parts s.fields
  nodup : (parts.map Part.name).Nodup
  put_none : ∀ e ∈ parts, ∀ a, e.put none a = a
  commutes : parts.Pairwise Part.Commutes

variable {parts es : List (Part π α)} {s : Schema α} {p : π} {a : α} {ms : Members}
  {name : String}

/-! ## The order of the parts -/

theorem Describes.eq_of_name (h : Describes parts s) {e e' : Part π α} (he : e ∈ parts)
    (he' : e' ∈ parts) (hname : e.name = e'.name) : e = e' :=
  List.inj_on_of_nodup_map h.nodup he he' hname

theorem Describes.put_right_comm (h : Describes parts s) {e e' : Part π α} (he : e ∈ parts)
    (he' : e' ∈ parts) (p : π) (a : α) :
    e'.put (e'.said p) (e.put (e.said p) a) = e.put (e.said p) (e'.put (e'.said p) a) := by
  by_cases heq : e = e'
  · rw [heq]
  · exact h.commutes.forall he' he (Ne.symm heq) (e'.said p) (e.said p) a

/-- It does not matter in which order something is said, nor whether fields of which nothing is
said are left out. -/
theorem Describes.foldl_eq_overlay (h : Describes parts s) (hes : es.Nodup)
    (hmem : ∀ e, e ∈ es ↔ e ∈ parts ∧ (e.said p).isSome = true) (a : α) :
    es.foldl (fun a e => e.put (e.said p) a) a = overlay parts p a := by
  have hnodup : (parts.filter fun e => (e.said p).isSome).Nodup := h.nodup.of_map.filter _
  have hperm : es.Perm (parts.filter fun e => (e.said p).isSome) :=
    (List.perm_ext_iff_of_nodup hes hnodup).mpr fun e => by rw [hmem, List.mem_filter]
  have hcomm : ∀ e ∈ es, ∀ e' ∈ es, ∀ a,
      e'.put (e'.said p) (e.put (e.said p) a) = e.put (e.said p) (e'.put (e'.said p) a) := by
    intro e he e' he' a
    exact h.put_right_comm ((hmem e).mp he).1 ((hmem e').mp he').1 p a
  rw [hperm.foldl_eq' hcomm, List.foldl_filter, overlay]
  apply List.foldl_ext
  intro a e he
  split
  · rfl
  · next hnone =>
    rw [Option.not_isSome_iff_eq_none.mp hnone, h.put_none e he]

/-! ## Reading -/

theorem valuesOf_sublist (n : String) (m : List Piece × Document) (ms : Members) :
    (valuesOf n ms).Sublist (valuesOf n (m :: ms)) :=
  (List.sublist_cons_self m ms).filterMap _

/-- A name is that of a part and its field, or of neither. -/
theorem field?_eq {fs : List (Field α)} (h : List.Forall₂ Part.IsField parts fs) (n : String) :
    (∃ e ∈ parts, e.name = n ∧ ∃ f, fs.find? (fun f => f.name == n) = some f ∧ e.IsField f) ∨
      (fs.find? (fun f => f.name == n) = none ∧ ∀ e ∈ parts, e.name ≠ n) := by
  induction h with
  | nil => exact .inr ⟨rfl, by simp⟩
  | @cons e f es fs hef _ ih =>
    by_cases hn : e.name = n
    · left
      refine ⟨e, List.mem_cons_self, hn, f, ?_, hef⟩
      exact List.find?_cons_of_pos (by simp [hef.name_eq, hn])
    · rw [List.find?_cons_of_neg (by simp [hef.name_eq, hn])]
      rcases ih with ⟨e', he', h'⟩ | ⟨hnone, hother⟩
      · exact .inl ⟨e', List.mem_cons_of_mem _ he', h'⟩
      · exact .inr ⟨hnone, List.forall_mem_cons.mpr ⟨hn, hother⟩⟩

/-- The members write no field twice, none that has been read before, and nothing but what is
said. -/
structure Unread (parts : List (Part π α)) (p : π) (seen : List String) (ms : Members) : Prop where
  legible : Legible ms
  once : ∀ e ∈ parts, (valuesOf e.name ms).length ≤ 1
  said : ∀ e ∈ parts, ∀ d ∈ valuesOf e.name ms, ∃ v, e.said p = some v ∧ e.Writes v d
  fresh : ∀ e ∈ parts, e.name ∈ seen → valuesOf e.name ms = []

section
variable {seen : List String} {m : List Piece × Document} {key : List Piece} {d : Document}

theorem Unread.tail (h : Unread parts p seen (m :: ms)) : Unread parts p seen ms where
  legible := fun m' hm => h.legible m' (List.mem_cons_of_mem _ hm)
  once := fun e he => (valuesOf_sublist e.name m ms).length_le.trans (h.once e he)
  said := fun e he d hd => h.said e he d ((valuesOf_sublist e.name m ms).subset hd)
  fresh := fun e he hin => List.sublist_nil.mp (h.fresh e he hin ▸ valuesOf_sublist e.name m ms)

variable {e : Part π α}

/-- After a field has been read, no other member writes it. -/
theorem Unread.valuesOf_eq_nil (h : Unread parts p seen ((key, d) :: ms)) (he : e ∈ parts)
    (hkey : text? key = some e.name) : valuesOf e.name ms = [] := by
  have hlen := h.once e he
  rw [valuesOf_cons_of_eq hkey, List.length_cons] at hlen
  exact List.eq_nil_of_length_eq_zero (by omega)

theorem Unread.not_mem_seen (h : Unread parts p seen ((key, d) :: ms)) (he : e ∈ parts)
    (hkey : text? key = some e.name) : e.name ∉ seen := by
  intro hin
  have hnil := h.fresh e he hin
  rw [valuesOf_cons_of_eq hkey] at hnil
  cases hnil

theorem Unread.read (h : Unread parts p seen ((key, d) :: ms)) (he : e ∈ parts)
    (hkey : text? key = some e.name) : Unread parts p (e.name :: seen) ms where
  legible := h.tail.legible
  once := h.tail.once
  said := h.tail.said
  fresh := by
    intro e' he' hin
    rcases List.mem_cons.mp hin with heq | hin
    · rw [heq, h.valuesOf_eq_nil he hkey]
    · exact h.tail.fresh e' he' hin

end

/-- Members do what is said of the fields that they write, in the order in which they stand. -/
theorem Describes.exists_gathers (h : Describes parts s) {seen : List String}
    (hms : Unread parts p seen ms) (a : α) :
    ∃ (es : List (Part π α)) (seen' : List String),
      s.Gathers seen a ms seen' (es.foldl (fun a e => e.put (e.said p) a) a) ∧
      es.Nodup ∧ (∀ e ∈ es, e ∈ parts) ∧ ∀ e ∈ parts, e ∈ es ↔ valuesOf e.name ms ≠ [] := by
  induction ms generalizing seen a with
  | nil => exact ⟨[], seen, .nil, List.nodup_nil, by simp [valuesOf]⟩
  | cons m ms ih =>
    obtain ⟨key, d⟩ := m
    obtain ⟨name, hkey⟩ := Option.isSome_iff_exists.mp (hms.legible _ List.mem_cons_self)
    rcases field?_eq h.fields name with ⟨e, he, rfl, f, hf, hef⟩ | ⟨hnone, hother⟩
    · have hvalues : valuesOf e.name ((key, d) :: ms) = d :: valuesOf e.name ms :=
        valuesOf_cons_of_eq hkey
      have hlast := hms.valuesOf_eq_nil he hkey
      have hnew : f.name ∉ seen := hef.name_eq ▸ hms.not_mem_seen he hkey
      obtain ⟨v, hv, hd⟩ := hms.said e he d (by simp [hvalues])
      obtain ⟨es, seen', hgather, hnodup, hsub, hmem⟩ := ih (hms.read he hkey) (e.put (some v) a)
      refine ⟨e :: es, seen', ?_, List.nodup_cons.mpr ⟨?_, hnodup⟩,
        List.forall_mem_cons.mpr ⟨he, hsub⟩, fun e' he' => ?_⟩
      · rw [List.foldl_cons, hv]
        exact .field hkey hf hnew (hef.takes v d hd) (hef.name_eq ▸ hgather)
      · intro hin
        exact (hmem e he).mp hin hlast
      · rw [List.mem_cons, hmem e' he']
        by_cases heq : e' = e
        · subst heq
          simp [hvalues]
        · have hkey' : text? key ≠ some e'.name := by
            intro hk
            exact heq (h.eq_of_name he' he (Option.some.inj (hk.symm.trans hkey)))
          rw [valuesOf_cons_of_ne hkey']
          simp [heq]
    · obtain ⟨es, seen', hgather, hnodup, hsub, hmem⟩ := ih hms.tail a
      refine ⟨es, seen', .other hkey hnone hgather, hnodup, hsub, fun e he => ?_⟩
      rw [hmem e he, valuesOf_cons_of_ne (by simpa [hkey] using Ne.symm (hother e he))]

/-- Nothing is said of a field and it is not written, or it is written once, as is said. -/
theorem Fills.value_cases (h : Fills parts p ms) {e : Part π α} (he : e ∈ parts) :
    (e.said p = none ∧ valuesOf e.name ms = []) ∨
      ∃ v d, e.said p = some v ∧ valuesOf e.name ms = [d] ∧ e.Writes v d := by
  have hfill := h e he
  cases hs : e.said p with
  | none =>
    rw [hs] at hfill
    exact .inl ⟨rfl, hfill⟩
  | some v =>
    rw [hs] at hfill
    obtain ⟨d, hd, hw⟩ := hfill
    exact .inr ⟨v, d, rfl, hd, hw⟩

theorem Fills.unread (h : Fills parts p ms) (hkeys : Legible ms) : Unread parts p [] ms where
  legible := hkeys
  once := by
    intro e he
    rcases h.value_cases he with ⟨-, hnil⟩ | ⟨v, d, -, hd, -⟩
    · simp [hnil]
    · simp [hd]
  said := by
    intro e he d hd
    rcases h.value_cases he with ⟨-, hnil⟩ | ⟨v, d', hs, hd', hw⟩
    · simp [hnil] at hd
    · rw [hd', List.mem_singleton] at hd
      exact ⟨v, hs, hd ▸ hw⟩
  fresh := by simp

/-- A field is written just if something is said of it. -/
theorem Fills.valuesOf_ne_nil (h : Fills parts p ms) {e : Part π α} (he : e ∈ parts) :
    valuesOf e.name ms ≠ [] ↔ (e.said p).isSome = true := by
  rcases h.value_cases he with ⟨hs, hnil⟩ | ⟨v, d, hs, hd, -⟩
  · simp [hs, hnil]
  · simp [hs, hd]

/-- A record that writes what is said is read as the start with all that is said put in. -/
theorem Describes.read_takes_overlay (h : Describes parts s) {d : Document}
    (hd : d.WritesRecord parts p)
    (hall : s.complete = true → ∀ e ∈ parts, (e.said p).isSome = true) :
    s.read.Takes d.tokens (overlay parts p s.start) := by
  obtain ⟨ms, rfl, hkeys, hfill⟩ := hd
  obtain ⟨es, seen, hgather, hnodup, hsub, hmem⟩ := h.exists_gathers (hfill.unread hkeys) s.start
  have hsaid : ∀ e, e ∈ es ↔ e ∈ parts ∧ (e.said p).isSome = true := by
    intro e
    constructor
    · intro he
      exact ⟨hsub e he, (hfill.valuesOf_ne_nil (hsub e he)).mp ((hmem e (hsub e he)).mp he)⟩
    · rintro ⟨he, hs⟩
      exact (hmem e he).mpr ((hfill.valuesOf_ne_nil he).mpr hs)
  rw [h.foldl_eq_overlay hnodup hsaid] at hgather
  refine Schema.read_takes hgather fun hc f hf => ?_
  rcases field?_eq h.fields f.name with ⟨e, he, hname, -⟩ | ⟨hnone, -⟩
  · rw [← hname]
    have hwritten := (hfill.valuesOf_ne_nil he).mpr (hall hc e he)
    exact hgather.mem_seen (hname ▸ Schema.isSome_field? hf) (.inr hwritten)
  · have hsome := Schema.isSome_field? hf
    rw [Schema.field?, hnone] at hsome
    cases hsome

end AntTrail.Json
