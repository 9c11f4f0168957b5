import AntTrail.Bytes.Decoder
import AntTrail.Proofs.Reading

/-!
# Stored values are read exactly

Every decoder of a stored value takes the bytes that the value is written as, no
byte less and no byte more, and accepts no other bytes. The one exception is an
instant: many texts denote the same instant, so it is only read back.
-/
namespace AntTrail

/-! ## Fixed widths -/

namespace Bytes

theorem split_eq_some_iff {n : Nat} {bs front rest : List UInt8} :
    split n bs = some (front, rest) ↔ front.length = n ∧ bs = front ++ rest := by
  induction n generalizing bs front rest with
  | zero =>
    simp only [split, Option.some.injEq, Prod.mk.injEq, List.length_eq_zero_iff]
    constructor
    · rintro ⟨rfl, rfl⟩
      exact ⟨rfl, rfl⟩
    · rintro ⟨rfl, rfl⟩
      exact ⟨rfl, rfl⟩
  | succ n ih =>
    cases bs with
    | nil => cases front <;> simp [split]
    | cons b bs =>
      simp only [split, Option.map_eq_some_iff]
      constructor
      · rintro ⟨⟨front', rest'⟩, hs, h⟩
        obtain ⟨rfl, rfl⟩ := ih.mp hs
        obtain ⟨rfl, rfl⟩ := Prod.mk.inj h
        exact ⟨rfl, rfl⟩
      · rintro ⟨hl, hbs⟩
        cases front with
        | nil => cases hl
        | cons c front =>
          obtain ⟨rfl, rfl⟩ := List.cons_eq_cons.mp hbs
          exact ⟨(front, rest), ih.mpr ⟨Nat.succ.inj hl, rfl⟩, rfl⟩

theorem ofLittleEndian_lt (bs : List UInt8) : ofLittleEndian bs < Nat.pow 256 bs.length := by
  rw [← littleEndian_ofLittleEndian bs, ofLittleEndian_littleEndian, length_littleEndian]
  exact Nat.mod_lt _ (Nat.pow_pos (by decide))

namespace Decoder

theorem reads_take (e : DecodeError) (n : Nat) :
    Reads (take e n) (fun bs => bs) (fun bs => bs.length = n) where
  run_write := by
    intro bs hl rest
    rw [take, run_get_bind, split_eq_some_iff.mpr ⟨hl, rfl⟩]
    rfl
  of_run := by
    intro ts bs rest hr
    rw [take, run_get_bind] at hr
    cases hs : split n ts with
    | none =>
      rw [hs] at hr
      exact absurd hr run_throw_ne_ok
    | some p =>
      obtain ⟨front, rest'⟩ := p
      simp only [hs, run_set_bind, run_pure_eq_ok] at hr
      obtain ⟨rfl, rfl⟩ := hr
      exact split_eq_some_iff.mp hs

theorem reads_number (width : Nat) :
    Reads (number width) (littleEndian width) (fun n => n < Nat.pow 256 width) where
  run_write := by
    intro n hn rest
    refine run_map_eq_ok.mpr ⟨_, (reads_take _ _).run_write (length_littleEndian ..) rest, ?_⟩
    rw [ofLittleEndian_littleEndian, Nat.mod_eq_of_lt hn]
  of_run := by
    intro ts n rest hr
    obtain ⟨bs, h, rfl⟩ := run_map_eq_ok.mp hr
    obtain ⟨rfl, rfl⟩ := (reads_take _ _).of_run h
    exact ⟨ofLittleEndian_lt bs, by rw [littleEndian_ofLittleEndian]⟩

/-- A length, which stands before a text or a list. -/
theorem reads_length : Reads (number 8) (littleEndian 8) (fun n => n < UInt64.size) :=
  reads_number 8

theorem reads_uint8 : Reads uint8 (fun b => [b]) (fun _ => True) := by
  have h : Reads uint8 (fun b => littleEndian 1 b.toNat) (fun _ => True) :=
    (reads_number 1).map (fun _ ha => UInt8.toNat_ofNat_of_lt' ha)
      (fun b => ⟨b.toNat_lt, UInt8.ofNat_toNat⟩)
  simpa [littleEndian] using h

theorem reads_uint32 : Reads uint32 encodeUInt32 (fun _ => True) :=
  (reads_number 4).map (fun _ ha => UInt32.toNat_ofNat_of_lt' ha)
    (fun b => ⟨b.toNat_lt, UInt32.ofNat_toNat⟩)

theorem reads_uint64 : Reads uint64 encodeUInt64 (fun _ => True) :=
  (reads_number 8).map (fun _ ha => UInt64.toNat_ofNat_of_lt' ha)
    (fun b => ⟨b.toNat_lt, UInt64.ofNat_toNat⟩)

theorem reads_int32 : Reads int32 encodeInt32 (fun _ => True) :=
  reads_uint32.map (fun a _ => UInt32.toUInt32_toInt32 a)
    (fun b => ⟨trivial, Int32.toInt32_toUInt32 b⟩)

end Decoder
end Bytes

/-! ## Texts -/

theorem Text.Utf8.decode_encode (s : String) : decode (encode s) = .ok s := by
  have h : String.fromUTF8? ⟨(encode s).toArray⟩ = some s := by
    show (if h : s.toByteArray.IsValidUTF8 then some (String.fromUTF8 s.toByteArray h) else none)
      = some s
    rw [dif_pos s.isValidUTF8]
    rfl
  rw [decode, h]

theorem Text.Utf8.eq_encode_of_decode {bs : List UInt8} {s : String} (h : decode bs = .ok s) :
    bs = encode s := by
  rw [decode] at h
  split at h
  · next s' hs =>
    obtain rfl := Except.ok.inj h
    unfold String.fromUTF8? at hs
    split at hs
    · obtain rfl := Option.some.inj hs
      rfl
    · cases hs
  · cases h

namespace Bytes.Decoder

/-- A text is read exactly when its length fits the eight bytes before it. -/
theorem reads_text :
    Reads text encodeText (fun s => (Text.Utf8.encode s).length < UInt64.size) where
  run_write := by
    intro s hl rest
    show (number 8 >>= _ : Decoder String).run
      (littleEndian 8 (Text.Utf8.encode s).length ++ Text.Utf8.encode s ++ rest) = _
    rw [List.append_assoc, run_bind_ok (reads_length.run_write hl _),
      run_bind_ok ((reads_take _ _).run_write rfl rest), Text.Utf8.decode_encode]
    rfl
  of_run := by
    intro ts s rest hr
    obtain ⟨n, s₁, h₁, h⟩ := run_bind_eq_ok.mp hr
    obtain ⟨bs, s₂, h₂, h₃⟩ := run_bind_eq_ok.mp h
    obtain ⟨hlt, rfl⟩ := reads_length.of_run h₁
    obtain ⟨rfl, rfl⟩ := (reads_take _ _).of_run h₂
    cases hd : Text.Utf8.decode bs with
    | error m =>
      rw [hd] at h₃
      exact absurd h₃ run_throw_ne_ok
    | ok s' =>
      rw [hd] at h₃
      obtain ⟨rfl, rfl⟩ := run_pure_eq_ok.mp h₃
      obtain rfl := Text.Utf8.eq_encode_of_decode hd
      exact ⟨hlt, (List.append_assoc ..).symm⟩

/-- An instant is read back from the text that it is written as, if the text is. -/
theorem run_instant {t : Timestamp} (ht : Timestamp.read t.text = .ok t)
    (hl : (Text.Utf8.encode t.text).length < UInt64.size) (rest : List UInt8) :
    instant.run (encodeText t.text ++ rest) = .ok (t, rest) := by
  rw [instant, run_bind_ok (reads_text.run_write hl rest), ht]
  rfl

/-! ## Lists and optional values -/

variable {α : Type} {item : Decoder α} {write : α → List UInt8} {admits : α → Prop}

theorem reads_many (h : Reads item write admits) (n : Nat) :
    Reads (many item n) (fun xs => xs.flatMap write)
      (fun xs => xs.length = n ∧ ∀ x ∈ xs, admits x) := by
  induction n with
  | zero =>
    constructor
    · rintro xs ⟨hl, -⟩ rest
      obtain rfl := List.length_eq_zero_iff.mp hl
      rfl
    · intro ts xs rest hr
      obtain ⟨rfl, rfl⟩ := run_pure_eq_ok.mp hr
      simp
  | succ n ih =>
    constructor
    · rintro xs ⟨hl, hxs⟩ rest
      cases xs with
      | nil => cases hl
      | cons x xs =>
        obtain ⟨hx, hxs⟩ := List.forall_mem_cons.mp hxs
        rw [List.flatMap_cons, List.append_assoc, many, run_bind_ok (h.run_write hx _),
          run_bind_ok (ih.run_write ⟨Nat.succ.inj hl, hxs⟩ rest)]
        rfl
    · intro ts xs rest hr
      obtain ⟨x, s₁, h₁, h'⟩ := run_bind_eq_ok.mp hr
      obtain ⟨xs', s₂, h₂, h₃⟩ := run_bind_eq_ok.mp h'
      obtain ⟨rfl, rfl⟩ := run_pure_eq_ok.mp h₃
      obtain ⟨hx, rfl⟩ := h.of_run h₁
      obtain ⟨⟨rfl, hxs⟩, rfl⟩ := ih.of_run h₂
      exact ⟨⟨rfl, List.forall_mem_cons.mpr ⟨hx, hxs⟩⟩, by simp⟩

/-- A list is read exactly when its length fits the eight bytes before it. -/
theorem reads_list (h : Reads item write admits) :
    Reads (list item) (encodeList write)
      (fun xs => xs.length < UInt64.size ∧ ∀ x ∈ xs, admits x) where
  run_write := by
    rintro xs ⟨hl, hxs⟩ rest
    rw [encodeList, List.append_assoc, list, run_bind_ok (reads_length.run_write hl _)]
    exact (reads_many h _).run_write ⟨rfl, hxs⟩ rest
  of_run := by
    intro ts xs rest hr
    obtain ⟨n, s₁, h₁, h₂⟩ := run_bind_eq_ok.mp hr
    obtain ⟨hlt, rfl⟩ := reads_length.of_run h₁
    obtain ⟨⟨rfl, hxs⟩, rfl⟩ := (reads_many h n).of_run h₂
    exact ⟨⟨hlt, hxs⟩, (List.append_assoc ..).symm⟩

theorem reads_optional (h : Reads item write admits) :
    Reads (optional item) (encodeOptional write) (fun o => ∀ x ∈ o, admits x) where
  run_write := by
    intro o ho rest
    cases o with
    | none => rfl
    | some x =>
      show (uint8 >>= _ : Decoder (Option α)).run ([1] ++ (write x ++ rest)) = _
      rw [run_bind_ok (reads_uint8.run_write trivial _), if_neg (by decide), if_pos rfl,
        run_bind_ok (h.run_write (ho x rfl) rest)]
      rfl
  of_run := by
    intro ts o rest hr
    obtain ⟨mark, s₁, h₁, h₂⟩ := run_bind_eq_ok.mp hr
    obtain ⟨-, rfl⟩ := reads_uint8.of_run h₁
    split at h₂
    · next h0 =>
      obtain ⟨rfl, rfl⟩ := run_pure_eq_ok.mp h₂
      simp [encodeOptional, h0]
    · split at h₂
      · next h1 =>
        obtain ⟨x, s₂, h₃, h₄⟩ := run_bind_eq_ok.mp h₂
        obtain ⟨rfl, rfl⟩ := run_pure_eq_ok.mp h₄
        obtain ⟨hx, rfl⟩ := h.of_run h₃
        simpa [encodeOptional, h1] using hx
      · exact absurd h₂ run_throw_ne_ok

end Bytes.Decoder
end AntTrail
