import AntTrail.Timestamp.Text
import AntTrail.Text.Utf8
import AntTrail.Proofs.Reading

/-!
# Instants that are read are within bounds, and so are their texts

A text that is read as an instant gives a second of a day, at most a leap second
of nanoseconds, and a year that instants can have. An instant within these bounds
is written in few characters, so its text can be stored.
-/
namespace AntTrail

/-- A character takes at most four bytes. -/
theorem Text.Utf8.length_encode_ofList_le (cs : List Char) :
    (encode (String.ofList cs)).length ≤ 4 * cs.length := by
  have h : (encode (String.ofList cs)).length = (cs.flatMap String.utf8EncodeChar).length := by
    simp [encode, List.utf8Encode]
  rw [h]
  clear h
  induction cs with
  | nil => simp
  | cons c cs ih =>
    have hc := c.utf8Size_le_four
    rw [List.flatMap_cons, List.length_append, String.length_utf8EncodeChar, List.length_cons]
    omega

namespace Timestamp

/-! ## Reading -/

theorem value_lt {ds : List Char} (h : ∀ c ∈ ds, c.isDigit) : value ds < Nat.pow 10 ds.length := by
  have hgen : ∀ (ds : List Char) (n : Nat), (∀ c ∈ ds, c.isDigit) →
      ds.foldl (fun n d => 10 * n + (d.toNat - '0'.toNat)) n < (n + 1) * 10 ^ ds.length := by
    intro ds
    induction ds with
    | nil => intro n _; simp
    | cons d ds ih =>
      intro n hd
      have hd9 : d.toNat - '0'.toNat ≤ 9 := by
        have := hd d (by simp)
        simp only [Char.isDigit, Bool.and_eq_true, decide_eq_true_eq, UInt32.le_iff_toNat_le] at this
        have h9 : d.toNat ≤ 57 := this.2
        show d.toNat - 48 ≤ 9
        omega
      calc _ < (10 * n + (d.toNat - '0'.toNat) + 1) * 10 ^ ds.length :=
            ih _ fun c hc => hd c (by simp [hc])
        _ ≤ (10 * (n + 1)) * 10 ^ ds.length := Nat.mul_le_mul_right _ (by omega)
        _ = (n + 1) * 10 ^ (d :: ds).length := by
            rw [List.length_cons, Nat.pow_succ]
            ac_rfl
  simpa [value] using hgen ds 0 h

theorem digits_ok {width : Nat} {cs ds rest : List Char} (h : digits width cs = .ok (ds, rest)) :
    ds.length ≤ width ∧ ∀ c ∈ ds, c.isDigit := by
  cases cs with
  | nil => cases h
  | cons c cs =>
    simp only [digits] at h
    split at h
    · obtain ⟨rfl, -⟩ := Prod.mk.inj (Except.ok.inj h)
      constructor
      · exact Nat.le_trans (List.takeWhile_sublist _).length_le (List.length_take_le ..)
      · exact List.all_eq_true.mp List.all_takeWhile
    · cases h

theorem ensures_number (width low high : Nat) : Ensures (number width low high) (· ≤ high) := by
  refine .after fun _ => .after fun cs => .after fun p => .after fun _ => ?_
  dsimp only
  split
  · next h => exact .pure h.2
  · exact .throw

theorem ensures_fraction : Ensures fraction (· < 1000000000) := by
  refine .after fun cs => ?_
  split
  · next rest =>
    refine .bind (.lift fun p hp => hp) fun p hp => .after fun _ => .pure ?_
    obtain ⟨hl, hd⟩ := digits_ok hp
    calc _ < 10 ^ p.1.length * 10 ^ (9 - p.1.length) :=
          Nat.mul_lt_mul_of_pos_right (value_lt hd) (Nat.pow_pos (by decide))
      _ = 1000000000 := by rw [← Nat.pow_add, Nat.add_sub_cancel' hl]
  · exact .pure (by decide)

theorem shift_second_lt (t : Timestamp) (seconds : Int) : (t.shift seconds).second < 86400 := by
  simp only [shift, secondsPerDay]
  omega

/-- An instant whose day, second and nanosecond are such as a clock shows. -/
structure Bounded (t : Timestamp) : Prop where
  inRange : t.inRange
  second_lt : t.second < 86400
  nanosecond_lt : t.nanosecond < 2000000000

theorem ensures_readInstant : Ensures readInstant Bounded := by
  unfold readInstant
  refine .after fun year => .after fun _ => .after fun _ => .after fun month => .after fun _ =>
    .after fun _ => .after fun day => .after fun cs => ?_
  dsimp only
  split
  · exact .throw_bind
  · split
    · refine .after fun _ => .after fun hour => .after fun _ => .after fun _ => .after fun minute =>
        .after fun _ => .after fun _ => .bind (ensures_number 2 0 60) fun second hs =>
        .bind ensures_fraction fun nanosecond hn => .after fun offset => .after fun cs => ?_
      split
      · exact .throw_bind
      split
      · exact .throw_bind
      split
      · exact .throw_bind
      split
      · next hr =>
        refine .pure ⟨hr, shift_second_lt .., ?_⟩
        show nanosecond + second / 60 * 1000000000 < 2000000000
        omega
      · exact .throw
    · exact .throw_bind

theorem bounded_of_read {s : String} {t : Timestamp} (h : read s = .ok t) : t.Bounded := by
  obtain ⟨rest, hr⟩ := run'_eq_ok.mp h
  exact ensures_readInstant _ _ _ hr

/-! ## Writing -/

theorem length_padded_le (width : Nat) {n k : Nat} (hk : 0 < k) (hn : n < Nat.pow 10 k) :
    (padded width n).length ≤ max width k := by
  have hd := (Nat.length_toDigits_le_iff (by decide) hk).mpr hn
  simp only [padded, List.length_append, List.length_replicate]
  omega

/-- The month and the day of any instant are small numbers. -/
theorem ofDays_lt (n : Int) :
    (Date.ofDays n).month < 10000 ∧ (Date.ofDays n).day < 1000000 := by
  simp only [Date.ofDays]
  constructor
  · split <;> omega
  · omega

theorem length_writeYear_le {year : Int} (h : Date.minYear ≤ year ∧ year ≤ Date.maxYear) :
    (writeYear year).length ≤ 7 := by
  obtain ⟨hlow, hhigh⟩ := h
  simp only [Date.minYear, Date.maxYear] at hlow hhigh
  unfold writeYear
  split
  · have hy : year.toNat < 1000000 := by omega
    exact Nat.le_trans (length_padded_le 4 (k := 6) (by decide) hy) (by decide)
  · have hy : year.natAbs < 1000000 := by omega
    have := length_padded_le 4 (k := 6) (by decide) hy
    rw [List.length_cons]
    omega

theorem length_writeFraction_le (n : Nat) : (writeFraction (n % 1000000000)).length ≤ 10 := by
  have hmilli : n % 1000000000 / 1000000 < 1000000000 := by omega
  have hmicro : n % 1000000000 / 1000 < 1000000000 := by omega
  have hnano : n % 1000000000 < 1000000000 := by omega
  have h3 := length_padded_le 3 (k := 9) (by decide) hmilli
  have h6 := length_padded_le 6 (k := 9) (by decide) hmicro
  have h9 := length_padded_le 9 (k := 9) (by decide) hnano
  unfold writeFraction
  split
  · decide
  · split
    · rw [List.length_cons]
      omega
    · split
      · rw [List.length_cons]
        omega
      · rw [List.length_cons]
        omega

theorem Bounded.length_write_le {t : Timestamp} (h : t.Bounded) : t.write.length ≤ 64 := by
  obtain ⟨hr, hs, hn⟩ := h
  have hy : (writeYear (Date.ofDays t.day).year).length ≤ 7 :=
    length_writeYear_le (by
      simpa only [Timestamp.inRange, Bool.and_eq_true, decide_eq_true_eq] using hr)
  obtain ⟨hm, hd⟩ := ofDays_lt t.day
  have h1 := length_padded_le 2 (k := 4) (by decide) hm
  have h2 := length_padded_le 2 (k := 6) (by decide) hd
  have hhour : t.second / 3600 < 100 := by omega
  have hminute : t.second / 60 % 60 < 100 := by omega
  have hsecond : t.second % 60 + t.nanosecond / 1000000000 < 100 := by omega
  have h3 := length_padded_le 2 (k := 2) (by decide) hhour
  have h4 := length_padded_le 2 (k := 2) (by decide) hminute
  have h5 := length_padded_le 2 (k := 2) (by decide) hsecond
  have h6 := length_writeFraction_le t.nanosecond
  simp only [write, List.length_append, List.length_cons, List.length_nil]
  omega

/-- The text of an instant that is read back is short enough to be stored. -/
theorem length_encode_text_lt {t : Timestamp} (h : read t.text = .ok t) :
    (Text.Utf8.encode t.text).length < UInt64.size := by
  have hw := (bounded_of_read h).length_write_le
  have hu := Text.Utf8.length_encode_ofList_le t.write
  have : UInt64.size = 18446744073709551616 := rfl
  unfold text
  omega

end Timestamp
end AntTrail
