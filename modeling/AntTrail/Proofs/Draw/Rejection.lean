import Mathlib.Order.Interval.Finset.Nat
import AntTrail.Proofs.Draw

/-!
# Drawing by rejection

A word of 64 bits is scaled to the bound and taken if it falls into the complete part of the
scale, where every number below the bound has equally many words (`card_words`). A draw passes
over the words that are not taken. Since a stream begins again after its period, and a draw
goes on for all of it, the draw ends as soon as any word of the stream is taken, and then so
does every draw after it (`exists_below_of_below`): whether draws below a bound end is decided
by the first of them (`exists_times`).
-/
namespace AntTrail.Draw

/-! ## Places in a stream -/

namespace Source

/-- The source after `n` more words. -/
def skip (s : Source) (n : Nat) : Source := place s.key s.stream (s.position + n)

/-- The word of 64 bits that comes next. -/
def longWord (s : Source) : UInt64 := s.word.toUInt64 ||| (s.next.word.toUInt64 <<< 32)

theorem skip_zero (s : Source) : s.skip 0 = s := ext rfl rfl (Nat.mod_eq_of_lt s.position_lt)

theorem skip_skip (s : Source) (m n : Nat) : (s.skip m).skip n = s.skip (m + n) := by
  refine ext rfl rfl ?_
  show ((s.position + m) % period + n) % period = (s.position + (m + n)) % period
  rw [Nat.mod_add_mod, Nat.add_assoc]

/-- After a whole period the words come again. -/
theorem skip_congr (s : Source) {m n : Nat} (h : m % period = n % period) :
    s.skip m = s.skip n := by
  refine ext rfl rfl ?_
  show (s.position + m) % period = (s.position + n) % period
  rw [Nat.add_mod, h, ← Nat.add_mod]

theorem next_next (s : Source) : s.next.next = s.skip 2 := by
  have hnext : s.next = s.skip 1 := s.next_eq_place
  rw [hnext, ← skip_skip s 1 1]
  exact (s.skip 1).next_eq_place

end Source

theorem run_word64 (s : Source) : word64.run s = .ok (s.longWord, s.skip 2) := by
  rw [← s.next_next]
  rfl

/-! ## One draw -/

/-- The word `v`, scaled to the bound, is in the complete part of the scale. -/
def Takes (bound v : Nat) : Prop := v * bound % UInt64.size < zone bound

instance (bound v : Nat) : Decidable (Takes bound v) := inferInstanceAs (Decidable (_ < _))

/-- The words of 64 bits with which the number `i` is drawn. -/
def words (bound i : Nat) : Finset Nat :=
  (Finset.range UInt64.size).filter fun v => Takes bound v ∧ v * bound / UInt64.size = i

variable {bound attempts i j n : Nat} {s s' : Source}

theorem run_belowWithin_of_takes (h : Takes bound s.longWord.toNat) :
    (belowWithin bound (attempts + 1)).run s =
      .ok (s.longWord.toNat * bound / UInt64.size, s.skip 2) := by
  unfold Takes at h
  rw [belowWithin, run_bind_ok (run_word64 s)]
  dsimp only
  rw [if_pos h]
  rfl

theorem run_belowWithin_of_not_takes (h : ¬Takes bound s.longWord.toNat) :
    (belowWithin bound (attempts + 1)).run s = (belowWithin bound attempts).run (s.skip 2) := by
  unfold Takes at h
  rw [belowWithin, run_bind_ok (run_word64 s)]
  dsimp only
  rw [if_neg h]

/-- A draw that ends has come to a word with which its number is drawn, and ends behind it. -/
theorem exists_mem_words (h : (belowWithin bound attempts).run s = .ok (i, s')) :
    ∃ j < attempts, (s.skip (2 * j)).longWord.toNat ∈ words bound i ∧
      s' = s.skip (2 * j + 2) := by
  induction attempts generalizing s with
  | zero => cases h
  | succ attempts ih =>
    by_cases ht : Takes bound s.longWord.toNat
    · rw [run_belowWithin_of_takes ht] at h
      obtain ⟨rfl, rfl⟩ := Prod.mk.inj (Except.ok.inj h)
      refine ⟨0, Nat.succ_pos _, ?_, rfl⟩
      rw [Nat.mul_zero, s.skip_zero, words, Finset.mem_filter, Finset.mem_range]
      exact ⟨s.longWord.toNat_lt_size, ht, rfl⟩
    · rw [run_belowWithin_of_not_takes ht] at h
      obtain ⟨j, hj, hword, rfl⟩ := ih h
      rw [s.skip_skip] at hword
      refine ⟨j + 1, Nat.succ_lt_succ hj, ?_, ?_⟩
      · rwa [Nat.mul_succ, Nat.add_comm]
      · rw [s.skip_skip, Nat.mul_succ, Nat.add_comm 2]

/-- A draw with enough attempts to come to a word that is taken ends. -/
theorem exists_belowWithin (hj : j < attempts) (h : Takes bound (s.skip (2 * j)).longWord.toNat) :
    ∃ i s', (belowWithin bound attempts).run s = .ok (i, s') := by
  induction attempts generalizing s j with
  | zero => cases hj
  | succ attempts ih =>
    by_cases ht : Takes bound s.longWord.toNat
    · exact ⟨_, _, run_belowWithin_of_takes ht⟩
    · rw [run_belowWithin_of_not_takes ht]
      cases j with
      | zero =>
        rw [Nat.mul_zero, s.skip_zero] at h
        exact absurd h ht
      | succ j =>
        refine ih (Nat.lt_of_succ_lt_succ hj) ?_
        rwa [s.skip_skip, Nat.add_comm, ← Nat.mul_succ]

/-! ## One draw after the other -/

/-- If a draw ends, the next one does too: the word that the first has taken comes again
within a period. -/
theorem exists_below_of_below (h : (below bound).run s = .ok (i, s')) :
    ∃ i' s'', (below bound).run s' = .ok (i', s'') := by
  unfold below at h ⊢
  split at h
  · cases h
  · next hbound =>
    rw [if_neg hbound]
    obtain ⟨j, hj, hword, rfl⟩ := exists_mem_words h
    -- from behind the word it is a period less one attempt
    refine exists_belowWithin (j := period / 2 - 1) (by unfold period; omega) ?_
    rw [s.skip_skip, s.skip_congr (n := 2 * j)]
    · exact (Finset.mem_filter.mp hword).2.1
    · unfold period at *
      omega

/-- Where one draw ends, any number of draws end. -/
theorem exists_times (h : ∃ i s', (below bound).run s = .ok (i, s')) (n : Nat) :
    ∃ drawn after, (times (below bound) n).run s = .ok (drawn, after) := by
  induction n generalizing s with
  | zero => exact ⟨[], s, rfl⟩
  | succ n ih =>
    obtain ⟨i, s', hi⟩ := h
    obtain ⟨drawn, after, hrest⟩ := ih (exists_below_of_below hi)
    exact ⟨i :: drawn, after, run_times_succ.mpr ⟨i, s', drawn, hi, hrest, rfl⟩⟩

/-! ## How likely a number is -/

theorem zone_eq (bound : Nat) : zone bound = bound * 2 ^ (63 - bound.log2) := Nat.shiftLeft_eq ..

theorem zone_le (hpos : 0 < bound) (hbound : bound < UInt64.size) : zone bound ≤ UInt64.size := by
  have hlog : bound.log2 < 64 := (Nat.log2_lt (Nat.ne_of_gt hpos)).mpr hbound
  calc zone bound = bound * 2 ^ (63 - bound.log2) := zone_eq bound
    _ ≤ 2 ^ (bound.log2 + 1) * 2 ^ (63 - bound.log2) :=
      Nat.mul_le_mul_right _ (Nat.le_of_lt Nat.lt_log2_self)
    _ = 2 ^ 64 := by rw [← Nat.pow_add]; congr 1; omega

/-- A number is drawn with the words whose multiples are in a stretch as long as the complete
part of the scale. -/
theorem mem_words (hbound : bound < UInt64.size) (hi : i < bound) {v : Nat} :
    v ∈ words bound i ↔ i * UInt64.size ≤ v * bound ∧ v * bound < i * UInt64.size + zone bound := by
  have hzone := zone_le (Nat.zero_lt_of_lt hi) hbound
  rw [words, Finset.mem_filter, Finset.mem_range, Takes]
  constructor
  · rintro ⟨-, hlt, hdiv⟩
    unfold UInt64.size at *
    omega
  · rintro ⟨hlow, hhigh⟩
    have hv : v * bound < UInt64.size * bound := by
      calc v * bound < i * UInt64.size + UInt64.size := by omega
        _ = (i + 1) * UInt64.size := (Nat.add_one_mul i _).symm
        _ ≤ bound * UInt64.size := Nat.mul_le_mul_right _ hi
        _ = UInt64.size * bound := Nat.mul_comm ..
    refine ⟨Nat.lt_of_mul_lt_mul_right hv, ?_⟩
    unfold UInt64.size at *
    omega

/-- Each number below the bound is drawn with equally many words. -/
theorem card_words (hbound : bound < UInt64.size) (hi : i < bound) :
    (words bound i).card = 2 ^ (63 - bound.log2) := by
  have hpos : 0 < bound := Nat.zero_lt_of_lt hi
  -- the first word whose multiple is at least `x`
  have hfirst : ∀ x v, (x + (bound - 1)) / bound ≤ v ↔ x ≤ v * bound := by
    intro x v
    rw [← Nat.lt_succ_iff, Nat.div_lt_iff_lt_mul hpos, Nat.succ_mul]
    omega
  have hlast : (i * UInt64.size + zone bound + (bound - 1)) / bound =
      (i * UInt64.size + (bound - 1)) / bound + 2 ^ (63 - bound.log2) := by
    rw [zone_eq, Nat.add_right_comm, Nat.add_mul_div_left _ _ hpos]
  have hrow : words bound i = Finset.Ico ((i * UInt64.size + (bound - 1)) / bound)
      ((i * UInt64.size + (bound - 1)) / bound + 2 ^ (63 - bound.log2)) := by
    ext v
    rw [mem_words hbound hi, Finset.mem_Ico, ← hlast, hfirst, ← Nat.not_le, ← Nat.not_le, hfirst]
  rw [hrow, Nat.card_Ico, Nat.add_sub_cancel_left]

end AntTrail.Draw
