import Mathlib.Data.List.TakeDrop
import AntTrail.Json.Number
import AntTrail.Proofs.Reading

/-!
# Numbers are scanned as they are written

A number is a sign, digits without idle zeros in front, and then a fraction or an exponent or
both or neither (`Literal.Spelt`). Where such a number ends, and not in the middle of a longer
one, the scan of its parts ends too (`scan_append`). A number without fraction and exponent
means the integer that its digits write (`Literal.Writes.value_eq`).
-/
namespace AntTrail.Json

namespace Literal

/-! ## Parts -/

/-- One or more digits. -/
structure Digits (ds : List Char) : Prop where
  ne_nil : ds ≠ []
  isDigit : ∀ c ∈ ds, c.isDigit = true

/-- The digits before the point. -/
structure Whole (ds : List Char) : Prop extends Digits ds where
  zero_alone : ds.head? = some '0' → ds = ['0']

theorem Digits.single {c : Char} (h : c.isDigit = true) : Digits [c] :=
  ⟨List.cons_ne_nil c [], by simpa using h⟩

theorem Whole.single {c : Char} (h : c.isDigit = true) : Whole [c] :=
  ⟨.single h, by simp⟩

/-- The digits after the point, and how they are written. -/
inductive Fraction : List Char → List Char → Prop
  | none : Fraction [] []
  | point {ds : List Char} (h : Digits ds) : Fraction ds ('.' :: ds)

/-- The sign of an exponent, and how it is written. -/
inductive Sign : Bool → List Char → Prop
  | none : Sign false []
  | plus : Sign false ['+']
  | minus : Sign true ['-']

/-- An exponent, and how it is written. -/
inductive Exponent : Option (Bool × List Char) → List Char → Prop
  | none : Exponent .none []
  | some {e : Char} {negative : Bool} {sign ds : List Char} (he : e = 'e' ∨ e = 'E')
    (hs : Sign negative sign) (h : Digits ds) :
    Exponent (.some (negative, ds)) (e :: (sign ++ ds))

/-- A number and the characters that write it, but for a minus sign. -/
inductive Unsigned (l : Literal) : List Char → Prop
  | mk {fraction exponent : List Char} (hw : Whole l.whole) (hf : Fraction l.fraction fraction)
    (he : Exponent l.exponent exponent) : Unsigned l (l.whole ++ (fraction ++ exponent))

/-- A number and the characters that write it. -/
inductive Spelt (l : Literal) : List Char → Prop
  | positive {cs : List Char} (hs : l.negative = false) (h : Unsigned l cs) : Spelt l cs
  | negative {cs : List Char} (hs : l.negative = true) (h : Unsigned l cs) : Spelt l ('-' :: cs)

/-! ## Where a number ends -/

/-- What comes next does not carry on a number. -/
def Ends (rest : List Char) : Prop :=
  ∀ c, rest.head? = some c → c.isDigit = false ∧ c ≠ '.' ∧ c ≠ 'e' ∧ c ≠ 'E'

variable {ds rest cs : List Char}

theorem demandDigits_append (h : Digits ds) (hrest : ∀ c, rest.head? = some c → c.isDigit = false) :
    demandDigits (ds ++ rest) = .ok (ds, rest) := by
  have hspan : (ds ++ rest).span Char.isDigit = (ds, rest) := by
    rw [List.span_eq_takeWhile_dropWhile, List.takeWhile_append_of_pos h.isDigit,
      List.dropWhile_append_of_pos h.isDigit]
    cases rest with
    | nil => simp
    | cons c rest => simp [hrest c rfl]
  rw [demandDigits, hspan]
  cases ds with
  | nil => exact absurd rfl h.ne_nil
  | cons d ds => rfl

theorem head?_not_digit {e : Option (Bool × List Char)} {exponent : List Char}
    (he : Exponent e exponent) (hrest : Ends rest) :
    ∀ c, (exponent ++ rest).head? = some c → c.isDigit = false ∧ c ≠ '.' := by
  intro c hc
  cases he with
  | none => exact ⟨(hrest c hc).1, (hrest c hc).2.1⟩
  | some he hs h =>
    obtain rfl := Option.some.inj hc
    rcases he with rfl | rfl <;> decide

theorem scanWhole_append (h : Whole ds) (hrest : ∀ c, rest.head? = some c → c.isDigit = false) :
    scanWhole (ds ++ rest) = .ok (ds, rest) := by
  rw [scanWhole, demandDigits_append h.toDigits hrest, ok_bind]
  dsimp only
  split
  · exact absurd (h.zero_alone rfl) (by simp)
  · rfl

theorem scanFraction_append {f fraction : List Char} (hf : Fraction f fraction)
    (hrest : ∀ c, rest.head? = some c → c.isDigit = false ∧ c ≠ '.') :
    scanFraction (fraction ++ rest) = .ok (f, rest) := by
  cases hf with
  | none =>
    cases rest with
    | nil => rfl
    | cons c rest =>
      unfold scanFraction
      split
      · next heq =>
        exact absurd (List.cons_eq_cons.mp heq).1 (hrest c rfl).2
      · next heq => rfl
  | point h => exact demandDigits_append h fun c hc => (hrest c hc).1

theorem scanSign_append {negative : Bool} {sign : List Char} (hs : Sign negative sign)
    (h : Digits ds) (rest : List Char) :
    scanSign (sign ++ (ds ++ rest)) = (negative, ds ++ rest) := by
  cases hs with
  | plus => rfl
  | minus => rfl
  | none =>
    cases ds with
    | nil => exact absurd rfl h.ne_nil
    | cons d ds =>
      have hd := h.isDigit d List.mem_cons_self
      unfold scanSign
      split
      · next heq =>
        obtain rfl := (List.cons_eq_cons.mp heq).1
        cases hd
      · next heq =>
        obtain rfl := (List.cons_eq_cons.mp heq).1
        cases hd
      · rfl

theorem scanExponent_append {e : Option (Bool × List Char)} {exponent : List Char}
    (he : Exponent e exponent) (hrest : Ends rest) :
    scanExponent (exponent ++ rest) = .ok (e, rest) := by
  cases he with
  | none =>
    cases rest with
    | nil => rfl
    | cons c rest =>
      obtain ⟨-, -, hlower, hupper⟩ := hrest c rfl
      rw [List.nil_append, scanExponent, if_neg (not_or.mpr ⟨hlower, hupper⟩)]
  | @some e negative sign ds he hs h =>
    have hdigits := demandDigits_append h fun c hc => (hrest c hc).1
    rw [List.cons_append, List.append_assoc, scanExponent, if_pos he, scanSign_append hs h]
    dsimp only
    rw [hdigits, ok_bind]
    rfl

/-- A number is scanned as it is written, up to where it ends. -/
theorem scan_append {l : Literal} (h : Unsigned l cs) (hrest : Ends rest) :
    scan l.negative (cs ++ rest) = .ok (l, rest) := by
  obtain ⟨hw, hf, he⟩ := h
  rename_i fraction exponent
  have hafter := head?_not_digit he hrest
  have hwhole : ∀ c, (fraction ++ (exponent ++ rest)).head? = some c → c.isDigit = false := by
    intro c hc
    generalize l.fraction = f at hf
    cases hf with
    | none => exact (hafter c hc).1
    | point h =>
      obtain rfl := Option.some.inj hc
      rfl
  rw [scan, List.append_assoc, List.append_assoc, scanWhole_append hw hwhole, ok_bind]
  dsimp only
  rw [scanFraction_append hf hafter, ok_bind]
  dsimp only
  rw [scanExponent_append he hrest, ok_bind]
  rfl

/-! ## Integers -/

/-- A number that is written as an integer. -/
structure IsInteger (l : Literal) : Prop where
  fraction : l.fraction = []
  exponent : l.exponent = none

/-- The number is an integer and writes it: the digits are those of its absolute value, and a
minus sign stands before it just if it is below zero. -/
structure Writes (l : Literal) (n : Int) : Prop extends IsInteger l where
  digits : ofDigits l.whole = n.natAbs
  sign : l.negative = true ↔ n < 0

/-- Integers of 64 bits, with a sign or without, are meant as they are written. -/
theorem Writes.value_eq {l : Literal} {n : Int} (h : l.Writes n) (hlow : -9223372036854775808 ≤ n)
    (hhigh : n ≤ 18446744073709551615) : l.value = .ok (.integer n) := by
  have hsize : UInt64.size = 18446744073709551616 := rfl
  rw [value]
  simp only [h.fraction, h.exponent, h.digits, List.isEmpty_nil, Option.isNone_none, Bool.true_and,
    hsize]
  have hlt : n.natAbs < 18446744073709551616 := by omega
  by_cases hn : n < 0
  · have hneg := h.sign.mpr hn
    have habs : ¬(n.natAbs = 0 ∨ n.natAbs > 18446744073709551616 / 2) := by omega
    have hval : -(n.natAbs : Int) = n := by omega
    rw [if_pos (decide_eq_true hlt), hneg, if_neg (by decide), if_neg habs, hval]
  · have hpos : l.negative = false := by
      rw [← Bool.not_eq_true, h.sign]
      exact hn
    have hval : (n.natAbs : Int) = n := by omega
    rw [if_pos (decide_eq_true hlt), hpos, if_pos (by decide), hval]

/-- A number that is not written as an integer does not mean one. -/
theorem value_ne_integer {l : Literal} (h : ¬l.IsInteger) (n : Int) :
    l.value ≠ .ok (.integer n) := by
  have hreal : l.value = l.toReal := by
    rw [value, if_neg]
    intro hcond
    simp only [Bool.and_eq_true, List.isEmpty_iff, Option.isNone_iff_eq_none] at hcond
    exact h ⟨hcond.1.1, hcond.1.2⟩
  rw [hreal, toReal]
  intro hvalue
  obtain ⟨x, -, hx⟩ := bind_eq_ok.mp hvalue
  cases hx

end Literal
end AntTrail.Json
