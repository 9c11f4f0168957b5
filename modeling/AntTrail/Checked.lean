import AntTrail.Fault

/-!
Arithmetic on 32-bit signed integers that reports overflow.

Each operation is the exact operation on integers, followed by a test that the
result fits. `add_eq_ok_iff` and its companions say so; afterwards every fact
about coordinates and step budgets is a fact about integers.
-/
namespace AntTrail.Checked

/-- The 32-bit integers are those from `-2^31` up to, but not including, `2^31`. -/
def Fits (n : Int) : Prop := -2147483648 ≤ n ∧ n < 2147483648

instance (n : Int) : Decidable (Fits n) := inferInstanceAs (Decidable (_ ∧ _))

/-- An exact result as a 32-bit integer, or the fault of the operation. -/
def narrow (fault : Fault) (n : Int) : Except Fault Int32 :=
  if Fits n then .ok (Int32.ofInt n) else .error fault

/-- Sum, a fault when it does not fit. -/
def add (a b : Int32) : Except Fault Int32 := narrow .addOverflow (a.toInt + b.toInt)

/-- Difference, a fault when it does not fit. -/
def sub (a b : Int32) : Except Fault Int32 := narrow .subOverflow (a.toInt - b.toInt)

/-- Remainder with the sign of the dividend. The quotient is computed too, so
that the least integer divided by `-1` is a fault although its remainder fits. -/
def rem (a b : Int32) : Except Fault Int32 :=
  if b.toInt = 0 then .error .remainderByZero
  else if Fits (a.toInt.tdiv b.toInt) then .ok (Int32.ofInt (a.toInt.tmod b.toInt))
  else .error .remainderOverflow

theorem fits_toInt (a : Int32) : Fits a.toInt := by
  have h1 := a.le_toInt
  have h2 := a.toInt_lt
  constructor <;> omega

theorem toInt_ofInt {n : Int} (h : Fits n) : (Int32.ofInt n).toInt = n :=
  Int32.toInt_ofInt_of_le h.1 h.2

theorem narrow_eq_ok_iff {fault : Fault} {n : Int} {c : Int32} :
    narrow fault n = .ok c ↔ c.toInt = n := by
  unfold narrow
  split
  · next h =>
    rw [Except.ok.injEq]
    constructor
    · rintro rfl
      exact toInt_ofInt h
    · intro hc
      rw [← Int32.toInt_inj, toInt_ofInt h, hc]
  · next h =>
    constructor
    · intro hc
      cases hc
    · rintro rfl
      exact absurd (fits_toInt c) h

theorem add_eq_ok_iff {a b c : Int32} : add a b = .ok c ↔ c.toInt = a.toInt + b.toInt :=
  narrow_eq_ok_iff

theorem sub_eq_ok_iff {a b c : Int32} : sub a b = .ok c ↔ c.toInt = a.toInt - b.toInt :=
  narrow_eq_ok_iff

end AntTrail.Checked
