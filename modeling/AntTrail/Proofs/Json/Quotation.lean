import AntTrail.Json.Quotation
import AntTrail.Proofs.Reading

/-!
# Strings are read as they are written

Between its quotation marks a string is a list of pieces, each a character as it stands, a
character after a backslash, or a code unit in four hexadecimal digits (`Spells`). Which
characters the pieces stand for is said by `joined`: halves of surrogate pairs are put
together, and if one is left alone there are none. A string that is only skipped may have
such halves in it (`skipString_spells`).
-/
namespace AntTrail.Json

/-- The characters that write some pieces. -/
inductive Spells : List Char → List Piece → Prop
  | nil : Spells [] []
  | plain {c : Char} {cs : List Char} {ps : List Piece} (hquote : c ≠ '"') (hslash : c ≠ '\\')
    (hcontrol : 0x20 ≤ c.toNat) (h : Spells cs ps) : Spells (c :: cs) (.char c :: ps)
  | escape {c d : Char} {cs : List Char} {ps : List Piece} (hc : escaped? c = some d)
    (h : Spells cs ps) : Spells ('\\' :: c :: cs) (.char d :: ps)
  | unit {a b c d : Char} {i j k l : Nat} {cs : List Char} {ps : List Piece}
    (ha : Text.hexDigit? a = some i) (hb : Text.hexDigit? b = some j)
    (hc : Text.hexDigit? c = some k) (hd : Text.hexDigit? d = some l) (h : Spells cs ps) :
    Spells ('\\' :: 'u' :: a :: b :: c :: d :: cs)
      (.unit (((i * 16 + j) * 16 + k) * 16 + l) :: ps)

/-- The characters for which some pieces stand, after a leading half that waits for its
partner, or after none. -/
def joined (waiting : Option Nat) : List Piece → Except SyntaxError (List Char)
  | [] => if waiting.isSome then .error .unfinishedPair else .ok []
  | p :: ps => do
    let (waiting, complete) ← join waiting p
    let cs ← joined waiting ps
    return complete.toList ++ cs

/-- Pieces that are characters stand for themselves. -/
theorem joined_map_char (cs : List Char) : joined none (cs.map .char) = .ok cs := by
  induction cs with
  | nil => rfl
  | cons c cs ih =>
    rw [List.map_cons, joined, join, ok_bind]
    dsimp only
    rw [ih, ok_bind]
    rfl

/-- A character that needs no backslash. -/
def isUnescaped (c : Char) : Bool :=
  c != '"' && c != '\\' && 0x20 ≤ c.toNat

/-- Characters that need no backslash stand for themselves. -/
theorem spells_map_char {cs : List Char} (h : cs.all isUnescaped = true) :
    Spells cs (cs.map .char) := by
  induction cs with
  | nil => exact .nil
  | cons c cs ih =>
    rw [List.all_cons, Bool.and_eq_true] at h
    obtain ⟨hc, hcs⟩ := h
    obtain ⟨⟨hquote, hslash⟩, hcontrol⟩ : (c ≠ '"' ∧ c ≠ '\\') ∧ 0x20 ≤ c.toNat := by
      simpa [isUnescaped] using hc
    exact .plain hquote hslash hcontrol (ih hcs)

variable {cs : List Char} {ps : List Piece}

/-! ## Skipping -/

theorem skipString_quote (rest : List Char) : skipString .plain ('"' :: rest) = .ok rest := by
  simp [skipString]

theorem skipString_of_advance {p q : Place} {c : Char} {o : Option Piece} {rest : List Char}
    (hp : ¬(p = .plain ∧ c = '"')) (h : p.advance c rest = .ok (o, q)) :
    skipString p (c :: rest) = skipString q rest := by
  rw [skipString, if_neg hp, h]

theorem skipString_spells (h : Spells cs ps) (rest : List Char) :
    skipString .plain (cs ++ '"' :: rest) = .ok rest := by
  induction h with
  | nil => exact skipString_quote rest
  | @plain c cs ps hquote hslash hcontrol h ih =>
    rw [List.cons_append, skipString_of_advance (q := .plain) (o := some (.char c))]
    · exact ih
    · simp [hquote]
    · simp [Place.advance, hslash, Nat.not_lt.mpr hcontrol]
  | @escape c d cs ps hc h ih =>
    have hu : c ≠ 'u' := by
      rintro rfl
      cases hc
    simpa [skipString, Place.advance, hu, hc] using ih
  | unit ha hb hc hd h ih =>
    simpa [skipString, Place.advance, ha, hb, hc, hd] using ih

/-! ## Reading -/

section
variable {p q : Place} {c : Char} {waiting : Option Nat} {rest tail : List Char}

/-- A half that waits is in vain when the next character cannot begin its partner. -/
theorem readString_alone {high : Nat} (h : p.continues c = false) :
    readString (some high) p (c :: rest) = .error .unfinishedPair := by
  rw [readString, h]
  rfl

/-- A character in the middle of a piece. -/
theorem readString_within (hwait : waiting.isSome → p.continues c = true)
    (hp : ¬(p = .plain ∧ c = '"')) (h : p.advance c rest = .ok (none, q)) :
    readString waiting p (c :: rest) = readString waiting q rest := by
  have hgo : ¬((waiting.isSome && !p.continues c) = true) := by
    cases waiting with
    | none => simp
    | some high => simp [hwait rfl]
  rw [readString, if_neg hgo, if_neg hp, h, ok_bind]
  show (readString waiting q rest >>= fun found => pure ((none : Option Char).toList ++ found.1,
    found.2)) = _
  cases readString waiting q rest with
  | error e => rfl
  | ok found => rfl

/-- A character that completes a piece. -/
theorem readString_piece {piece : Piece} (hwait : waiting.isSome → p.continues c = true)
    (hp : ¬(p = .plain ∧ c = '"')) (h : p.advance c tail = .ok (some piece, .plain))
    (ih : ∀ waiting, readString waiting .plain tail = (joined waiting ps).map fun s => (s, rest)) :
    readString waiting p (c :: tail) = (joined waiting (piece :: ps)).map fun s => (s, rest) := by
  have hgo : ¬((waiting.isSome && !p.continues c) = true) := by
    cases waiting with
    | none => simp
    | some high => simp [hwait rfl]
  rw [readString, if_neg hgo, if_neg hp, h, ok_bind, joined]
  dsimp only
  cases join waiting piece with
  | error e => rfl
  | ok next =>
    rw [ok_bind, ok_bind, ih]
    cases joined next.1 ps with
    | error e => rfl
    | ok cs => rfl

end

/-- The text up to the closing mark is read as the characters for which its pieces stand. -/
theorem readString_spells (h : Spells cs ps) (waiting : Option Nat) (rest : List Char) :
    readString waiting .plain (cs ++ '"' :: rest) = (joined waiting ps).map fun s => (s, rest) := by
  induction h generalizing waiting with
  | nil =>
    cases waiting with
    | none => rfl
    | some high => rfl
  | @plain c cs ps hquote hslash hcontrol h ih =>
    rw [List.cons_append]
    cases waiting with
    | none =>
      refine readString_piece (by simp) (by simp [hquote]) ?_ ih
      simp [Place.advance, hslash, Nat.not_lt.mpr hcontrol]
    | some high =>
      rw [readString_alone (by simp [Place.continues, hslash])]
      rfl
  | @escape c d cs ps hc h ih =>
    have hu : c ≠ 'u' := by
      rintro rfl
      cases hc
    rw [List.cons_append, List.cons_append,
      readString_within (q := .escape) (fun _ => rfl) (by simp) (by simp [Place.advance])]
    cases waiting with
    | none => exact readString_piece (by simp) (by simp) (by simp [Place.advance, hu, hc]) ih
    | some high =>
      rw [readString_alone (by simp [Place.continues, hu])]
      rfl
  | @unit a b c d i j k l cs ps ha hb hc hd h ih =>
    have hzero : 0 * 16 + i = i := by omega
    simp only [List.cons_append]
    rw [readString_within (q := .escape) (fun _ => rfl) (by simp) (by simp [Place.advance]),
      readString_within (q := .unit 0 0) (fun _ => rfl) (by simp) (by simp [Place.advance]),
      readString_within (q := .unit 1 i) (fun _ => rfl) (by simp) (by simp [Place.advance, ha]),
      readString_within (q := .unit 2 (i * 16 + j)) (fun _ => rfl) (by simp)
        (by simp [Place.advance, hb]),
      readString_within (q := .unit 3 ((i * 16 + j) * 16 + k)) (fun _ => rfl) (by simp)
        (by simp [Place.advance, hc])]
    exact readString_piece (fun _ => rfl) (by simp) (by simp [Place.advance, hd]) ih

end AntTrail.Json
