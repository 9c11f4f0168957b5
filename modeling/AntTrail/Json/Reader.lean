import AntTrail.Decimal
import AntTrail.Json.Skip
import AntTrail.Text.Quoted

/-!
Reading values of a wanted type from a JSON text.

A reader takes tokens from the front of a list. Errors are found in the order of
the text: what comes after the first one is not looked at. A `Schema` describes a
record with named fields, each of which may be left out if the record says so; in
place of a record the text may have a list of the fields in their order.
-/
namespace AntTrail.Json

/-- A value of another kind than wanted. -/
inductive Found where
  | null
  | bool (b : Bool)
  | integer (n : Int)
  | real (x : Float)
  | string (s : String)
  | list
  | record

/-- Numbers are named by the fewest digits that identify them: positional from
`0.00001` to below `10^16`, always with a point or an exponent. -/
def numberLayout : Decimal.Layout where
  tie := .toEven
  positional := fun exponent => -5 ≤ exponent && exponent < 16
  pointZero := true

/-- The name of a value of another kind. -/
def Found.name : Found → String
  | null => "null"
  | bool b => s!"boolean `{b}`"
  | integer n => s!"integer `{n}`"
  | real x => s!"floating point `{numberLayout.text x}`"
  | string s => s!"string {Text.quoted s}"
  | list => "sequence"
  | record => "map"

/-- Why a text has no value of the wanted type. -/
inductive ReadError where
  | syntaxError (e : SyntaxError)
  | wrongType (found : Found) (wanted : String)
  | outOfRange (n : Int) (wanted : String)
  | wrongLength (length : Nat) (wanted : String)
  | unknownVariant (found : String) (variants : List String)
  | duplicateField (name : String)
  | missingField (name : String)

/-- The text that says why. -/
def ReadError.message : ReadError → String
  | syntaxError e => e.message
  | wrongType found wanted => s!"invalid type: {found.name}, expected {wanted}"
  | outOfRange n wanted => s!"invalid value: integer `{n}`, expected {wanted}"
  | wrongLength length wanted => s!"invalid length {length}, expected {wanted}"
  | unknownVariant found variants =>
    let names := ", ".intercalate (variants.map fun v => s!"`{v}`")
    s!"unknown variant `{found}`, expected one of {names}"
  | duplicateField name => s!"duplicate field `{name}`"
  | missingField name => s!"missing field `{name}`"

/-- The computations that take tokens from the front of a list. -/
abbrev Reader := StateT (List Token) (Except ReadError)

namespace Reader

/-- The next token, which stays. -/
def peek : Reader (Option Token) := return (← get).head?

/-- Takes the next token. -/
def advance : Reader Unit := modify List.tail

/-- An error in the text itself. -/
def fail {α : Type} (e : SyntaxError) : Reader α := throw (.syntaxError e)

/-- The answer of a token. -/
def answer {α : Type} : Except SyntaxError α → Reader α
  | .ok a => return a
  | .error e => fail e

/-- Takes a value of any kind. -/
def skipped : Reader Unit := do
  set (← answer (skip .start (← get)))

/-- Takes a colon. -/
def colon : Reader Unit := do
  match ← peek with
  | some .colon => advance
  | some _ => fail .expectedColon
  | none => fail (.endOf .record)

/-! ## Plain values -/

/-- What a token is; of a list or record only that it is one. -/
def found : Token → Except SyntaxError Found
  | .opening .list => .ok .list
  | .opening .record => .ok .record
  | .string s => Found.string <$> s.read
  | .atom a => do
    match ← a.read with
    | .null => return .null
    | .bool b => return .bool b
    | .number (.integer n) => return .integer n
    | .number (.real x) => return .real x
  | _ => .error .expectedValue

/-- What comes next. -/
def lookAhead : Reader Found := do
  match ← peek with
  | some t => answer (found t)
  | none => fail .endOfValue

/-- A plain value that is accepted, and otherwise an error that names what was wanted. -/
def plain {α : Type} (wanted : String) (accept : Found → Option (Except ReadError α)) :
    Reader α := do
  let f ← lookAhead
  match accept f with
  | some (.ok a) =>
    advance
    return a
  | some (.error e) => throw e
  | none => throw (.wrongType f wanted)

/-- An integer from `low` to `high`. -/
def integer (wanted : String) (low high : Int) : Reader Int :=
  plain wanted fun
    | .integer n => some (if low ≤ n ∧ n ≤ high then .ok n else .error (.outOfRange n wanted))
    | _ => none

/-- An integer of 32 bits with a sign. -/
def int32 : Reader Int32 := Int32.ofInt <$> integer "i32" (-2147483648) 2147483647

/-- An integer of 32 bits without a sign. -/
def uint32 : Reader Nat := Int.toNat <$> integer "u32" 0 4294967295

/-- An integer of 64 bits without a sign. -/
def uint64 : Reader Nat := Int.toNat <$> integer "u64" 0 18446744073709551615

/-- A size; sizes have 64 bits. -/
def size : Reader Nat := Int.toNat <$> integer "usize" 0 18446744073709551615

/-- A floating point number, which may be written as an integer. -/
def real : Reader Float :=
  plain "f64" fun
    | .integer n => some (.ok (Float.ofInt n))
    | .real x => some (.ok x)
    | _ => none

/-- A truth value. -/
def bool : Reader Bool :=
  plain "a boolean" fun
    | .bool b => some (.ok b)
    | _ => none

/-- A string. -/
def string (wanted : String) : Reader String :=
  plain wanted fun
    | .string s => some (.ok s)
    | _ => none

/-- Nothing, written `null`. -/
def unit : Reader Unit :=
  plain "unit" fun
    | .null => some (.ok ())
    | _ => none

/-- A value that may be `null` instead. -/
def optional {α : Type} (value : Reader α) : Reader (Option α) := do
  match ← peek with
  | some (.atom (.sound .null)) =>
    advance
    return none
  | _ => some <$> value

/-! ## Variants -/

/-- The value with a given name. -/
def variant {α : Type} (name : α → String) (values : List α) : Reader α := do
  let s ← string "variant identifier"
  match values.find? fun v => name v == s with
  | some v => return v
  | none => throw (.unknownVariant s (values.map name))

/-- The key of a record with one member: the name of a value. -/
def variantKey {α : Type} (name : α → String) (values : List α) : Reader α := do
  match ← peek with
  | some (.string _) => variant name values
  | some _ => fail .keyNotString
  | none => fail (.endOf .record)

/-- One of several named values: its name, or a record with its name as the key
and nothing as the value. -/
def choice {α : Type} (name : α → String) (values : List α) : Reader α := do
  match ← peek with
  | some (.string _) => variant name values
  | some (.opening .record) =>
    advance
    let v ← variantKey name values
    colon
    unit
    match ← peek with
    | some (.closing .record) =>
      advance
      return v
    | some _ => fail .expectedValue
    | none => fail (.endOf .record)
  | some _ => fail .expectedValue
  | none => fail .endOfValue

end Reader

/-! ## Records -/

/-- A field: its name, and a reader of what it changes. -/
structure Field (α : Type) where
  name : String
  read : Reader (α → α)

/-- A record. -/
structure Schema (α : Type) where
  /-- What the record is called when it is wanted. -/
  name : String
  /-- The record before anything is read. -/
  start : α
  fields : List (Field α)
  /-- Whether every field has to be there. -/
  complete : Bool := false

namespace Schema

variable {α : Type}

/-- The field with a name. -/
def field? (s : Schema α) (name : String) : Option (Field α) :=
  s.fields.find? fun f => f.name == name

/-- A record of which the fields in `seen` have been read, if no other is needed. -/
def finish (s : Schema α) (seen : List String) (a : α) : Reader α :=
  match s.fields.find? fun f => s.complete && !seen.contains f.name with
  | some f => throw (.missingField f.name)
  | none => return a

/-- Whether another member comes; the comma before it is taken. -/
def another (isFirst : Bool) : Reader Bool := do
  match ← Reader.peek with
  | none => Reader.fail (.endOf .record)
  | some (.closing .record) => return false
  | some .comma =>
    if isFirst then Reader.fail .keyNotString
    else
      Reader.advance
      match ← Reader.peek with
      | some (.string _) => return true
      | some (.closing .record) => Reader.fail .trailingComma
      | some _ => Reader.fail .keyNotString
      | none => Reader.fail .endOfValue
  | some (.string _) => if isFirst then return true else Reader.fail (.expectedMore .record)
  | some _ => Reader.fail (if isFirst then .keyNotString else .expectedMore .record)

/-- A member: what it changes, and the names of the fields that have been read
after it. Members that are no field are skipped. -/
def member (s : Schema α) (seen : List String) : Reader ((α → α) × List String) := do
  let key ← Reader.string "a key"
  match s.field? key with
  | none =>
    Reader.colon
    Reader.skipped
    return (id, seen)
  | some f =>
    if seen.contains f.name then throw (.duplicateField f.name)
    Reader.colon
    let change ← f.read
    return (change, f.name :: seen)

/-- The members up to the closing bracket, at most `fuel` of them. -/
def members (s : Schema α) : (fuel : Nat) → (isFirst : Bool) → (seen : List String) → α → Reader α
  | 0, _, _, _ => Reader.fail (.endOf .record)
  | fuel + 1, isFirst, seen, a => do
    if ← another isFirst then
      let (change, seen) ← s.member seen
      s.members fuel false seen (change a)
    else
      Reader.advance
      s.finish seen a

/-- The end of a list that has an item for every field. -/
def listEnd : Reader Unit := do
  match ← Reader.peek with
  | some (.closing .list) => Reader.advance
  | some .comma =>
    Reader.advance
    match ← Reader.peek with
    | some (.closing .list) => Reader.fail .trailingComma
    | _ => Reader.fail .trailingCharacters
  | some _ => Reader.fail .trailingCharacters
  | none => Reader.fail (.endOf .list)

/-- Whether another item comes; the comma before it is taken. -/
def anotherItem (isFirst : Bool) : Reader Bool := do
  match ← Reader.peek with
  | none => Reader.fail (.endOf .list)
  | some (.closing .list) => return false
  | some t =>
    if isFirst then return true
    else match t with
      | .comma =>
        Reader.advance
        match ← Reader.peek with
        | some (.closing .list) => Reader.fail .trailingComma
        | _ => return true
      | _ => Reader.fail (.expectedMore .list)

/-- The items for some fields, up to the closing bracket; `index` have been read. -/
def items (s : Schema α) : List (Field α) → (index : Nat) → α → Reader α
  | [], _, a => do
    listEnd
    return a
  | f :: fs, index, a => do
    if ← anotherItem (index == 0) then
      let change ← f.read
      s.items fs (index + 1) (change a)
    else if s.complete then
      throw (.wrongLength index s!"{s.name} with {s.fields.length} elements")
    else
      Reader.advance
      return a

/-- Reads a record. -/
def read (s : Schema α) : Reader α := do
  match ← Reader.peek with
  | some (.opening .record) =>
    Reader.advance
    s.members ((← get).length + 1) true [] s.start
  | some (.opening .list) =>
    Reader.advance
    s.items s.fields 0 s.start
  | _ => throw (.wrongType (← Reader.lookAhead) s.name)

end Schema

/-- The value of a whole text. -/
def readText {α : Type} (value : Reader α) (text : String) : Except ReadError α := do
  let (a, rest) ← value.run (Token.ofText text)
  if rest.isEmpty then return a else throw (.syntaxError .trailingCharacters)

end AntTrail.Json
