import AntTrail.Json.Token

/-!
Skipping a value of any kind.

What may come next depends on what has been written of the innermost list or
record, and on the brackets that are open; `Skip.step` is one token of that, and
`skip` takes tokens until no bracket is open. Brackets may nest without limit.
-/
namespace AntTrail.Json

/-- What may come next. -/
inductive Expected where
  | value
  /-- The first item or member, or the end. -/
  | first
  | key
  | colon
  /-- A comma, or the end. -/
  | more
deriving DecidableEq, Repr

/-- What may come next, and the brackets that are open, the innermost first. -/
structure Skip where
  expected : Expected
  brackets : List Bracket
deriving DecidableEq, Repr

namespace Skip

/-- A whole value is still to come. -/
def start : Skip := ⟨.value, []⟩

/-- Nothing is to come any more. -/
def isDone (s : Skip) : Bool := s.expected == .more && s.brackets.isEmpty

/-- A token where a value is demanded. -/
def value (brackets : List Bracket) : Token → Except SyntaxError Skip
  | .opening b => .ok ⟨.first, b :: brackets⟩
  | .string s => s.skip.map fun _ => ⟨.more, brackets⟩
  | .atom a => a.skip.map fun _ => ⟨.more, brackets⟩
  | _ => .error .expectedValue

/-- A token where a key is demanded. -/
def key (brackets : List Bracket) : Token → Except SyntaxError Skip
  | .string s => s.skip.map fun _ => ⟨.colon, brackets⟩
  | _ => .error .keyNotString

/-- A token where an item or a member is demanded. -/
def item (b : Bracket) (brackets : List Bracket) (t : Token) : Except SyntaxError Skip :=
  match b with
  | .list => value (b :: brackets) t
  | .record => key (b :: brackets) t

/-- One more token. -/
def step (s : Skip) (t : Token) : Except SyntaxError Skip :=
  match s.expected, s.brackets with
  | .value, brackets => value brackets t
  | .key, brackets => key brackets t
  | .colon, brackets =>
    match t with
    | .colon => .ok ⟨.value, brackets⟩
    | _ => .error .expectedColon
  | .first, b :: brackets =>
    match t with
    | .closing b' => if b' = b then .ok ⟨.more, brackets⟩ else item b brackets t
    | t => item b brackets t
  | .more, b :: brackets =>
    match t with
    | .closing b' => if b' = b then .ok ⟨.more, brackets⟩ else .error (.expectedMore b)
    | .comma => .ok ⟨if b = .list then .value else .key, b :: brackets⟩
    | _ => .error (.expectedMore b)
  | _, [] => .ok s

/-- The error when the tokens end. -/
def atEnd (s : Skip) : SyntaxError :=
  match s.expected, s.brackets with
  | .first, b :: _ => .endOf b
  | .more, b :: _ => .endOf b
  | .key, _ => .endOf .record
  | .colon, _ => .endOf .record
  | _, _ => .endOfValue

end Skip

/-- The tokens after what is to be skipped. -/
def skip (s : Skip) : List Token → Except SyntaxError (List Token)
  | [] => if s.isDone then .ok [] else .error s.atEnd
  | t :: ts =>
    if s.isDone then .ok (t :: ts)
    else match s.step t with
      | .ok s => skip s ts
      | .error e => .error e

end AntTrail.Json
