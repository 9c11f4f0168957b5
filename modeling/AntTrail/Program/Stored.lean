import AntTrail.Bytes.Decoder
import AntTrail.Program

/-!
Programs as bytes: the numbers of the kinds in pre-order, four bytes each.
-/
namespace AntTrail.Program

/-- The bytes of a kind. -/
def encodeKind (k : Kind) : List UInt8 := Bytes.littleEndian 4 k.number

/-- The bytes of a program. -/
def encode : Program → List UInt8
  | action a => encodeKind (.action a)
  | ifFood p q => encodeKind .ifFood ++ p.encode ++ q.encode
  | seq2 p q => encodeKind .seq2 ++ p.encode ++ q.encode
  | seq3 p q r => encodeKind .seq3 ++ p.encode ++ q.encode ++ r.encode

/-- A kind, by its number. -/
def decodeKind : Bytes.Decoder Kind := do
  let n ← Bytes.Decoder.number 4
  match Kind.all[n]? with
  | some k => return k
  | none => throw (.unknownVariant n Kind.all.length)

/-- A program. Every node takes four bytes, so as much `fuel` as there are bytes
is enough, and where it runs out the bytes have too. -/
def decodeTree : (fuel : Nat) → Bytes.Decoder Program
  | 0 => throw .endOfBytes
  | fuel + 1 => do
    let k ← decodeKind
    k.build (decodeTree fuel)

/-- A program. -/
def decoder : Bytes.Decoder Program := do
  decodeTree (← get).length

/-- The program at the front of some bytes; what follows it is ignored. -/
def decode (bs : List UInt8) : Except Bytes.DecodeError Program := decoder.run' bs

theorem encode_eq_flatMap (p : Program) : p.encode = p.kinds.flatMap encodeKind := by
  unfold kinds
  induction p with
  | action a => simp [encode, preorder, kind]
  | ifFood p q ihp ihq => simp [encode, preorder, kind, ihp, ihq]
  | seq2 p q ihp ihq => simp [encode, preorder, kind, ihp, ihq]
  | seq3 p q r ihp ihq ihr => simp [encode, preorder, kind, ihp, ihq, ihr]

end AntTrail.Program
