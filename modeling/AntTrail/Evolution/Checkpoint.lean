import AntTrail.Draw.Source
import AntTrail.Program.Stored

/-!
Checkpoints: the state of a run between two generations, as bytes.

In order: a version, the instant of writing, the next generation, the seed of
the run, the controlling source, the population, and the best program so far.
Bytes after that are ignored. The version is tested when all has been read.
-/
namespace AntTrail

/-- The best program of a run so far. -/
structure Best where
  program : Program
  score : Int32
  /-- The generation in which it was first seen. -/
  generation : UInt64
deriving DecidableEq, Repr

/-- The state of a run. -/
structure Checkpoint where
  version : UInt32
  timestamp : Timestamp
  /-- The next generation. -/
  generation : UInt64
  seed : UInt64
  source : Draw.Source.Saved
  population : List Program
  best : Option Best
deriving DecidableEq

/-- Why bytes are no checkpoint. -/
inductive CheckpointError where
  | unreadable (e : Bytes.DecodeError)
  | unsupported (version : UInt32)
deriving DecidableEq, Repr

namespace Checkpoint

/-- The version that is written and read. -/
def currentVersion : UInt32 := 1

end Checkpoint

/-- The text that says why. -/
def CheckpointError.message (e : CheckpointError) : String :=
  "Serialization error: " ++ match e with
    | unreadable e => s!"Failed to deserialize checkpoint: {e.message}"
    | unsupported version =>
      s!"unsupported checkpoint version {version} (expected {Checkpoint.currentVersion})"

namespace Checkpoint

open Bytes (Decoder littleEndian encodeUInt32 encodeUInt64 encodeInt32 encodeText encodeList
  encodeOptional)

/-- The bytes of a saved source: the key, the stream number and the position. -/
def encodeSource (s : Draw.Source.Saved) : List UInt8 :=
  s.key.toList.flatMap encodeUInt32 ++ encodeUInt64 s.stream ++ littleEndian 16 s.position.toNat

/-- A saved source. -/
def decodeSource : Decoder Draw.Source.Saved := do
  let words ← Decoder.many Decoder.uint32 8
  let stream ← Decoder.uint64
  let position ← Decoder.number 16
  return ⟨Vector.ofFn fun i => words[i.val]?.getD 0, stream, BitVec.ofNat 128 position⟩

/-- The bytes of a best program. -/
def encodeBest (b : Best) : List UInt8 :=
  b.program.encode ++ encodeInt32 b.score ++ encodeUInt64 b.generation

/-- A best program. -/
def decodeBest : Decoder Best := do
  let program ← Program.decoder
  let score ← Decoder.int32
  let generation ← Decoder.uint64
  return ⟨program, score, generation⟩

/-- The bytes of a checkpoint. -/
def encode (c : Checkpoint) : List UInt8 :=
  encodeUInt32 c.version ++ encodeText c.timestamp.text ++ encodeUInt64 c.generation ++
    encodeUInt64 c.seed ++ encodeSource c.source ++ encodeList Program.encode c.population ++
    encodeOptional encodeBest c.best

/-- A checkpoint of any version. -/
def decoder : Decoder Checkpoint := do
  let version ← Decoder.uint32
  let timestamp ← Decoder.instant
  let generation ← Decoder.uint64
  let seed ← Decoder.uint64
  let source ← decodeSource
  let population ← Decoder.list Program.decoder
  let best ← Decoder.optional decodeBest
  return ⟨version, timestamp, generation, seed, source, population, best⟩

/-- The checkpoint at the front of some bytes. -/
def decode (bs : List UInt8) : Except CheckpointError Checkpoint :=
  match decoder.run' bs with
  | .error e => .error (.unreadable e)
  | .ok c => if c.version = currentVersion then .ok c else .error (.unsupported c.version)

end Checkpoint
end AntTrail
