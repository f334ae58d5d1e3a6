import LowRankTuner.Safetensors.Header
import LowRankTuner.Json.Read
import LowRankTuner.Tensor.Basic
/-
  LowRankTuner/Safetensors/File.lean
  ==================================
  Reading and writing whole safetensors files.

  `SafetensorsFile.read` checks, in this order: at least eight bytes; a declared header
  length within the limit and within the file; UTF-8 text; a JSON header of entries; ranges
  that tile the data; and data exactly as long as the ranges.  The first check that fails
  names the fault.

  `encode` writes tensors in descending order of element type, then ascending order of
  name, each tensor's data following the previous one's; the header is padded with blanks
  to a multiple of eight bytes so that the data starts aligned.  Tensors are stored in
  little-endian order, half-precision values by their 16-bit words.
-/

namespace LowRankTuner.Safetensors

/-- The `width` little-endian bytes of a natural, higher bytes dropped. -/
def leBytes : Nat → Nat → List UInt8
  | 0, _ => []
  | w + 1, n => (n % 256).toUInt8 :: leBytes w (n / 256)

/-- The natural of little-endian bytes. -/
def leValue : List UInt8 → Nat
  | [] => 0
  | b :: bs => b.toNat + 256 * leValue bs

/-- The data of one tensor as a file stores it. -/
structure Stored where
  dtype : StoredType
  shape : Shape
  bytes : ByteArray

/-- The 16-bit word of a half-precision value held as a single. -/
def halfWord (x : Float32) : Nat :=
  match FloatClass.ofFloat32 x with
  | .nan => 0x7E00
  | .infinite neg => FloatFormat.half.infinityWord neg
  | .finite neg m q =>
    let (a, b) := scaleTwo m 1 q
    FloatFormat.half.nearest neg a b

/-- The words of `width` bytes each, in order. -/
def words (width : Nat) (bytes : ByteArray) : List Nat :=
  (List.range (bytes.size / width)).map fun i =>
    leValue (bytes.extract (i * width) (i * width + width)).toList

/-- Stored data as a tensor library holds it once loaded: the types it keeps as they are,
16-bit unsigned words widened to 32 bits and 32-bit signed words to 64 bits; `none` for the
types it does not hold. -/
def Stored.loaded? (s : Stored) : Option Stored :=
  match s.dtype with
  | .u8 | .u32 | .i64 | .bf16 | .f16 | .f32 | .f64 => some s
  | .u16 => some ⟨.u32, s.shape, ⟨((words 2 s.bytes).flatMap (leBytes 4)).toArray⟩⟩
  | .i32 => some ⟨.i64, s.shape, ⟨((words 4 s.bytes).flatMap fun w =>
      leBytes 8 (if w ≥ Nat.pow 2 31 then w + (Nat.pow 2 64 - Nat.pow 2 32) else w)).toArray⟩⟩
  | _ => none

/-- A file: its header and the bytes after it. -/
structure SafetensorsFile where
  header : Header
  data : ByteArray

namespace SafetensorsFile

/-- The names of the tensors. -/
def names (f : SafetensorsFile) : List String := f.header.entries.map (·.name)

/-- The stored data of an entry. -/
def view (f : SafetensorsFile) (e : Entry) : Stored :=
  ⟨e.dtype, e.shape, f.data.extract e.start e.stop⟩

/-- The file that some bytes hold, or the first check they fail. -/
def read (bytes : ByteArray) : Except Fault SafetensorsFile := do
  if bytes.size < 8 then throw .headerTooSmall
  let n := leValue (bytes.extract 0 8).toList
  if n > headerLimit then throw .headerTooLarge
  if n + 8 > bytes.size then throw .invalidHeaderLength
  let text := bytes.extract 8 (n + 8)
  if String.fromUTF8? text |>.isNone then throw .invalidHeader
  let some header := (Json.parseBytesAsWritten text).toOption.bind Header.ofJson?
    | throw .invalidHeaderDeserialization
  let stop ← header.validate
  if stop + 8 + n != bytes.size then throw .metadataIncompleteBuffer
  pure ⟨header, bytes.extract (n + 8) bytes.size⟩

end SafetensorsFile

/-- The header of named stored tensors, in the file's order, with the ranges they take. -/
def layout (tensors : List (String × Stored)) : List (String × Stored) × Header :=
  let ordered := tensors.mergeSort fun a b =>
    a.2.dtype.index > b.2.dtype.index || (a.2.dtype.index == b.2.dtype.index && a.1 ≤ b.1)
  let (entries, _) := ordered.foldl (fun (acc : List Entry × Nat) (name, s) =>
    (acc.1 ++ [⟨name, s.dtype, s.shape, acc.2, acc.2 + s.bytes.size⟩], acc.2 + s.bytes.size))
    ([], 0)
  (ordered, { entries })

/-- The bytes of a file holding named tensors. -/
def encode (tensors : List (String × Stored)) : ByteArray :=
  let (ordered, header) := layout tensors
  let text := (Json.compact header.toJson).toUTF8
  let padded := text ++ ⟨(List.replicate ((8 - text.size % 8) % 8) (32 : UInt8)).toArray⟩
  let body := ordered.foldl (fun acc (_, s) => acc ++ s.bytes) ByteArray.empty
  ⟨(leBytes 8 padded.size).toArray⟩ ++ padded ++ body

end LowRankTuner.Safetensors

namespace LowRankTuner

/-- A tensor as stored data. -/
def Tensor.stored (t : Tensor) : Safetensors.Stored :=
  match t.dtype with
  | .f32 => ⟨.f32, t.shape, ⟨(t.data.toList.flatMap fun x =>
      Safetensors.leBytes 4 x.toBits.toNat).toArray⟩⟩
  | .f16 => ⟨.f16, t.shape, ⟨(t.data.toList.flatMap fun x =>
      Safetensors.leBytes 2 (Safetensors.halfWord x)).toArray⟩⟩

/-- The tensor of loaded stored data, its elements held as singles: half and bfloat16 values
exactly, doubles and integers rounded once to the nearest single.  Only half values keep
their own format; the rest are singles. -/
def Safetensors.Stored.tensor (s : Safetensors.Stored) : Tensor :=
  let ws := fun (width : Nat) => Safetensors.words width s.bytes
  let singles := fun (xs : List Float32) => (⟨.f32, s.shape, xs.toArray⟩ : Tensor)
  match s.dtype with
  | .f16 => ⟨.f16, s.shape, ((ws 2).map fun w => float32OfClass (FloatFormat.half.decode w)).toArray⟩
  | .bf16 => singles ((ws 2).map fun w => float32OfWord (w * 65536))
  | .f32 => singles ((ws 4).map float32OfWord)
  | .f64 => singles ((ws 8).map fun w => (Float.ofBits (UInt64.ofNat w)).toFloat32)
  | .u8 => singles ((ws 1).map fun w => float32OfRatio false w 1)
  | .u32 => singles ((ws 4).map fun w => float32OfRatio false w 1)
  | .i64 => singles ((ws 8).map fun w =>
      if w ≥ Nat.pow 2 63 then float32OfRatio true (Nat.pow 2 64 - w) 1 else float32OfRatio false w 1)
  | _ => singles []

end LowRankTuner
