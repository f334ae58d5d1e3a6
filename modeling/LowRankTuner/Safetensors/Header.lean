import LowRankTuner.Json.Value
import LowRankTuner.Json.Write
import LowRankTuner.Tensor.Shape
import LowRankTuner.Text.Quote
/-
  LowRankTuner/Safetensors/Header.lean
  ====================================
  The header of a safetensors file: which tensors the file holds, and where.

  A safetensors file is an eight-byte little-endian length `n`, a JSON object of `n`
  bytes, and the tensor data.  The object maps each tensor name to its element type, its
  shape and the byte range `[start, stop)` of its data, counted from the end of the
  header; an optional `__metadata__` entry maps names to strings.

  `Header.ofJson?` accepts what a derived record reader accepts: an entry is an object
  with the three fields (others are ignored) or an array of the three values in order,
  shapes and ranges hold naturals below `2^64`.  It reads the object as written: a field
  of an entry, or the metadata, given twice is refused, while of a tensor or a metadata
  name given twice the last counts.  `Header.validate` checks that the ranges,
  in the order of their starts, tile the data from zero without gaps, and that each range
  is as long as its tensor's elements need; it returns the length of the data.
-/

namespace LowRankTuner.Safetensors

/-- The element types a safetensors file can declare, in the format's own order. -/
inductive StoredType where
  | bool
  | u8
  | i8
  | f8e5m2
  | f8e4m3
  | i16
  | u16
  | f16
  | bf16
  | i32
  | u32
  | f32
  | f64
  | i64
  | u64
  deriving DecidableEq, Repr

namespace StoredType

/-- Every element type, in the format's order. -/
def all : List StoredType :=
  [.bool, .u8, .i8, .f8e5m2, .f8e4m3, .i16, .u16, .f16, .bf16, .i32, .u32, .f32, .f64, .i64, .u64]

/-- The name of an element type in a header. -/
def name : StoredType → String
  | .bool => "BOOL"
  | .u8 => "U8"
  | .i8 => "I8"
  | .f8e5m2 => "F8_E5M2"
  | .f8e4m3 => "F8_E4M3"
  | .i16 => "I16"
  | .u16 => "U16"
  | .f16 => "F16"
  | .bf16 => "BF16"
  | .i32 => "I32"
  | .u32 => "U32"
  | .f32 => "F32"
  | .f64 => "F64"
  | .i64 => "I64"
  | .u64 => "U64"

/-- Bytes per element. -/
def size : StoredType → Nat
  | .bool | .u8 | .i8 | .f8e5m2 | .f8e4m3 => 1
  | .i16 | .u16 | .f16 | .bf16 => 2
  | .i32 | .u32 | .f32 => 4
  | .f64 | .i64 | .u64 => 8

/-- The position of an element type in the format's order. -/
def index (t : StoredType) : Nat := all.idxOf t

/-- The element type of a header name. -/
def ofName? (s : String) : Option StoredType := all.find? (·.name == s)

end StoredType

/-- Why the bytes of a file are not a safetensors file. -/
inductive Fault where
  /-- Fewer than eight bytes. -/
  | headerTooSmall
  /-- A declared header length above the limit. -/
  | headerTooLarge
  /-- A declared header length past the end of the file. -/
  | invalidHeaderLength
  /-- A header that is not UTF-8 text. -/
  | invalidHeader
  /-- A header that is not a JSON object of tensor entries. -/
  | invalidHeaderDeserialization
  /-- Data that is not as long as the entries say. -/
  | metadataIncompleteBuffer
  /-- An entry whose range does not start where the previous one stops. -/
  | invalidOffset (name : String)
  /-- An entry whose range does not fit its shape. -/
  | tensorInvalidInfo
  /-- An entry whose size does not fit in 64 bits. -/
  | validationOverflow
  deriving DecidableEq, Repr

/-- The name of a fault, with the entry's name quoted where there is one. -/
def Fault.message : Fault → String
  | .headerTooSmall => "HeaderTooSmall"
  | .headerTooLarge => "HeaderTooLarge"
  | .invalidHeaderLength => "InvalidHeaderLength"
  | .invalidHeader => "InvalidHeader"
  | .invalidHeaderDeserialization => "InvalidHeaderDeserialization"
  | .metadataIncompleteBuffer => "MetadataIncompleteBuffer"
  | .invalidOffset n => "InvalidOffset(" ++ Text.quoted n ++ ")"
  | .tensorInvalidInfo => "TensorInvalidInfo"
  | .validationOverflow => "ValidationOverflow"

/-- One tensor of a file: its name, element type, shape and byte range. -/
structure Entry where
  name : String
  dtype : StoredType
  shape : Shape
  start : Nat
  stop : Nat
  deriving DecidableEq, Repr

/-- The header of a file: the metadata, if any, and the entries in the order of their
data. -/
structure Header where
  metadata : Option (List (String × String)) := none
  entries : List Entry := []
  deriving Repr

/-- The largest natural that 64 bits hold. -/
def wordMax : Nat := Nat.pow 2 64 - 1

/-- The largest header the format reads. -/
def headerLimit : Nat := 100000000

namespace Entry

/-- The entry as a header value: type, shape and range, in that order. -/
def toJson (e : Entry) : Json :=
  .obj [("dtype", .str e.dtype.name), ("shape", .arr (e.shape.map Json.ofNat)),
    ("data_offsets", .arr [Json.ofNat e.start, Json.ofNat e.stop])]

/-- A list of naturals. -/
def natsOf? (j : Json) : Option (List Nat) := j.items? >>= (·.mapM Json.nat?)

/-- The entry of a name from its type, shape and range values. -/
def ofParts? (name : String) (dtype shape offsets : Json) : Option Entry := do
  let t ← dtype.str? >>= StoredType.ofName?
  let s ← natsOf? shape
  match ← natsOf? offsets with
  | [a, b] => pure ⟨name, t, s, a, b⟩
  | _ => none

/-- Each of some keys is given at most once among the fields of an object as written. -/
def atMostOnce (fs : List (String × Json)) (keys : List String) : Bool :=
  keys.all fun k => (fs.filter (·.1 == k)).length ≤ 1

/-- The entry of a name from a header value as written: an object with the three fields,
none of them twice, or an array of the three values. -/
def ofJson? (name : String) : Json → Option Entry
  | .obj fs => do
    if !atMostOnce fs ["dtype", "shape", "data_offsets"] then none
    let fs := Json.sortFields fs
    ofParts? name (← fs.lookup "dtype") (← fs.lookup "shape") (← fs.lookup "data_offsets")
  | .arr [d, s, o] => ofParts? name d s o
  | _ => none

/-- The number of elements, `none` once a partial product passes 64 bits. -/
def elements? (e : Entry) : Option Nat :=
  e.shape.foldlM (fun acc d => if acc * d > wordMax then none else some (acc * d)) 1

end Entry

namespace Header

/-- The header as a JSON object: the metadata first, then the entries in data order. -/
def toJson (h : Header) : Json :=
  let front := match h.metadata with
    | some m => [("__metadata__", Json.obj (m.map fun (k, v) => (k, .str v)))]
    | none => []
  .obj (front ++ h.entries.map fun e => (e.name, e.toJson))

/-- The metadata of a header value: absent, null, or an object of strings, the last of
equal keys kept. -/
def metadataOf? : Option Json → Option (Option (List (String × String)))
  | none | some .null => some none
  | some (.obj fs) =>
    ((Json.sortFields fs).mapM fun (kv : String × Json) => kv.2.str?.map (kv.1, ·)).map some
  | some _ => none

/-- The header of a JSON value as written, entries put in the order of their ranges: the
metadata may be given once, and of a tensor named twice the last description counts. -/
def ofJson? : Json → Option Header
  | .obj fs => do
    if !Entry.atMostOnce fs ["__metadata__"] then none
    let described ← metadataOf? (fs.lookup "__metadata__")
    let tensors := Json.sortFields (fs.filter (·.1 != "__metadata__"))
    let entries ← tensors.mapM fun (k, v) => Entry.ofJson? k v
    let ordered := entries.mergeSort fun a b =>
      a.start < b.start || (a.start == b.start && a.stop ≤ b.stop)
    pure ⟨described, ordered⟩
  | _ => none

/-- The length of the data that the entries tile, or why they do not. -/
def validate (h : Header) : Except Fault Nat :=
  h.entries.foldlM (fun start e => do
    if e.start != start || e.stop < e.start then throw (.invalidOffset e.name)
    let some n := e.elements? | throw .validationOverflow
    if n * e.dtype.size > wordMax then throw .validationOverflow
    if e.stop - e.start != n * e.dtype.size then throw .tensorInvalidInfo
    pure e.stop) 0

end Header

end LowRankTuner.Safetensors
