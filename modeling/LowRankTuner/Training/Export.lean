import LowRankTuner.Model.CausalLM
import LowRankTuner.Safetensors.File
import LowRankTuner.Disk.Basic
/-!
# Exporting adapters

An adapter's state is every parameter of a model whose name contains `lora` in any case,
sorted by name.  `saveAdapterState` writes it as one safetensors file, making the
file's directory first, and reports its `AdapterStats`: the number of tensors, of their
elements, and of their bytes in mebibytes.  `inspectAdapter` reads the same counts back
from a file's header and ranges alone, and `loadAdapter` reads every tensor of a file in the
element types a tensor library holds.

Failures keep the layer they come from: reading a file for inspection fails as input and
output or as a malformed file, while loading and writing fail as tensor operations, with
the file's fault or the file system's error record as the detail.
-/

namespace LowRankTuner

/-- The size of an adapter: tensors, elements and mebibytes of data. -/
structure AdapterStats where
  tensors : Nat
  parameters : Nat
  sizeMb : Float

/-- Two sizes are the same: equal counts and equal mebibytes. -/
def AdapterStats.same (a b : AdapterStats) : Bool :=
  a.tensors == b.tensors && a.parameters == b.parameters && a.sizeMb == b.sizeMb

/-- The sizes of a count of tensors with their elements and bytes. -/
def AdapterStats.ofCounts (tensors parameters bytes : Nat) : AdapterStats :=
  ⟨tensors, parameters, floatOfRatio false bytes 1 / (1024.0 * 1024.0)⟩

/-- The sizes of named tensors. -/
def AdapterStats.ofState (state : List (String × Tensor)) : AdapterStats :=
  .ofCounts state.length ((state.map (·.2.numel)).foldr (· + ·) 0)
    ((state.map fun (_, t) => t.numel * t.dtype.byteSize).foldr (· + ·) 0)

/-- A parameter belongs to an adapter: its name contains `lora` in any case. -/
def isAdapterParameter (name : String) : Bool := name.toLower.contains "lora"

/-- The adapter state of a model: its adapter parameters, sorted by name. -/
def CausalLM.adapterState (m : CausalLM) : List (String × Tensor) :=
  m.namedParameters.filter fun (n, _) => isAdapterParameter n

/-- Steps that change files and may fail; a failure keeps the changes made before it. -/
abbrev DiskM := ExceptT Failure (StateM Disk)

/-- A change to the files, its error words turned into a failure. -/
def DiskM.change (f : Disk → Except String Disk) (err : String → Failure) : DiskM Unit := do
  match f (← get) with
  | .ok d => set d
  | .error e => throw (err e)

/-- The detail of a failed write of a tensor file. -/
def writeFault (text : String) : Failure := .tensor ("IoError(" ++ Disk.osErrorRecord text ++ ")")

/-- Writes named tensors to a safetensors file, making its directory first. -/
def saveAdapterState (state : List (String × Tensor)) (path : String) : DiskM AdapterStats := do
  match Disk.parent path with
  | some p => if p != "" then DiskM.change (·.createDirAll p) Failure.io
  | none => pure ()
  let bytes := Safetensors.encode (state.map fun (n, t) => (n, t.stored))
  DiskM.change (·.writeBytes path bytes) writeFault
  pure (AdapterStats.ofState state)

/-- Writes a model's adapter state to a safetensors file. -/
def exportAdapter (m : CausalLM) (path : String) : DiskM AdapterStats :=
  saveAdapterState m.adapterState path

/-- The sizes of the adapter in a safetensors file, read from its header. -/
def inspectAdapter (d : Disk) (path : String) : Except Failure AdapterStats := do
  let bytes ← (d.readBytes path).mapError Failure.io
  let file ← (Safetensors.SafetensorsFile.read bytes).mapError (.safetensors ·.message)
  let entries := file.header.entries
  pure (.ofCounts entries.length ((entries.map (Shape.numel ·.shape)).foldr (· + ·) 0)
    ((entries.map fun e => e.stop - e.start).foldr (· + ·) 0))

/-- The tensors of a safetensors file, sorted by name, in the element types they load as. -/
def loadAdapter (d : Disk) (path : String) : Except Failure (List (String × Safetensors.Stored)) := do
  let bytes ← (d.readBytes path).mapError Failure.tensor
  let file ← (Safetensors.SafetensorsFile.read bytes).mapError (.tensor ·.message)
  let loaded ← file.header.entries.mapM fun e =>
    match (file.view e).loaded? with
    | some s => pure (e.name, s)
    | none => throw (.tensor ("unsupported safetensor dtype " ++ e.dtype.name))
  pure (loaded.mergeSort fun a b => a.1 ≤ b.1)

end LowRankTuner
