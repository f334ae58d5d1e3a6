/-
  LowRankTuner/Dataset/Weighted.lean
  ==================================
  The training set: every record becomes a three-turn conversation (system prompt, the
  query as the user, the response as the assistant), rendered through the chat template,
  encoded, and made a fixed-length example.  Each example keeps the weight of its record,
  and sampling draws as many indices as there are examples, proportionally to weight, so
  heavy examples are seen more often without being stored twice.
-/
import LowRankTuner.Dataset.Example
import LowRankTuner.Tokenizer.Chat
import LowRankTuner.Queue.Record
import LowRankTuner.Sampling.Weighted

namespace LowRankTuner

/-- The system prompt of a conversation when none is configured. -/
def defaultSystemPrompt : String := "You are Qwen, a helpful AI assistant."

/-- The maximum sequence length when none is configured. -/
def defaultMaxLength : Nat := 512

/-- Tokenized examples with their sampling weights. -/
structure WeightedDataset where
  examples : List TokenizedExample
  weights : List Float
  maxLength : Nat
  /-- The number of examples that were longer than the maximum length. -/
  truncated : Nat

namespace WeightedDataset

/-- The conversation of a record. -/
def conversation (systemPrompt : String) (r : TrainingRecord) : List ChatMessage :=
  [⟨"system", systemPrompt⟩, ⟨"user", r.query⟩, ⟨"assistant", r.response⟩]

/-- The token ids of a record's conversation. -/
def recordIds (tok : ChatTokenizer) (systemPrompt : String) (r : TrainingRecord) :
    Except Failure (List Nat) := do
  let text ← tok.applyTemplate (conversation systemPrompt r) false
  tok.encode text

/-- Builds the dataset of a list of records. -/
def build (records : List TrainingRecord) (tok : ChatTokenizer) (maxLength : Nat)
    (systemPrompt : String) : Except Failure WeightedDataset := do
  if maxLength == 0 then throw (.invalidConfig "max_length must be positive")
  if records.isEmpty then throw (.invalidConfig "cannot build a dataset from zero records")
  let idss ← records.mapM (recordIds tok systemPrompt)
  return { examples := idss.map (TokenizedExample.ofTokenIds · maxLength tok.padTokenId)
           weights := records.map (·.weight)
           maxLength := maxLength
           truncated := (idss.filter (·.length > maxLength)).length }

/-- The number of examples. -/
def len (d : WeightedDataset) : Nat := d.examples.length

/-- Whether there are no examples. -/
def isEmpty (d : WeightedDataset) : Bool := d.examples.isEmpty

/-- The example at an index. -/
def get? (d : WeightedDataset) (i : Nat) : Option TokenizedExample := d.examples[i]?

/-- The sampler that draws `len` indices with replacement. -/
def sampler (d : WeightedDataset) : Except Failure WeightedSampler :=
  WeightedSampler.new d.weights d.len

/-- The example at an index, refused past the last one. -/
def exampleAt (d : WeightedDataset) (i : Nat) : Except Failure TokenizedExample :=
  match d.get? i with
  | some e => pure e
  | none => throw (.training ("sample index " ++ toString i ++ " out of range for " ++
      toString d.len ++ " examples"))

/-- Stacks the examples at the indices into a batch, padding labels ignored. -/
def collate (d : WeightedDataset) (indices : List Nat) : Except Failure Batch := do
  let rows ← indices.mapM d.exampleAt
  return { rows := indices.length, cols := d.maxLength
           inputIds := rows.flatMap (·.inputIds)
           attentionMask := rows.flatMap (·.attentionMask)
           labels := rows.flatMap (·.maskedLabels) }

end WeightedDataset

end LowRankTuner
