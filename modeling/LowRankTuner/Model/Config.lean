/-
  LowRankTuner/Model/Config.lean
  ==============================
  The shape of a decoder-only transformer, as a model's `config.json` gives it.

  Five sizes are required; the model type, the key/value head count, the head size, the
  normalisation epsilon, the rotary base, the context length, whether the output
  projection reuses the embedding, and the activation have defaults.  A configuration is
  usable when it has a layer and an attention head, its query heads split evenly over its
  key/value heads, its head size is even (rotary embeddings turn pairs of coordinates),
  and its activation is SiLU.
-/
import LowRankTuner.Json.Decode
import LowRankTuner.Json.Write
import LowRankTuner.Failure

namespace LowRankTuner

/-- The shape of a decoder-only transformer. -/
structure ModelConfig where
  modelType : String := "qwen2"
  vocabSize : Nat
  hiddenSize : Nat
  intermediateSize : Nat
  numHiddenLayers : Nat
  numAttentionHeads : Nat
  /-- Fewer than `numAttentionHeads` for grouped-query attention. -/
  numKeyValueHeads : Option Nat := none
  headDim : Option Nat := none
  rmsNormEps : Float := 1e-6
  ropeTheta : Float := 10000.0
  maxPositionEmbeddings : Nat := 32768
  tieWordEmbeddings : Bool := false
  hiddenAct : String := "silu"

namespace ModelConfig

open Json in
/-- The fields of a configuration document, in the order of the record. -/
def fieldSpecs : List FieldSpec :=
  [⟨"model_type", .string, some (.str "qwen2")⟩,
   ⟨"vocab_size", .usize, none⟩,
   ⟨"hidden_size", .usize, none⟩,
   ⟨"intermediate_size", .usize, none⟩,
   ⟨"num_hidden_layers", .usize, none⟩,
   ⟨"num_attention_heads", .usize, none⟩,
   ⟨"num_key_value_heads", .optUsize, some .null⟩,
   ⟨"head_dim", .optUsize, some .null⟩,
   ⟨"rms_norm_eps", .f64, some (.num (.float 1e-6))⟩,
   ⟨"rope_theta", .f64, some (.num (.float 10000.0))⟩,
   ⟨"max_position_embeddings", .usize, some (.num (.nat 32768))⟩,
   ⟨"tie_word_embeddings", .bool, some (.bool false)⟩,
   ⟨"hidden_act", .string, some (.str "silu")⟩]

/-- The configuration of decoded field values, in the order of `fieldSpecs`. -/
def ofFields : List Json → Option ModelConfig
  | [mt, vs, hs, is, nl, nh, kv, hd, eps, theta, mpe, tie, act] => do
    let str := fun (j : Json) => j.str?
    let nat := fun (j : Json) => j.nat?
    let opt := fun (j : Json) => match j with
      | .null => some none
      | j => j.nat?.map some
    return { modelType := ← str mt, vocabSize := ← nat vs, hiddenSize := ← nat hs,
             intermediateSize := ← nat is, numHiddenLayers := ← nat nl,
             numAttentionHeads := ← nat nh, numKeyValueHeads := ← opt kv,
             headDim := ← opt hd, rmsNormEps := ← eps.float?, ropeTheta := ← theta.float?,
             maxPositionEmbeddings := ← nat mpe, tieWordEmbeddings := ← tie.bool?,
             hiddenAct := ← str act }
  | _ => none

/-- Decodes a configuration document. -/
def decode (src : ByteArray) : Except Failure ModelConfig :=
  match Json.decodeRecord "ModelConfig" fieldSpecs src with
  | .error e => .error (.json e.message)
  | .ok vs => match ofFields vs with
    | some c => .ok c
    | none => .error (.json "malformed configuration")

/-- Reads a configuration from a JSON value.  Faults are those of reading its text, fields
visited in key order, but without a place, since a value has no text. -/
def ofValue (j : Json) : Except Failure ModelConfig :=
  match Json.decodeRecord "ModelConfig" fieldSpecs (Json.compact j).toUTF8 with
  | .error e => .error (.json e.code.text)
  | .ok vs => match ofFields vs with
    | some c => .ok c
    | none => .error (.json "malformed configuration")

/-- The number of key/value heads. -/
def numKvHeads (c : ModelConfig) : Nat := c.numKeyValueHeads.getD c.numAttentionHeads

/-- The size of one attention head; zero heads give size zero. -/
def headSize (c : ModelConfig) : Nat := c.headDim.getD (c.hiddenSize / c.numAttentionHeads)

/-- Query heads sharing each key/value head. -/
def gqaGroups (c : ModelConfig) : Nat := c.numAttentionHeads / c.numKvHeads

/-- Checks that the configuration describes a model this library can run. -/
def validate (c : ModelConfig) : Except Failure Unit :=
  if c.numAttentionHeads == 0 || c.numHiddenLayers == 0 then
    .error (.invalidConfig "model config must have at least one layer and one attention head")
  else if c.numKvHeads == 0 then .error (.aborted remainderByZero)
  else if c.numAttentionHeads % c.numKvHeads != 0 then
    .error (.invalidConfig (toString c.numAttentionHeads ++ " attention heads cannot be grouped over " ++
      toString c.numKvHeads ++ " key/value heads"))
  else if c.headSize % 2 != 0 then
    .error (.invalidConfig ("rotary embeddings need an even head dim, got " ++ toString c.headSize))
  else if c.hiddenAct != "silu" then
    .error (.invalidConfig ("unsupported activation '" ++ c.hiddenAct ++ "', only silu MLPs are supported"))
  else .ok ()

/-- The configuration as a document, fields in record order. -/
def toJson (c : ModelConfig) : Json :=
  let opt := fun (o : Option Nat) => match o with
    | some n => Json.ofNat n
    | none => Json.null
  .obj [("model_type", .str c.modelType), ("vocab_size", Json.ofNat c.vocabSize),
    ("hidden_size", Json.ofNat c.hiddenSize), ("intermediate_size", Json.ofNat c.intermediateSize),
    ("num_hidden_layers", Json.ofNat c.numHiddenLayers),
    ("num_attention_heads", Json.ofNat c.numAttentionHeads),
    ("num_key_value_heads", opt c.numKeyValueHeads), ("head_dim", opt c.headDim),
    ("rms_norm_eps", Json.ofFloat c.rmsNormEps), ("rope_theta", Json.ofFloat c.ropeTheta),
    ("max_position_embeddings", Json.ofNat c.maxPositionEmbeddings),
    ("tie_word_embeddings", .bool c.tieWordEmbeddings), ("hidden_act", .str c.hiddenAct)]

end ModelConfig

end LowRankTuner
