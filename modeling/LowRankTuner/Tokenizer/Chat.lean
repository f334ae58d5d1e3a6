/-
  LowRankTuner/Tokenizer/Chat.lean
  ================================
  A tokenizer together with the chat template of its model: it renders conversations and
  encodes the rendered text, and it knows the id that pads sequences.

  The pipeline asks three things of a tokenizer, whatever its model: the ids of a text (special
  tokens included), the id of a single token, and the number of distinct tokens.  A
  `TokenEncoder` is those three; the word-level tokenizers of this library are one kind.

  The padding id is the id of the declared pad token; a causal language model often
  declares none, so the id of the end-of-sequence token stands in for it.  A configuration
  whose tokens are both missing from the tokenizer cannot pad, and is refused before the
  template is compiled.
-/
import LowRankTuner.Tokenizer.Vocabulary
import LowRankTuner.Chat.Template

namespace LowRankTuner

/-- What the pipeline uses of a tokenizer. -/
structure TokenEncoder where
  /-- The ids of a text, or the tokenizer's message when it cannot encode it. -/
  encode : String → Except String (List Nat)
  /-- The id of a single token. -/
  idOf? : String → Option Nat
  /-- The number of distinct tokens, special tokens included. -/
  vocabSize : Nat

/-- A word-level tokenizer as an encoder. -/
def Tokenizer.toEncoder (t : Tokenizer) : TokenEncoder := ⟨t.encode, t.idOf?, t.vocabSize⟩

/-- Where the padding id comes from. -/
inductive PadSource where
  /-- The declared pad token. -/
  | declared
  /-- The end-of-sequence token, for want of a pad token. -/
  | endOfSequence
  deriving DecidableEq, Repr

/-- The message of a tokenizer that cannot pad. -/
def noPadTokenText : String := "tokenizer declares neither a pad token nor an eos token"

/-- The padding id of a tokenizer under a template configuration, with where it comes from. -/
def resolvePadToken (t : TokenEncoder) (c : TemplateConfig) : Except Failure (Nat × PadSource) :=
  match c.padToken.bind t.idOf? with
  | some id => .ok (id, .declared)
  | none => match c.eosToken.bind t.idOf? with
    | some id => .ok (id, .endOfSequence)
    | none => .error (.tokenizer noPadTokenText)

/-- A tokenizer with its chat template and padding id. -/
structure ChatTokenizer where
  tokenizer : TokenEncoder
  engine : ChatEngine
  padTokenId : Nat
  padSource : PadSource

namespace ChatTokenizer

/-- Resolves the padding id, then compiles the chat template. -/
def new (t : TokenEncoder) (c : TemplateConfig) (modelType : String) :
    Except Failure ChatTokenizer := do
  let (pad, src) ← resolvePadToken t c
  let engine ← ChatEngine.new c modelType
  return ⟨t, engine, pad, src⟩

/-- Renders a conversation through the chat template. -/
def applyTemplate (ct : ChatTokenizer) (messages : List ChatMessage) (addGenerationPrompt : Bool) :
    Except Failure String :=
  ct.engine.apply messages addGenerationPrompt

/-- The token ids of a text. -/
def encode (ct : ChatTokenizer) (text : String) : Except Failure (List Nat) :=
  match ct.tokenizer.encode text with
  | .ok ids => .ok ids
  | .error e => .error (.tokenizer e)

/-- The number of distinct tokens. -/
def vocabSize (ct : ChatTokenizer) : Nat := ct.tokenizer.vocabSize

end ChatTokenizer

end LowRankTuner
