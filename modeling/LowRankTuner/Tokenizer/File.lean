/-
  LowRankTuner/Tokenizer/File.lean
  ================================
  Tokenizers saved as documents, and read back.

  A saved tokenizer is a JSON object: the format version, the special tokens by ascending
  id, the pre-tokenizer (`Whitespace`, or null when plain text is not split), and the
  word-level model with its vocabulary by ascending id and its unknown token.  Reading a
  document builds the model first, then adds the special tokens in the order listed, so
  that each takes the id it was saved with.

  A document without a model is refused, the fault placed just past the closing brace of
  the top-level object, where a JSON reader notices it.

  A model directory holds its tokenizer as `tokenizer.json`, and may hold the settings of
  its chat template as `tokenizer_config.json`; without that file the defaults apply, and
  that is reported.  So are padding with the end-of-sequence token and a template taken
  from the model type.  Reading a model directory takes the reader of saved tokenizers as a
  parameter: the word-level reader here is one, and a tokenizer library with other models
  is another.
-/
import LowRankTuner.Tokenizer.Chat
import LowRankTuner.Json.Read
import LowRankTuner.Json.Write
import LowRankTuner.Disk.Basic
import LowRankTuner.Log.Event

namespace LowRankTuner

namespace Tokenizer

/-- The entry of a special token in a saved tokenizer. -/
def addedTokenJson (id : Nat) (s : String) : Json :=
  .obj [("id", Json.ofNat id), ("content", .str s), ("single_word", .bool false),
    ("lstrip", .bool false), ("rstrip", .bool false), ("normalized", .bool false),
    ("special", .bool true)]

/-- The document a tokenizer is saved as. -/
def toJson (t : Tokenizer) : Json :=
  let added := (t.holders.mergeSort fun a b => a.1 ≤ b.1).map fun (id, s) => addedTokenJson id s
  let vocab := (t.model.vocab.mergeSort fun a b => a.2 ≤ b.2).map fun (w, id) => (w, Json.ofNat id)
  .obj [("version", .str "1.0"), ("truncation", .null), ("padding", .null),
    ("added_tokens", .arr added), ("normalizer", .null),
    ("pre_tokenizer", if t.splitsWords then .obj [("type", .str "Whitespace")] else .null),
    ("post_processor", .null), ("decoder", .null),
    ("model", .obj [("type", .str "WordLevel"), ("vocab", .obj vocab),
      ("unk_token", .str t.model.unkToken)])]

/-- The word-level model of a saved tokenizer. -/
def modelOfJson (j : Json) : Except String WordLevel :=
  match j with
  | .obj fs =>
    if (fs.lookup "type").bind Json.str? != some "WordLevel" then
      .error "only word-level models are read"
    else
      let vocab : List (String × Nat) := match fs.lookup "vocab" with
        | some (.obj ws) => ws.filterMap fun (w, v) => (Json.nat? v).map fun n => (w, n)
        | _ => []
      let unk := ((fs.lookup "unk_token").bind Json.str?).getD defaultUnknownToken
      .ok { vocab := vocab.foldl (fun v (w, id) => WordLevel.assign v w id) [], unkToken := unk }
  | _ => .error "only word-level models are read"

/-- The special tokens of a saved tokenizer, in the order listed. -/
def addedOfJson (j : Option Json) : List String :=
  match j with
  | some (.arr xs) => xs.filterMap fun x => (x.field? "content").bind Json.str?
  | _ => []

/-- The tokenizer a document describes. -/
def ofJson (j : Json) : Except String Tokenizer :=
  match j with
  | .obj fs =>
    match fs.lookup "model" with
    | none => .error "Model missing."
    | some m => do
      let model ← modelOfJson m
      let splitsWords := match fs.lookup "pre_tokenizer" with
        | some (.obj p) => (p.lookup "type").bind Json.str? == some "Whitespace"
        | _ => false
      pure (({ model, splitsWords } : Tokenizer).addSpecials (addedOfJson (fs.lookup "added_tokens")))
  | _ => .error "invalid type: expected struct Tokenizer"

/-- The byte offset just past a document's last value: its length without trailing
blanks. -/
def documentEnd (src : ByteArray) : Nat :=
  let blank := fun (b : UInt8) => b == 32 || b == 9 || b == 10 || b == 13
  src.size - (src.toList.reverse.takeWhile blank).length

/-- The tokenizer that a saved document's text describes, or what is wrong with it, placed
as a JSON reader places it. -/
def ofText (text : String) : Except String Tokenizer :=
  match Json.parse text with
  | .error e => .error e.message
  | .ok j =>
    match ofJson j with
    | .ok t => .ok t
    | .error msg =>
      let src := text.toUTF8
      let (l, c) := Json.placeOf src (documentEnd src)
      .error (msg ++ " at line " ++ toString l ++ " column " ++ toString c)

/-- The text of a saved tokenizer. -/
def toText (t : Tokenizer) : String := Json.compact t.toJson

/-- The encoder that a saved word-level tokenizer's text describes. -/
def readEncoder (text : String) : Except String TokenEncoder :=
  (ofText text).map toEncoder

end Tokenizer

/-- The chat tokenizer of a model directory: its saved tokenizer, as `read` makes an encoder
of the text, with the template settings of its tokenizer configuration when that file
exists. -/
def ChatTokenizer.fromModelDir (d : Disk) (read : String → Except String TokenEncoder)
    (dir modelType : String) : ReportM ChatTokenizer := do
  let path := Disk.join dir "tokenizer.json"
  let text ← ReportM.lift ((d.readText path).mapError Failure.tokenizer)
  let t ← ReportM.lift ((read text).mapError Failure.tokenizer)
  let configPath := Disk.join dir "tokenizer_config.json"
  let config ← if d.exists? configPath then do
      let text ← ReportM.lift ((d.readText configPath).mapError Failure.io)
      match Json.parse text with
      | .ok j => pure (TemplateConfig.ofTokenizerConfig j)
      | .error e => throw (Failure.json e.message)
    else do
      ReportM.note .warn LogTarget.tokenizer ("No tokenizer_config.json in " ++ dir)
      pure {}
  ReportM.note .debug LogTarget.tokenizer
    ("Loaded tokenizer with " ++ toString t.vocabSize ++ " tokens from " ++ path)
  let (pad, source) ← ReportM.lift (resolvePadToken t config)
  if source == .endOfSequence then
    ReportM.note .warn LogTarget.tokenizer
      ("Tokenizer has no pad token, padding with eos token id " ++ toString pad)
  if config.chatTemplate.isNone then
    ReportM.note .warn LogTarget.template
      ("Tokenizer has no chat template, using " ++ modelType ++ " fallback")
  let engine ← ReportM.lift (ChatEngine.new config modelType)
  pure ⟨t, engine, pad, source⟩

end LowRankTuner
