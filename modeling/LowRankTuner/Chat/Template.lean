/-
  LowRankTuner/Chat/Template.lean
  ===============================
  Chat templates: turning a conversation into the prompt text a model was trained on.

  A tokenizer configuration may carry a chat template, either as one string or as a list
  of named templates (the one named `default`, else the first, is used), and the special
  tokens the template refers to, each a string or an object with a `content` string.
  When it carries none, the engine falls back on a template chosen by the model family
  (`fallbackTemplate`): a Llama, Mistral or Gemma layout, and ChatML for everything else.

  Before compiling, the engine rewrites the string methods `.startswith(` and `.endswith(`
  into the tests ` is startswith(` and ` is endswith(`, which the template language has.
  Rendering sees the messages, the four special tokens (empty when absent), the extra
  special tokens and the flag that asks for a generation prompt.
-/
import LowRankTuner.Template.Render
import LowRankTuner.Text.Search
import LowRankTuner.Failure

namespace LowRankTuner

open Template

/-- One turn of a conversation. -/
structure ChatMessage where
  role : String
  content : String
  deriving DecidableEq, Repr

/-- The chat template and special tokens of a tokenizer configuration. -/
structure TemplateConfig where
  chatTemplate : Option String := none
  bosToken : Option String := none
  eosToken : Option String := none
  padToken : Option String := none
  unkToken : Option String := none
  additionalSpecialTokens : List String := []
  deriving DecidableEq, Repr

namespace TemplateConfig

/-- A token given as a string or as an object with a `content` string. -/
def tokenOf : Json → Option String
  | .str s => some s
  | .obj fs => match (Json.obj fs).field? "content" with
    | some (.str s) => some s
    | _ => none
  | _ => none

/-- The template of a list of named templates: the one named `default`, else the first. -/
def namedTemplate (entries : List Json) : Option String :=
  let chosen := match entries.find? (fun e => (e.field? "name").bind Json.str? == some "default") with
    | some e => some e
    | none => entries.head?
  (chosen.bind (·.field? "template")).bind Json.str?

/-- The configuration read from a tokenizer configuration document. -/
def ofTokenizerConfig (j : Json) : TemplateConfig :=
  let token := fun (k : String) => (j.field? k).bind tokenOf
  { chatTemplate := match j.field? "chat_template" with
      | some (.str s) => some s
      | some (.arr es) => namedTemplate es
      | _ => none
    bosToken := token "bos_token"
    eosToken := token "eos_token"
    padToken := token "pad_token"
    unkToken := token "unk_token"
    additionalSpecialTokens := match j.field? "additional_special_tokens" with
      | some (.arr xs) => xs.filterMap tokenOf
      | _ => [] }

end TemplateConfig

/-! ## Fallback templates -/

/-- The template for Llama models. -/
def llamaTemplate : String :=
  "\x7b% for message in messages %\x7d\x7b% if message['role'] == 'system' %\x7d\x7b\x7b message['content'] \x7d\x7d\n\n" ++
  "\x7b% elif message['role'] == 'user' %\x7d### Human: \x7b\x7b message['content'] \x7d\x7d\n\n" ++
  "\x7b% elif message['role'] == 'assistant' %\x7d### Assistant: \x7b\x7b message['content'] \x7d\x7d\n\n" ++
  "\x7b% endif %\x7d\x7b% endfor %\x7d\x7b% if add_generation_prompt %\x7d### Assistant: \x7b% endif %\x7d"

/-- The template for Mistral models. -/
def mistralTemplate : String :=
  "\x7b% for message in messages %\x7d\x7b% if message['role'] == 'user' %\x7d[INST] \x7b\x7b message['content'] \x7d\x7d [/INST]" ++
  "\x7b% elif message['role'] == 'assistant' %\x7d\x7b\x7b message['content'] \x7d\x7d</s>\x7b% endif %\x7d\x7b% endfor %\x7d"

/-- The template for Gemma models. -/
def gemmaTemplate : String :=
  "\x7b% for message in messages %\x7d\x7b% if message['role'] == 'user' %\x7d<start_of_turn>user\n" ++
  "\x7b\x7b message['content'] \x7d\x7d<end_of_turn>\n" ++
  "\x7b% elif message['role'] == 'assistant' %\x7d<start_of_turn>model\n" ++
  "\x7b\x7b message['content'] \x7d\x7d<end_of_turn>\n" ++
  "\x7b% endif %\x7d\x7b% endfor %\x7d\x7b% if add_generation_prompt %\x7d<start_of_turn>model\n\x7b% endif %\x7d"

/-- The ChatML template. -/
def chatMLTemplate : String :=
  "\x7b% for message in messages %\x7d<|im_start|>\x7b\x7b message['role'] \x7d\x7d\n" ++
  "\x7b\x7b message['content'] \x7d\x7d<|im_end|>\n" ++
  "\x7b% endfor %\x7d\x7b% if add_generation_prompt %\x7d<|im_start|>assistant\n\x7b% endif %\x7d"

/-- The lower case of ASCII letters; other characters have no ASCII lower case that could
make a family name. -/
def asciiLower (s : String) : String := String.ofList (s.toList.map Char.toLower)

/-- The fallback template of a model family. -/
def fallbackTemplate (modelType : String) : String :=
  match asciiLower modelType with
  | "llama" | "llama2" | "llama3" => llamaTemplate
  | "mistral" | "mixtral" => mistralTemplate
  | "gemma" | "gemma2" => gemmaTemplate
  | _ => chatMLTemplate

/-! ## The engine -/

/-- The name under which the chat template is compiled, as its errors show it. -/
def chatTemplateName : String := "chat"

/-- A compiled chat template with its configuration. -/
structure ChatEngine where
  config : TemplateConfig
  program : Program
  /-- The configuration had no template, so the family's fallback is used. -/
  usedFallback : Bool

/-- A template failure as a trainer failure; a fault ends the program with its detail. -/
def templateFailure (e : Template.Error) : Failure :=
  match e.kind, e.detail with
  | .aborted, some d => .aborted d
  | _, _ => .template (e.render chatTemplateName)

/-- The source the engine compiles: the configured template or the fallback, with the two
string methods rewritten as tests. -/
def ChatEngine.source (config : TemplateConfig) (modelType : String) : String :=
  let src := config.chatTemplate.getD (fallbackTemplate modelType)
  Text.replaceText (Text.replaceText src ".startswith(" " is startswith(") ".endswith("
    " is endswith("

/-- Compiles the chat template of a configuration. -/
def ChatEngine.new (config : TemplateConfig) (modelType : String) : Except Failure ChatEngine :=
  match parseTemplate (ChatEngine.source config modelType) with
  | .ok prog => .ok ⟨config, prog, config.chatTemplate.isNone⟩
  | .error e => .error (templateFailure e)

/-- A message as a template value: a map of `role` then `content`. -/
def ChatMessage.toValue (m : ChatMessage) : Value :=
  .map [(.str "role", .str m.role), (.str "content", .str m.content)]

/-- What a template sees when it renders a conversation: the messages, the four special
tokens (empty when absent), the extra special tokens and the flag. -/
def chatContext (c : TemplateConfig) (messages : List ChatMessage) (addGenerationPrompt : Bool) :
    List (Value × Value) :=
  [(.str "messages", .seq (messages.map ChatMessage.toValue)),
   (.str "bos_token", .str (c.bosToken.getD "")),
   (.str "eos_token", .str (c.eosToken.getD "")),
   (.str "pad_token", .str (c.padToken.getD "")),
   (.str "unk_token", .str (c.unkToken.getD "")),
   (.str "additional_special_tokens", .seq (c.additionalSpecialTokens.map Value.str)),
   (.str "add_generation_prompt", .bool addGenerationPrompt)]

/-- Renders a conversation. -/
def ChatEngine.apply (e : ChatEngine) (messages : List ChatMessage) (addGenerationPrompt : Bool) :
    Except Failure String :=
  match e.program.render (chatContext e.config messages addGenerationPrompt) with
  | .ok s => .ok s
  | .error err => .error (templateFailure err)

end LowRankTuner
