/-
  LowRankTuner/Proofs/FallbackTemplates.lean
  ==========================================
  The fallback chat templates.  A tokenizer configuration without a chat template gets the
  template of its model family, named case-insensitively: Llama (`llama`, `llama2`,
  `llama3`), Mistral (`mistral`, `mixtral`), Gemma (`gemma`, `gemma2`), and ChatML for every
  other model type.

  Each fallback is a turn template (`LowRankTuner.Proofs.TurnTemplates`): the kernel checks
  by evaluation that its source compiles to the layout given here, and the rewrite of the
  string methods `.startswith(` and `.endswith(` leaves the sources alone, since they use
  neither.

  Main statement (`fallback_renders_turns`): an engine built from a configuration without a
  template renders every conversation as its family writes it.  ChatML writes each message
  as `<|im_start|>role\ncontent<|im_end|>\n`; Llama writes a system message's content, and
  `### Human: ` or `### Assistant: ` before a user's or an assistant's, each followed by a
  blank line; Mistral writes `[INST] content [/INST]` for a user and `content</s>` for an
  assistant; Gemma writes `<start_of_turn>user` or `<start_of_turn>model` turns.  Messages of
  other roles are dropped (ChatML has none), and the generation prompt follows the
  messages when the flag is set, except for Mistral, which has none.
-/
import LowRankTuner.Proofs.TurnTemplates
import Mathlib.Tactic.SplitIfs

namespace LowRankTuner

open Template

/-! ## 1. The families and what they write -/

/-- The model families that have a fallback template of their own, ChatML serving the
rest. -/
inductive PromptFamily where
  | chatML
  | llama
  | mistral
  | gemma
  deriving DecidableEq, Repr

/-- The family a model type names, compared without case. -/
def PromptFamily.ofModelType (modelType : String) : PromptFamily :=
  match asciiLower modelType with
  | "llama" | "llama2" | "llama3" => .llama
  | "mistral" | "mixtral" => .mistral
  | "gemma" | "gemma2" => .gemma
  | _ => .chatML

/-- The text a family writes for one message. -/
def PromptFamily.turn : PromptFamily → ChatMessage → String
  | .chatML, m => "<|im_start|>" ++ m.role ++ "\n" ++ m.content ++ "<|im_end|>\n"
  | .llama, m =>
    if m.role = "system" then m.content ++ "\n\n"
    else if m.role = "user" then "### Human: " ++ m.content ++ "\n\n"
    else if m.role = "assistant" then "### Assistant: " ++ m.content ++ "\n\n"
    else ""
  | .mistral, m =>
    if m.role = "user" then "[INST] " ++ m.content ++ " [/INST]"
    else if m.role = "assistant" then m.content ++ "</s>"
    else ""
  | .gemma, m =>
    if m.role = "user" then "<start_of_turn>user\n" ++ m.content ++ "<end_of_turn>\n"
    else if m.role = "assistant" then "<start_of_turn>model\n" ++ m.content ++ "<end_of_turn>\n"
    else ""

/-- The text a family adds after the messages when a generation prompt is asked for. -/
def PromptFamily.generationPrompt : PromptFamily → String
  | .chatML => "<|im_start|>assistant\n"
  | .llama => "### Assistant: "
  | .mistral => ""
  | .gemma => "<start_of_turn>model\n"

/-- The text a family writes for a conversation. -/
def PromptFamily.prompt (f : PromptFamily) (messages : List ChatMessage) (addPrompt : Bool) :
    String :=
  String.join (messages.map f.turn) ++ if addPrompt then f.generationPrompt else ""

/-! ## 2. The fallback templates are turn templates -/

/-- The fallback template of a family. -/
def PromptFamily.template : PromptFamily → String
  | .chatML => chatMLTemplate
  | .llama => llamaTemplate
  | .mistral => mistralTemplate
  | .gemma => gemmaTemplate

theorem fallbackTemplate_eq (modelType : String) :
    fallbackTemplate modelType = (PromptFamily.ofModelType modelType).template := by
  unfold fallbackTemplate PromptFamily.ofModelType
  -- both test the same names in the same order
  generalize asciiLower modelType = name
  split <;> simp_all [PromptFamily.template]

/-- The layout of a family's template, lines included. -/
def PromptFamily.layout : PromptFamily → TurnLayout
  | .chatML => ⟨1, .always [.text "<|im_start|>", .field "role" 1, .text "\n",
      .field "content" 2, .text "<|im_end|>\n"], some ("<|im_start|>assistant\n", 3)⟩
  | .llama => ⟨1, .byRole [
      ⟨"system", 1, [.field "content" 1, .text "\n\n"]⟩,
      ⟨"user", 3, [.text "### Human: ", .field "content" 3, .text "\n\n"]⟩,
      ⟨"assistant", 5, [.text "### Assistant: ", .field "content" 5, .text "\n\n"]⟩],
      some ("### Assistant: ", 7)⟩
  | .mistral => ⟨1, .byRole [
      ⟨"user", 1, [.text "[INST] ", .field "content" 1, .text " [/INST]"]⟩,
      ⟨"assistant", 1, [.field "content" 1, .text "</s>"]⟩], none⟩
  | .gemma => ⟨1, .byRole [
      ⟨"user", 1, [.text "<start_of_turn>user\n", .field "content" 2, .text "<end_of_turn>\n"]⟩,
      ⟨"assistant", 3,
        [.text "<start_of_turn>model\n", .field "content" 4, .text "<end_of_turn>\n"]⟩],
      some ("<start_of_turn>model\n", 5)⟩

/-- Each family's template compiles to its layout and holds neither string method that the
engine rewrites.  The kernel runs the parser, the recogniser and the search on one reading of
the template's characters, which is most of the cost. -/
theorem PromptFamily.template_checks (f : PromptFamily) :
    ((parseTemplate f.template).toOption.bind fun p => TurnLayout.ofStmts? p.stmts) =
        some f.layout ∧
      Text.occursIn ".startswith(".toList f.template.toList = false ∧
      Text.occursIn ".endswith(".toList f.template.toList = false := by
  cases f <;> decide +kernel

theorem parseTemplate_template (f : PromptFamily) :
    parseTemplate f.template = .ok ⟨f.layout.stmts⟩ :=
  parseTemplate_of_ofStmts? (PromptFamily.template_checks f).1

theorem layout_fuel (f : PromptFamily) : f.layout.body.fuel + 4 ≤ 1000000 := by
  cases f <;> decide

/-- Each layout writes a message as its family does. -/
theorem layout_turn (f : PromptFamily) (m : ChatMessage) : f.layout.turn m = f.turn m := by
  cases f with
  | chatML =>
    simp [PromptFamily.layout, PromptFamily.turn, TurnLayout.turn, TurnBody.pieces, TurnPiece.write,
      ChatMessage.fieldText, String.append_assoc]
  | llama | mistral | gemma =>
    simp only [PromptFamily.layout, PromptFamily.turn, TurnLayout.turn, TurnBody.pieces,
      Branch.pick]
    split_ifs <;> simp [TurnPiece.write, ChatMessage.fieldText, String.append_assoc]

theorem layout_text (f : PromptFamily) (ms : List ChatMessage) (flag : Bool) :
    f.layout.text ms flag = f.prompt ms flag := by
  have hturn : f.layout.turn = f.turn := funext (layout_turn f)
  simp only [TurnLayout.text, PromptFamily.prompt, hturn]
  cases f <;> cases flag <;> rfl

/-! ## 3. The rewrite of string methods -/

theorem Text.breakOn_eq_none {pat : List Char} :
    ∀ {cs : List Char}, Text.occursIn pat cs = false → Text.breakOn pat cs = none
  | [], _ => rfl
  | c :: rest, h => by
    simp only [Text.occursIn, Bool.or_eq_false_iff] at h
    simp [Text.breakOn, h.1, Text.breakOn_eq_none h.2]

/-- Replacing a non-empty pattern that does not occur leaves the text as it is. -/
theorem Text.replaceText_of_not_occursIn {s pat rep : String} (hp : pat.toList ≠ [])
    (h : Text.occursIn pat.toList s.toList = false) : Text.replaceText s pat rep = s := by
  simp [Text.replaceText, hp, Text.splitText, Text.splitPieces, Text.piecesUpTo,
    Text.breakOn_eq_none h]

/-- The fallback templates use no string method, so the engine compiles them as written. -/
theorem source_of_no_template {c : TemplateConfig} (hc : c.chatTemplate = none)
    (modelType : String) : ChatEngine.source c modelType = fallbackTemplate modelType := by
  obtain ⟨-, hs, he⟩ := PromptFamily.template_checks (PromptFamily.ofModelType modelType)
  rw [ChatEngine.source, hc, Option.getD_none, fallbackTemplate_eq,
    Text.replaceText_of_not_occursIn (by decide) hs, Text.replaceText_of_not_occursIn (by decide) he]

/-! ## 4. Engines without a template -/

/-- Without a chat template the engine compiles its family's layout. -/
theorem new_of_no_template {c : TemplateConfig} (hc : c.chatTemplate = none) (modelType : String) :
    ChatEngine.new c modelType =
      .ok ⟨c, ⟨(PromptFamily.ofModelType modelType).layout.stmts⟩, true⟩ := by
  unfold ChatEngine.new
  rw [source_of_no_template hc, fallbackTemplate_eq, parseTemplate_template]
  simp only [hc, Option.isNone_none]

/-- An engine built from a configuration without a chat template renders every
conversation as the family of its model type writes it. -/
theorem fallback_renders_turns (c : TemplateConfig) (hc : c.chatTemplate = none)
    (modelType : String) :
    ∃ e, ChatEngine.new c modelType = .ok e ∧ ∀ ms flag,
      e.apply ms flag = .ok ((PromptFamily.ofModelType modelType).prompt ms flag) := by
  refine ⟨_, new_of_no_template hc modelType, fun ms flag => ?_⟩
  rw [ChatEngine.apply_of_layout rfl (layout_fuel _), layout_text]

/-- A configuration without a template and a model type in capitals: the Llama layout writes
the system message, the user's and the assistant's turns, drops the tool's, and asks for the
assistant's answer. -/
theorem llama_fallback_renders_conversation :
    ({} : TemplateConfig).chatTemplate = none ∧
      ∃ e, ChatEngine.new {} "LLaMA2" = .ok e ∧
        e.apply [⟨"system", "Be brief."⟩, ⟨"user", "Hi"⟩, ⟨"tool", "42"⟩,
          ⟨"assistant", "Hello"⟩] true =
          .ok "Be brief.\n\n### Human: Hi\n\n### Assistant: Hello\n\n### Assistant: " := by
  obtain ⟨e, hnew, happly⟩ := fallback_renders_turns {} rfl "LLaMA2"
  refine ⟨rfl, e, hnew, ?_⟩
  rw [happly]
  exact congrArg Except.ok (by decide +kernel)

end LowRankTuner
