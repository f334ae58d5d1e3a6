import Mathlib
import LowRankTuner.Proofs.PaddedBatches
/-!
# The layout of a built dataset

Building a dataset renders every record as a three-turn conversation (the system prompt, the
query as the user, the response as the assistant), encodes the text, and cuts and pads the ids
to the maximum length `L`.  This module proves the builder's law.

* An example made from ids holds their first `min |ids| L` ids followed by `L - min |ids| L`
  pad ids; its mask is as many ones followed by zeros; its labels are its ids.  All three have
  length `L`, and the real tokens are the ids kept (`TokenizedExample.laidOut_ofTokenIds`).
* `build` fails exactly when `L` is zero, there are no records, or some record's conversation
  fails to render or to encode.  When it succeeds there is one example per record, in record
  order, laid out from that record's ids; the weights are the records' weights in order, and
  `truncated` counts the records whose ids were longer than `L` (`build_lays_out_records`).
* A tokenizer made from a configuration pads with the declared pad token when its vocabulary
  knows it, and with the end-of-sequence token otherwise (`ChatTokenizer.padTokenId_of_new`).
-/

namespace LowRankTuner

/-! ## Sequences of computations that may fail -/

section MapM

variable {ε α β : Type} {f : α → Except ε β}

/-- A list of computations succeeds exactly when each one does, and gives their results. -/
theorem mapM_eq_ok_iff_forall₂ :
    ∀ {l : List α} {bs : List β}, l.mapM f = .ok bs ↔ List.Forall₂ (fun a b => f a = .ok b) l bs
  | [], bs => by
    cases bs <;> simp [pure, Except.pure]
  | a :: l, bs => by
    rw [List.mapM_cons]
    cases hfa : f a with
    | error e =>
      constructor
      · intro h; cases h
      · intro h
        cases h with
        | cons hab _ => rw [hfa] at hab; cases hab
    | ok b =>
      cases hl : l.mapM f with
      | error e =>
        constructor
        · intro h; cases h
        · intro h
          cases h with
          | cons _ hrest => rw [← mapM_eq_ok_iff_forall₂] at hrest; rw [hl] at hrest; cases hrest
      | ok bs' =>
        have ih : List.Forall₂ (fun a b => f a = .ok b) l bs' := mapM_eq_ok_iff_forall₂.mp hl
        constructor
        · intro h
          cases h
          exact List.Forall₂.cons hfa ih
        · intro h
          cases h with
          | cons hab hrest =>
            rw [hfa] at hab
            cases hab
            rw [← mapM_eq_ok_iff_forall₂, hl] at hrest
            cases hrest
            rfl

/-- A list of computations fails exactly when one of them fails. -/
theorem mapM_fails_iff :
    ∀ {l : List α}, (∃ e, l.mapM f = .error e) ↔ ∃ a ∈ l, ∃ e, f a = .error e
  | [] => by simp [pure, Except.pure]
  | a :: l => by
    rw [List.mapM_cons]
    cases hfa : f a with
    | error e => exact ⟨fun _ => ⟨a, List.mem_cons_self, e, hfa⟩, fun _ => ⟨e, rfl⟩⟩
    | ok b =>
      have ih := mapM_fails_iff (l := l)
      cases hl : l.mapM f with
      | error e =>
        exact ⟨fun _ => by
          obtain ⟨a', ha', e', he'⟩ := ih.mp ⟨e, hl⟩
          exact ⟨a', List.mem_cons_of_mem a ha', e', he'⟩, fun _ => ⟨e, rfl⟩⟩
      | ok bs =>
        constructor
        · rintro ⟨e, he⟩
          cases he
        · rintro ⟨a', ha', e', he'⟩
          rcases List.mem_cons.mp ha' with rfl | ha'
          · rw [hfa] at he'; cases he'
          · obtain ⟨e'', he''⟩ := ih.mpr ⟨a', ha', e', he'⟩
            rw [hl] at he''
            cases he''

end MapM

/-! ## One example -/

namespace TokenizedExample

/-- How an example sits over the ids it was made from: the first `min |ids| L` ids, then pad ids
up to `L`; ones over the ids kept, zeros over the padding; labels equal to the ids. -/
structure LaidOut (e : TokenizedExample) (ids : List Nat) (L pad : Nat) : Prop where
  inputIds : e.inputIds = ids.take L ++ List.replicate (L - min ids.length L) pad
  attentionMask :
    e.attentionMask = List.replicate (min ids.length L) 1 ++ List.replicate (L - min ids.length L) 0
  labels : e.labels = e.inputIds.map Int.ofNat
  length_inputIds : e.inputIds.length = L
  length_attentionMask : e.attentionMask.length = L
  length_labels : e.labels.length = L
  realTokens : e.realTokens = min ids.length L

variable (ids : List Nat) (L pad : Nat)

theorem inputIds_ofTokenIds :
    (ofTokenIds ids L pad).inputIds = ids.take L ++ List.replicate (L - min ids.length L) pad := by
  simp [ofTokenIds, Nat.min_comm]

theorem length_inputIds_ofTokenIds : (ofTokenIds ids L pad).inputIds.length = L := by
  rw [inputIds_ofTokenIds, List.length_append, List.length_take, List.length_replicate]
  omega

/-- An example is laid out over the ids it was made from, whether they were shorter than the
length, as long, or longer. -/
theorem laidOut_ofTokenIds : (ofTokenIds ids L pad).LaidOut ids L pad where
  inputIds := inputIds_ofTokenIds ids L pad
  attentionMask := attentionMask_ofTokenIds ids L pad
  labels := rfl
  length_inputIds := length_inputIds_ofTokenIds ids L pad
  length_attentionMask := length_attentionMask_ofTokenIds ids L pad
  length_labels := by
    show ((ofTokenIds ids L pad).inputIds.map Int.ofNat).length = L
    rw [List.length_map, length_inputIds_ofTokenIds]
  realTokens := realTokens_ofTokenIds ids L pad

end TokenizedExample

/-! ## The builder -/

namespace WeightedDataset

variable {tok : ChatTokenizer} {sp : String} {r : TrainingRecord} {ids : List Nat}

/-- A record's ids are the encoding of its rendered conversation. -/
theorem recordIds_eq_ok_iff :
    recordIds tok sp r = .ok ids ↔
      ∃ text, tok.applyTemplate (conversation sp r) false = .ok text ∧ tok.encode text = .ok ids := by
  unfold recordIds
  cases h : tok.applyTemplate (conversation sp r) false with
  | error e => simp [bind, Except.bind]
  | ok text => simp [bind, Except.bind]

/-- A record's ids fail exactly when its conversation fails to render, or renders to a text
that fails to encode. -/
theorem recordIds_fails_iff :
    (∃ e, recordIds tok sp r = .error e) ↔
      (∃ e, tok.applyTemplate (conversation sp r) false = .error e) ∨
        ∃ text e, tok.applyTemplate (conversation sp r) false = .ok text ∧
          tok.encode text = .error e := by
  unfold recordIds
  cases h : tok.applyTemplate (conversation sp r) false with
  | error e => simp [bind, Except.bind]
  | ok text => simp [bind, Except.bind]

variable {records : List TrainingRecord} {L : Nat}

/-- Past its two checks, `build` encodes every record and lays out the ids. -/
theorem build_of_checks (hL : L ≠ 0) (hr : records ≠ []) :
    build records tok L sp = (records.mapM (recordIds tok sp)).map fun idss =>
      { examples := idss.map (TokenizedExample.ofTokenIds · L tok.padTokenId)
        weights := records.map (·.weight)
        maxLength := L
        truncated := (idss.filter (·.length > L)).length } := by
  have h0 : (L == 0) = false := by simpa using hL
  have h1 : records.isEmpty = false := by simpa using hr
  unfold build
  simp only [h0, h1, Bool.false_eq_true, if_false]
  cases records.mapM (recordIds tok sp) <;> rfl

/-- `build` fails exactly at a zero length, at no records, or at a record that fails. -/
theorem build_fails_iff :
    (∃ e, build records tok L sp = .error e) ↔
      L = 0 ∨ records = [] ∨ ∃ r ∈ records, ∃ e, recordIds tok sp r = .error e := by
  by_cases hL : L = 0
  · subst hL
    exact ⟨fun _ => .inl rfl, fun _ => ⟨_, rfl⟩⟩
  by_cases hr : records = []
  · subst hr
    have h0 : (L == 0) = false := by simpa using hL
    refine ⟨fun _ => .inr (.inl rfl), fun _ => ⟨.invalidConfig "cannot build a dataset from zero records", ?_⟩⟩
    simp only [build, h0]
    rfl
  rw [build_of_checks hL hr]
  simp only [hL, hr, false_or]
  rw [← mapM_fails_iff]
  cases records.mapM (recordIds tok sp) <;> simp [Except.map]

/-- A successful build has one example per record, in order, laid out from its ids. -/
theorem build_eq_ok {d : WeightedDataset} (h : build records tok L sp = .ok d) :
    ∃ idss : List (List Nat), records.mapM (recordIds tok sp) = .ok idss ∧
      d.examples = idss.map (TokenizedExample.ofTokenIds · L tok.padTokenId) ∧
      d.weights = records.map (·.weight) ∧ d.maxLength = L ∧
      d.truncated = idss.countP (L < ·.length) := by
  have hL : L ≠ 0 := fun hL => by
    obtain ⟨e, he⟩ := build_fails_iff.mpr (Or.inl hL)
    rw [h] at he; cases he
  have hr : records ≠ [] := fun hr => by
    obtain ⟨e, he⟩ := build_fails_iff.mpr (Or.inr (Or.inl hr))
    rw [h] at he; cases he
  rw [build_of_checks hL hr] at h
  cases hm : records.mapM (recordIds tok sp) with
  | error e => rw [hm] at h; cases h
  | ok idss =>
    rw [hm] at h
    cases h
    exact ⟨idss, rfl, rfl, rfl, rfl, by rw [List.countP_eq_length_filter]⟩

end WeightedDataset

/-! ## The padding id -/

namespace ChatTokenizer

/-- A tokenizer made from a configuration pads with the declared pad token when the vocabulary
knows it, and with the end-of-sequence token when it does not. -/
theorem padTokenId_of_new {t : TokenEncoder} {c : TemplateConfig} {modelType : String}
    {ct : ChatTokenizer} (h : ChatTokenizer.new t c modelType = .ok ct) :
    c.padToken.bind t.idOf? = some ct.padTokenId ∨
      (c.padToken.bind t.idOf? = none ∧ c.eosToken.bind t.idOf? = some ct.padTokenId) := by
  unfold ChatTokenizer.new resolvePadToken at h
  -- the padding id is settled before the template is compiled
  cases hp : c.padToken.bind t.idOf? with
  | some id =>
    rw [hp] at h
    cases he : ChatEngine.new c modelType with
    | error e => rw [he] at h; cases h
    | ok engine => rw [he] at h; cases h; exact .inl rfl
  | none =>
    rw [hp] at h
    cases hq : c.eosToken.bind t.idOf? with
    | none => rw [hq] at h; cases h
    | some id =>
      rw [hq] at h
      cases he : ChatEngine.new c modelType with
      | error e => rw [he] at h; cases h
      | ok engine => rw [he] at h; cases h; exact .inr ⟨rfl, rfl⟩

end ChatTokenizer

/-- **A built dataset.**  A tokenizer made from a configuration pads with the declared pad token
when its vocabulary knows it, else with the end-of-sequence token.  For any records, tokenizer,
length `L` and system prompt, `build` fails exactly when `L = 0`, there are no records, or some
record's conversation fails to render or to encode.  When it succeeds, each record has its ids,
the encoding of its rendered conversation, and the examples are, in record order, those ids
laid out to length `L`; the weights are the records' weights, and `truncated` counts the records
whose ids were longer than `L`. -/
theorem build_lays_out_records (records : List TrainingRecord) (tok : ChatTokenizer) (L : Nat)
    (sp : String) :
    (∀ (t : TokenEncoder) (c : TemplateConfig) (modelType : String) (ct : ChatTokenizer),
      ChatTokenizer.new t c modelType = .ok ct →
        c.padToken.bind t.idOf? = some ct.padTokenId ∨
          (c.padToken.bind t.idOf? = none ∧ c.eosToken.bind t.idOf? = some ct.padTokenId)) ∧
    ((∃ e, WeightedDataset.build records tok L sp = .error e) ↔
      L = 0 ∨ records = [] ∨ ∃ r ∈ records,
        (∃ e, tok.applyTemplate [⟨"system", sp⟩, ⟨"user", r.query⟩, ⟨"assistant", r.response⟩]
          false = .error e) ∨
        ∃ text e, tok.applyTemplate [⟨"system", sp⟩, ⟨"user", r.query⟩, ⟨"assistant", r.response⟩]
          false = .ok text ∧ tok.encode text = .error e) ∧
    ∀ d, WeightedDataset.build records tok L sp = .ok d →
      ∃ idss : List (List Nat),
        List.Forall₂ (fun r ids => ∃ text,
          tok.applyTemplate [⟨"system", sp⟩, ⟨"user", r.query⟩, ⟨"assistant", r.response⟩] false =
            .ok text ∧ tok.encode text = .ok ids) records idss ∧
        List.Forall₂ (fun ids e => e = TokenizedExample.ofTokenIds ids L tok.padTokenId ∧
          e.LaidOut ids L tok.padTokenId) idss d.examples ∧
        d.weights = records.map (·.weight) ∧ d.maxLength = L ∧
        d.truncated = idss.countP (L < ·.length) := by
  refine ⟨fun t c mt ct h => ChatTokenizer.padTokenId_of_new h, ?_, ?_⟩
  · rw [WeightedDataset.build_fails_iff]
    simp only [WeightedDataset.recordIds_fails_iff, WeightedDataset.conversation]
  · intro d hd
    obtain ⟨idss, hm, hex, hw, hL, ht⟩ := WeightedDataset.build_eq_ok hd
    refine ⟨idss, ?_, ?_, hw, hL, ht⟩
    · exact (mapM_eq_ok_iff_forall₂.mp hm).imp fun r ids h => WeightedDataset.recordIds_eq_ok_iff.mp h
    · rw [hex, List.forall₂_map_right_iff]
      exact List.forall₂_same.mpr fun ids _ => ⟨rfl, TokenizedExample.laidOut_ofTokenIds ids L _⟩

end LowRankTuner
