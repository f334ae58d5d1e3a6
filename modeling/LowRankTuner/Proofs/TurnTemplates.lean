/-
  LowRankTuner/Proofs/TurnTemplates.lean
  ======================================
  Turn templates: chat templates that loop over the messages, write each message by its
  role, and close with the generation prompt when one is asked for.

  A `TurnLayout` describes such a template: the pieces a message is written with (fixed
  text, or a field of the message), the same for every role or chosen by a chain of role
  tests (`if message['role'] == 'user' … elif …`), and the prompt text.  `TurnLayout.stmts`
  is the program such a template compiles to, and `TurnLayout.ofStmts?` recognises one,
  so that the kernel can check by evaluation that a source compiles to a layout
  (`TurnLayout.eq_stmts_of_ofStmts?`).

  Main statement (`apply_turnLayout`): an engine whose program is a layout's renders every
  conversation as the texts of its messages in order, each written by the pieces of its
  role, then the prompt when the flag is set.
-/
import LowRankTuner.Chat.Template

namespace LowRankTuner

open Template

/-! ## 1. Layouts and their programs -/

/-- A part of a message's text: fixed text, or the field of the message under a key,
written on a line of the template. -/
inductive TurnPiece where
  | text (s : String)
  | field (key : String) (line : Nat)
  deriving DecidableEq

/-- One test of a role chain: the role it compares with, its line, and its pieces. -/
structure Branch where
  role : String
  line : Nat
  pieces : List TurnPiece
  deriving DecidableEq

/-- How a message is written: by the same pieces whatever its role, or by the first branch
of a chain whose role it has, and by nothing when no branch has. -/
inductive TurnBody where
  | always (pieces : List TurnPiece)
  | byRole (branches : List Branch)
  deriving DecidableEq

/-- A turn template: the line of its loop over the messages, how each message is written,
and the prompt text it adds, with its line, when the flag asks for one. -/
structure TurnLayout where
  line : Nat
  body : TurnBody
  prompt : Option (String × Nat)
  deriving DecidableEq

/-- The field of the current message under a key. -/
def messageField (key : String) (line : Nat) : Expr :=
  .getItem (.var "message" line) (.const (.str key) line) line

/-- The test that the current message has a role. -/
def roleTest (role : String) (line : Nat) : Expr :=
  .binary .eq (messageField "role" line) (.const (.str role) line) line

/-- The statement that writes a piece. -/
def TurnPiece.stmt : TurnPiece → Stmt
  | .text s => .raw s
  | .field key line => .emit (messageField key line) line

/-- The statements of a role chain: each test with its pieces, and the rest of the chain
when it fails. -/
def Branch.chain : List Branch → List Stmt
  | [] => []
  | b :: bs => [.ifThen (roleTest b.role b.line) (b.pieces.map TurnPiece.stmt) (chain bs) b.line]

/-- The statements that write one message. -/
def TurnBody.stmts : TurnBody → List Stmt
  | .always pieces => pieces.map TurnPiece.stmt
  | .byRole branches => Branch.chain branches

/-- The statements that add the prompt. -/
def promptStmts : Option (String × Nat) → List Stmt
  | some (p, line) => [.ifThen (.var "add_generation_prompt" line) [.raw p] [] line]
  | none => []

/-- The program of a turn template. -/
def TurnLayout.stmts (d : TurnLayout) : List Stmt :=
  .forLoop (.name "message") (.var "messages" d.line) none false d.body.stmts [] d.line ::
    promptStmts d.prompt

/-! ## 2. Recognising a program -/

/-- The piece a statement writes, if it writes one. -/
def TurnPiece.ofStmt? : Stmt → Option TurnPiece
  | .raw s => some (.text s)
  | .emit (.getItem (.var "message" l₁) (.const (.str key) l₂) l₃) line =>
    if l₁ = line ∧ l₂ = line ∧ l₃ = line then some (.field key line) else none
  | _ => none

mutual

/-- The role chain a statement starts, if it is a role test whose other branch is a chain. -/
def Branch.chainAt? : Stmt → Option (List Branch)
  | .ifThen (.binary .eq (.getItem (.var "message" l₁) (.const (.str "role") l₂) l₃)
      (.const (.str role) l₄) l₅) yes no line =>
    if l₁ = line ∧ l₂ = line ∧ l₃ = line ∧ l₄ = line ∧ l₅ = line then do
      let pieces ← yes.mapM TurnPiece.ofStmt?
      let rest ← chainOf? no
      pure (⟨role, line, pieces⟩ :: rest)
    else none
  | _ => none

/-- The role chain a list of statements is, if it is one. -/
def Branch.chainOf? : List Stmt → Option (List Branch)
  | [] => some []
  | [s] => chainAt? s
  | _ => none

end

/-- The way of writing a message that a list of statements is, if it is one. -/
def TurnBody.ofStmts? (ss : List Stmt) : Option TurnBody :=
  match ss.mapM TurnPiece.ofStmt? with
  | some pieces => some (.always pieces)
  | none => (Branch.chainOf? ss).map .byRole

/-- The prompt that statements after the loop add, if they are a prompt. -/
def promptOf? : List Stmt → Option (Option (String × Nat))
  | [] => some none
  | [.ifThen (.var "add_generation_prompt" l₁) [.raw p] [] line] =>
    if l₁ = line then some (some (p, line)) else none
  | _ => none

/-- The turn template a program is, if it is one. -/
def TurnLayout.ofStmts? : List Stmt → Option TurnLayout
  | .forLoop (.name "message") (.var "messages" l₁) none false body [] line :: rest =>
    if l₁ = line then do
      let b ← TurnBody.ofStmts? body
      let p ← promptOf? rest
      pure ⟨line, b, p⟩
    else none
  | _ => none

/-! ## 3. What the recognisers accept

Each recogniser inverts the compilation of what it returns, so a program it recognises is
the program of that layout. -/

/-- A list that a partial inverse of `g` maps to a list is `g` of that list. -/
theorem eq_map_of_mapM {α β : Type} {f : α → Option β} {g : β → α}
    (hf : ∀ {a b}, f a = some b → a = g b) :
    ∀ {xs : List α} {ys : List β}, xs.mapM f = some ys → xs = ys.map g
  | [], ys, h => by
    simp only [List.mapM_nil, Option.pure_def, Option.some.injEq] at h
    subst h; rfl
  | x :: xs, ys, h => by
    simp only [List.mapM_cons, Option.bind_eq_bind, Option.bind_eq_some_iff, Option.pure_def,
      Option.some.injEq] at h
    obtain ⟨b, hb, bs, hbs, rfl⟩ := h
    rw [List.map_cons, ← hf hb, ← eq_map_of_mapM hf hbs]

theorem TurnPiece.eq_stmt_of_ofStmt? {s : Stmt} {p : TurnPiece} (h : TurnPiece.ofStmt? s = some p) :
    s = p.stmt := by
  unfold TurnPiece.ofStmt? at h
  split at h
  · cases h; rfl
  · split at h
    · rename_i hl
      obtain ⟨rfl, rfl, rfl⟩ := hl
      cases h; rfl
    · cases h
  · cases h

theorem Branch.eq_chain_of_chainOf? {ss : List Stmt} {bs : List Branch}
    (h : Branch.chainOf? ss = some bs) : ss = Branch.chain bs := by
  -- the recogniser runs through a test and the list of its alternatives at once
  refine Branch.chainOf?.induct
    (fun s => ∀ bs, Branch.chainAt? s = some bs → [s] = Branch.chain bs)
    (fun ss => ∀ bs, Branch.chainOf? ss = some bs → ss = Branch.chain bs)
    ?test ?lines ?other ?nil ?single ?long ss bs h
  case test =>
    intro l₁ l₂ l₃ role l₄ l₅ yes no line hl ih bs h
    obtain ⟨rfl, rfl, rfl, rfl, rfl⟩ := hl
    simp only [Branch.chainAt?, and_self, if_true, Option.bind_eq_bind, Option.bind_eq_some_iff,
      Option.pure_def, Option.some.injEq] at h
    obtain ⟨pieces, hp, rest, hr, rfl⟩ := h
    rw [eq_map_of_mapM TurnPiece.eq_stmt_of_ofStmt? hp, ih rest hr]
    rfl
  case lines =>
    intro l₁ l₂ l₃ role l₄ l₅ yes no line hl bs h
    simp only [Branch.chainAt?, hl, if_false, reduceCtorEq] at h
  case other =>
    intro t ht bs h
    unfold Branch.chainAt? at h
    split at h
    · exact (ht _ _ _ _ _ _ _ _ _ rfl).elim
    · cases h
  case nil =>
    intro bs h
    simp only [Branch.chainOf?, Option.some.injEq] at h
    subst h; rfl
  case single =>
    intro s ih bs h
    exact ih bs h
  case long =>
    intro t h₁ h₂ bs h
    unfold Branch.chainOf? at h
    split at h
    · exact absurd rfl h₁
    · exact absurd rfl (h₂ _)
    · cases h

theorem TurnBody.eq_stmts_of_ofStmts? {ss : List Stmt} {b : TurnBody}
    (h : TurnBody.ofStmts? ss = some b) : ss = b.stmts := by
  unfold TurnBody.ofStmts? at h
  split at h
  · rename_i pieces hp
    cases h
    exact eq_map_of_mapM TurnPiece.eq_stmt_of_ofStmt? hp
  · obtain ⟨bs, hbs, rfl⟩ := Option.map_eq_some_iff.1 h
    exact Branch.eq_chain_of_chainOf? hbs

theorem eq_promptStmts_of_promptOf? {ss : List Stmt} {p : Option (String × Nat)}
    (h : promptOf? ss = some p) : ss = promptStmts p := by
  unfold promptOf? at h
  split at h
  · cases h; rfl
  · split at h
    · rename_i hl
      subst hl
      cases h; rfl
    · cases h
  · cases h

/-- A program the recogniser accepts is the program of the layout it returns. -/
theorem TurnLayout.eq_stmts_of_ofStmts? {ss : List Stmt} {d : TurnLayout}
    (h : TurnLayout.ofStmts? ss = some d) : ss = d.stmts := by
  unfold TurnLayout.ofStmts? at h
  split at h
  · split at h
    · rename_i hl
      subst hl
      simp only [Option.bind_eq_bind, Option.bind_eq_some_iff, Option.pure_def,
        Option.some.injEq] at h
      obtain ⟨b, hb, p, hp, rfl⟩ := h
      rw [TurnBody.eq_stmts_of_ofStmts? hb, eq_promptStmts_of_promptOf? hp]
      rfl
    · cases h
  · cases h

/-! ## 4. The values of a conversation -/

/-- The text a message writes for the field under a key: its role, its content, or nothing. -/
def ChatMessage.fieldText (m : ChatMessage) (key : String) : String :=
  if key = "role" then m.role else if key = "content" then m.content else ""

/-- The text a piece writes for a message. -/
def TurnPiece.write (m : ChatMessage) : TurnPiece → String
  | .text s => s
  | .field key _ => m.fieldText key

/-- The pieces of the first branch whose role a message has; none when no branch has it. -/
def Branch.pick (m : ChatMessage) : List Branch → List TurnPiece
  | [] => []
  | b :: bs => if m.role = b.role then b.pieces else pick m bs

/-- The pieces a message is written with. -/
def TurnBody.pieces (m : ChatMessage) : TurnBody → List TurnPiece
  | .always pieces => pieces
  | .byRole branches => Branch.pick m branches

/-- The text a turn template writes for one message. -/
def TurnLayout.turn (d : TurnLayout) (m : ChatMessage) : String :=
  String.join ((d.body.pieces m).map (TurnPiece.write m))

/-- The prompt text written when the flag is set. -/
def promptText : Option (String × Nat) → Bool → String
  | some (p, _), true => p
  | _, _ => ""

/-- The text a turn template writes for a conversation: each message's text in order, then
the prompt when the flag asks for it. -/
def TurnLayout.text (d : TurnLayout) (messages : List ChatMessage) (addPrompt : Bool) : String :=
  String.join (messages.map d.turn) ++ promptText d.prompt addPrompt

theorem Value.compare_str (a b : String) : Value.compare (.str a) (.str b) = compare a b := rfl

theorem Value.equals_str (a b : String) : Value.equals (.str a) (.str b) = (a == b) := rfl

/-- Keys that are strings are found by equality. -/
theorem Value.findKey_str_cons (k key : String) (v : Value) (fs : List (Value × Value)) :
    Value.findKey ((.str k, v) :: fs) (.str key) =
      if k = key then some v else Value.findKey fs (.str key) := by
  have hcmp : (compare k key == Ordering.eq) = decide (k = key) := by
    rw [Bool.eq_iff_iff]
    simp
  by_cases hk : k = key <;> simp [Value.findKey, Value.compare_str, hcmp, hk]

/-- The value a message holds under a key. -/
def ChatMessage.field (m : ChatMessage) (key : String) : Value :=
  if key = "role" then .str m.role else if key = "content" then .str m.content else .undefined

theorem ChatMessage.getD_item?_toValue (m : ChatMessage) (key : String) :
    (m.toValue.item? (.str key)).getD .undefined = m.field key := by
  simp only [ChatMessage.toValue, Value.item?, Value.getValue?, Value.findKey_str_cons]
  by_cases hr : key = "role"
  · simp [hr, ChatMessage.field]
  · by_cases hc : key = "content"
    · simp [hc, ChatMessage.field]
    · simp [hr, hc, Value.findKey, eq_comm, ChatMessage.field]

theorem ChatMessage.escapedText_field (m : ChatMessage) (key : String) :
    (m.field key).escapedText .none = m.fieldText key := by
  unfold ChatMessage.field ChatMessage.fieldText
  split
  · rfl
  · split <;> rfl

theorem resolve_str (t : String) : ∀ n, resolve n (.str t) = pure (.str t)
  | 0 => by simp [resolve]
  | _ + 1 => by simp [resolve]

theorem resolve_bool (b : Bool) : ∀ n, resolve n (.bool b) = pure (.bool b)
  | 0 => by simp [resolve]
  | _ + 1 => by simp [resolve]

/-- Fields whose values are strings have nothing to resolve. -/
theorem resolveFields_of_str : ∀ (n : Nat) (fs : List (Value × Value)),
    (∀ p ∈ fs, ∃ t, p.2 = .str t) → resolveFields n fs = pure fs
  | 0, fs, _ => by simp [resolveFields]
  | _ + 1, [], _ => by simp [resolveFields]
  | n + 1, (k, v) :: rest, h => by
    obtain ⟨t, ht⟩ := h (k, v) List.mem_cons_self
    simp only at ht
    subst ht
    have hrest := resolveFields_of_str n rest fun p hp => h p (List.mem_cons_of_mem _ hp)
    simp [resolveFields, resolve_str, hrest]

/-- A message's map of strings has nothing to resolve. -/
theorem resolve_message (role content : String) : ∀ n,
    resolve n (.map [(.str "role", .str role), (.str "content", .str content)]) =
      pure (.map [(.str "role", .str role), (.str "content", .str content)])
  | 0 => by simp [resolve]
  | n + 1 => by
    have hfs := resolveFields_of_str n
      [(.str "role", .str role), (.str "content", .str content)] (by simp)
    simp [resolve, hfs]

theorem resolve_toValue (m : ChatMessage) (n : Nat) : resolve n m.toValue = pure m.toValue :=
  resolve_message m.role m.content n

theorem resolve_field (m : ChatMessage) (key : String) (n : Nat) :
    resolve n (m.field key) = pure (m.field key) := by
  unfold ChatMessage.field
  split
  · exact resolve_str _ n
  · split
    · exact resolve_str _ n
    · cases n <;> simp [resolve]

theorem resolveList_toValue (ms : List ChatMessage) :
    ∀ n, resolveList n (ms.map ChatMessage.toValue) = pure (ms.map ChatMessage.toValue) := by
  induction ms with
  | nil => intro n; cases n <;> simp [resolveList]
  | cons m ms ih =>
    intro n
    cases n with
    | zero => simp [resolveList]
    | succ n => simp [resolveList, resolve_toValue, ih]

/-! ## 5. Rendering, one statement at a time

Each lemma runs one kind of statement or expression from a state and says what it returns
and what state it leaves; the statements of a turn template read the state and never
change it. -/

section Steps

variable {α β : Type} {s s₁ s₂ : RenderState} {n : Nat}

/-- The renderer's state sees a value under a name, innermost frame first. -/
def Sees (s : RenderState) (name : String) (v : Value) : Prop :=
  s.frames.findSome? (frameLookup s · name) = some v

theorem run_lookupVar {name : String} {v : Value} (h : Sees s name v) :
    (lookupVar name).run s = pure (v, s) := by
  simp only [Sees] at h
  simp [lookupVar, lookup?, h]

theorem run_eval_var {name : String} {v : Value} {line : Nat} (h : Sees s name v) :
    (eval (n + 1) (.var name line)).run s = pure (v, s) := by
  simp only [eval]
  exact run_lookupVar h

variable {m : ChatMessage}

/-- Reading a field of the current message gives the field, or undefined when it has none. -/
theorem run_eval_messageField {key : String} {line : Nat} (h : Sees s "message" m.toValue) :
    (eval (n + 2) (messageField key line)).run s = pure (m.field key, s) := by
  simp only [messageField, eval, StateT.run_bind, run_lookupVar h, pure_bind]
  simp only [ChatMessage.toValue, use, resolve_message, resolve_str, bind_pure_comp,
    StateT.run_pure, map_pure]
  rw [← ChatMessage.getD_item?_toValue]
  rfl

theorem run_exec_raw {t : String} : (exec (n + 1) (.raw t)).run s = pure (t, s) := by
  simp [exec]

/-- A piece writes its text for the current message when output is not escaped. -/
theorem run_exec_piece {p : TurnPiece} (h : Sees s "message" m.toValue) (he : s.escaping = .none) :
    (exec (n + 3) p.stmt).run s = pure (p.write m, s) := by
  cases p with
  | text t => exact run_exec_raw
  | field key line =>
    simp only [TurnPiece.stmt, exec, StateT.run_bind, run_eval_messageField h, pure_bind]
    simp [use, resolve_field, he, ChatMessage.escapedText_field, TurnPiece.write]

theorem run_execList_nil : (execList (n + 1) []).run s = pure ("", s) := by
  simp [execList]

theorem run_execList_cons {st : Stmt} {rest : List Stmt} {a b : String}
    (h₁ : (exec n st).run s = pure (a, s₁)) (h₂ : (execList n rest).run s₁ = pure (b, s₂)) :
    (execList (n + 1) (st :: rest)).run s = pure (a ++ b, s₂) := by
  simp [execList, StateT.run_bind, h₁, h₂]

/-- The test of a role compares it with the current message's role. -/
theorem run_eval_roleTest {role : String} {line : Nat} (h : Sees s "message" m.toValue) :
    (eval (n + 3) (roleTest role line)).run s = pure (.bool (m.role == role), s) := by
  simp only [roleTest, eval, StateT.run_bind, run_eval_messageField h, pure_bind]
  simp [use, resolve_str, liftAt, binaryOp, ChatMessage.field, Value.equals_str]

theorem run_exec_ifThen {c : Expr} {yes no : List Stmt} {line : Nat} {b : Bool}
    (h : (eval n c).run s = pure (.bool b, s)) :
    (exec (n + 1) (.ifThen c yes no line)).run s =
      (if b then execList n yes else execList n no).run s := by
  simp only [exec, StateT.run_bind, h, pure_bind]
  cases b <;> simp [use, resolve_bool, Value.isTrue]

/-! ### One message -/

/-- The nesting a role chain needs: a test evaluates three levels down, and its branch and
the rest of the chain one level below the test. -/
def Branch.fuel : List Branch → Nat
  | [] => 1
  | b :: bs => max (b.pieces.length + 3) (fuel bs) + 2

/-- The nesting the statements that write one message need. -/
def TurnBody.fuel : TurnBody → Nat
  | .always pieces => pieces.length + 3
  | .byRole branches => Branch.fuel branches

theorem run_execList_pieces {ps : List TurnPiece} (h : Sees s "message" m.toValue)
    (he : s.escaping = .none) : ∀ {fuel}, ps.length + 3 ≤ fuel →
      (execList fuel (ps.map TurnPiece.stmt)).run s = pure (String.join (ps.map (TurnPiece.write m)), s) := by
  induction ps with
  | nil =>
    intro fuel hf
    obtain ⟨f, rfl⟩ : ∃ f, fuel = f + 1 := ⟨fuel - 1, by simp at hf; omega⟩
    exact run_execList_nil
  | cons p ps ih =>
    intro fuel hf
    simp only [List.length_cons] at hf
    obtain ⟨f, rfl⟩ : ∃ f, fuel = f + 3 + 1 := ⟨fuel - 4, by omega⟩
    rw [List.map_cons, List.map_cons, String.join_cons]
    exact run_execList_cons (run_exec_piece h he) (ih (by omega))

theorem run_execList_chain {bs : List Branch} (h : Sees s "message" m.toValue)
    (he : s.escaping = .none) : ∀ {fuel}, Branch.fuel bs ≤ fuel →
      (execList fuel (Branch.chain bs)).run s =
        pure (String.join ((Branch.pick m bs).map (TurnPiece.write m)), s) := by
  induction bs with
  | nil =>
    intro fuel hf
    obtain ⟨f, rfl⟩ : ∃ f, fuel = f + 1 := ⟨fuel - 1, by simp [Branch.fuel] at hf; omega⟩
    exact run_execList_nil
  | cons b bs ih =>
    intro fuel hf
    simp only [Branch.fuel] at hf
    obtain ⟨g, rfl⟩ : ∃ g, fuel = g + 1 + 1 := ⟨fuel - 2, by omega⟩
    have hg : b.pieces.length + 3 ≤ g ∧ Branch.fuel bs ≤ g := by omega
    obtain ⟨k, rfl⟩ : ∃ k, g = k + 3 := ⟨g - 3, by omega⟩
    -- the test, then whichever of its two lists the message's role selects
    have hbranch : (exec (k + 3 + 1) (.ifThen (roleTest b.role b.line)
        (b.pieces.map TurnPiece.stmt) (Branch.chain bs) b.line)).run s =
        pure (String.join ((Branch.pick m (b :: bs)).map (TurnPiece.write m)), s) := by
      rw [run_exec_ifThen (run_eval_roleTest h)]
      by_cases hr : m.role = b.role
      · simp only [hr, beq_self_eq_true, if_true, Branch.pick]
        exact run_execList_pieces h he hg.1
      · simp only [hr, beq_iff_eq, if_false, Branch.pick]
        exact ih hg.2
    have hrun := run_execList_cons hbranch run_execList_nil
    rw [String.append_empty] at hrun
    exact hrun

theorem run_execList_body {b : TurnBody} (h : Sees s "message" m.toValue)
    (he : s.escaping = .none) {fuel : Nat} (hf : b.fuel ≤ fuel) :
    (execList fuel b.stmts).run s = pure (String.join ((b.pieces m).map (TurnPiece.write m)), s) := by
  cases b with
  | always ps => exact run_execList_pieces h he hf
  | byRole bs => exact run_execList_chain h he hf

/-! ### The loop over the messages -/

/-- The renderer is inside a loop: the loop's frame lies on the frames `rest`, and output is
not escaped. -/
def InLoop (rest : List Frame) (s : RenderState) : Prop :=
  s.escaping = .none ∧ ∃ f, s.frames = f :: rest

/-- A loop's iterations write the texts of its items in order when each iteration writes the
text of its item and keeps an invariant (the run lemma of the loop, from its step). -/
theorem run_eachItem {γ : Type} {P : RenderState → Prop}
    {iteration : Value → Nat → Option Value → Option Value → RenderM String}
    (val : γ → Value) (out : γ → String)
    (hstep : ∀ x i prev next s, P s →
      ∃ s', (iteration (val x) i prev next).run s = pure (out x, s') ∧ P s') :
    ∀ (xs : List γ) (prev : Option Value) (i : Nat) (s : RenderState), P s →
      ∃ s', (eachItem iteration prev (xs.map val) i).run s =
        pure (String.join (xs.map out), s') ∧ P s'
  | [], _, _, s, hs => ⟨s, by simp [eachItem], hs⟩
  | x :: xs, prev, i, s, hs => by
    obtain ⟨s₁, h₁, hs₁⟩ := hstep x i prev (xs.map val).head? s hs
    obtain ⟨s₂, h₂, hs₂⟩ := run_eachItem val out hstep xs (some (val x)) (i + 1) s₁ hs₁
    refine ⟨s₂, ?_, hs₂⟩
    simp only [List.map_cons, eachItem, StateT.run_bind, h₁, pure_bind, h₂, StateT.run_pure,
      String.join_cons]

/-- Assigning a name in a loop's frame: the loop goes on, and the name is seen. -/
theorem run_store_inLoop {rest : List Frame} (name : String) (v : Value)
    (hs : InLoop rest s) : ∃ s', (store name v).run s = pure ((), s') ∧ InLoop rest s' ∧
      Sees s' name v := by
  obtain ⟨he, f, hf⟩ := hs
  refine ⟨_, rfl, ?_, ?_⟩
  · simp only [InLoop, hf]
    exact ⟨he, _, rfl⟩
  · simp [Sees, hf, frameLookup, Template.setField]

/-- The loop over the messages writes each message's text, as long as the body has the
nesting it needs. -/
theorem run_loopItems {rest : List Frame} {b : TurnBody} {k : Nat} (hf : b.fuel ≤ k + 1)
    (ms : List ChatMessage) (id : Nat) (count : Option Nat) (depth line : Nat)
    (hs : InLoop rest s) :
    ∃ s', (loopItems (k + 2) (.name "message") b.stmts id count depth none line
        (ms.map ChatMessage.toValue)).run s =
      pure (String.join (ms.map fun m => String.join ((b.pieces m).map (TurnPiece.write m))), s') ∧
      InLoop rest s' := by
  simp only [loopItems]
  refine run_eachItem ChatMessage.toValue _ ?_ ms none 0 s hs
  intro m i prev next s hs
  obtain ⟨he, f, hframes⟩ := hs
  -- the loop's value is set on its frame, then the message is assigned to its target
  obtain ⟨s₂, hstore, hs₂, hsees⟩ := run_store_inLoop "message" m.toValue (s := { s with
    frames := { f with loop := some ⟨.loop id i count depth prev next, depth, none⟩ } :: rest })
    ⟨he, _, rfl⟩
  refine ⟨s₂, ?_, hs₂⟩
  simp only [StateT.run_bind, StateT.run_modify, hframes, pure_bind, assign, hstore]
  exact run_execList_body hsees hs₂.1 hf

/-- A loop over messages pushes its frame on the frames it starts from, and leaves them as it
found them. -/
theorem run_runLoop {b : TurnBody} {k : Nat} (hf : b.fuel ≤ k + 1) (ms : List ChatMessage)
    (sized : Bool) (depth line : Nat) (he : s.escaping = .none)
    (hdeep : s.outer + s.frames.length ≤ recursionLimit) :
    ∃ s', (runLoop (k + 3) (.name "message") (ms.map ChatMessage.toValue) sized none b.stmts
        depth line).run s =
      pure (String.join (ms.map fun m => String.join ((b.pieces m).map (TurnPiece.write m))), s') ∧
      s'.frames = s.frames ∧ s'.escaping = .none := by
  have hroom : ¬recursionLimit < s.outer + s.frames.length := by omega
  obtain ⟨s₁, hrun, hs₁, f, hframes⟩ := run_loopItems (s := { s with
      changed := s.changed.push none, frames := {} :: s.frames }) hf ms s.changed.size
    (if sized then some (ms.map ChatMessage.toValue).length else none) depth line ⟨he, _, rfl⟩
  refine ⟨{ s₁ with frames := s₁.frames.drop 1 }, ?_, by simp [hframes], hs₁⟩
  simp only [runLoop, pushFrame, StateT.run_bind, StateT.run_get, StateT.run_set, pure_bind,
    hroom, if_false, hrun, popFrame, StateT.run_modify, StateT.run_pure]

/-- The loop over the messages, run where no other loop is open. -/
theorem run_exec_turnLoop {b : TurnBody} {k : Nat} (hf : b.fuel ≤ k + 1) (line : Nat)
    (ms : List ChatMessage) (hsees : Sees s "messages" (.seq (ms.map ChatMessage.toValue)))
    (hloops : s.frames.findSome? (·.loop) = none) (he : s.escaping = .none)
    (hdeep : s.outer + s.frames.length ≤ recursionLimit) :
    ∃ s', (exec (k + 4) (.forLoop (.name "message") (.var "messages" line) none false b.stmts []
        line)).run s =
      pure (String.join (ms.map fun m => String.join ((b.pieces m).map (TurnPiece.write m))), s') ∧
      s'.frames = s.frames ∧ s'.escaping = .none := by
  have huse : use (.seq (ms.map ChatMessage.toValue)) = pure (.seq (ms.map ChatMessage.toValue)) := by
    simp [use, resolve, resolveList_toValue]
  cases ms with
  | nil =>
    refine ⟨s, ?_, rfl, he⟩
    simp only [exec, StateT.run_bind, run_eval_var hsees, pure_bind, huse, StateT.run_pure]
    simp [Value.iterate?, liftAt, execList]
  | cons m ms =>
    obtain ⟨s', hrun, hframes, he'⟩ := run_runLoop hf (m :: ms) true 0 line he hdeep
    refine ⟨s', ?_, hframes, he'⟩
    simp only [List.map_cons, String.join_cons] at hrun
    simp only [exec, StateT.run_bind, run_eval_var hsees, pure_bind, huse, StateT.run_pure]
    simp [Value.iterate?, liftAt, currentLoop, hloops, hrun]

/-- The prompt after the loop writes its text when the flag is set. -/
theorem run_execList_prompt {p : Option (String × Nat)} {flag : Bool} {k : Nat}
    (hsees : Sees s "add_generation_prompt" (.bool flag)) :
    (execList (k + 4) (promptStmts p)).run s = pure (promptText p flag, s) := by
  rcases p with _ | ⟨t, line⟩
  · cases flag <;> exact run_execList_nil
  · have hif : (exec (k + 3) (.ifThen (.var "add_generation_prompt" line) [.raw t] [] line)).run s =
        pure (promptText (some (t, line)) flag, s) := by
      rw [run_exec_ifThen (run_eval_var hsees)]
      cases flag with
      | false => exact run_execList_nil
      | true =>
        have hraw := run_execList_cons (run_exec_raw (s := s) (t := t)) (run_execList_nil (n := k))
        rw [String.append_empty] at hraw
        exact hraw
    have hrun := run_execList_cons hif (run_execList_nil (n := k + 2))
    rw [String.append_empty] at hrun
    exact hrun

/-- The renderer sees the names of the context it starts with. -/
theorem sees_context {ctx : List (Value × Value)} {name : String} {v : Value}
    (hframes : s.frames = [{ base := .context ctx }]) (hv : Value.findKey ctx (.str name) = some v) :
    Sees s name v := by
  simp [Sees, hframes, frameLookup, hv]

end Steps

/-! ## 6. Conversations -/

theorem findKey_chatContext_messages (c : TemplateConfig) (ms : List ChatMessage) (flag : Bool) :
    Value.findKey (chatContext c ms flag) (.str "messages") =
      some (.seq (ms.map ChatMessage.toValue)) := by
  simp [chatContext, Value.findKey_str_cons]

theorem findKey_chatContext_flag (c : TemplateConfig) (ms : List ChatMessage) (flag : Bool) :
    Value.findKey (chatContext c ms flag) (.str "add_generation_prompt") = some (.bool flag) := by
  simp [chatContext, Value.findKey_str_cons]

/-- A turn template renders a conversation against the chat context as its text, when its
body nests less deeply than the renderer allows. -/
theorem render_turnLayout {d : TurnLayout} (hf : d.body.fuel + 4 ≤ 1000000)
    (c : TemplateConfig) (ms : List ChatMessage) (flag : Bool) :
    Program.render ⟨d.stmts⟩ (chatContext c ms flag) = .ok (d.text ms flag) := by
  have hk : d.body.fuel ≤ 999995 + 1 := by omega
  let s₀ : RenderState := { frames := [{ base := .context (chatContext c ms flag) }],
                            program := d.stmts }
  obtain ⟨s₁, hloop, hframes, he⟩ := run_exec_turnLoop (s := s₀) hk d.line ms
    (sees_context rfl (findKey_chatContext_messages c ms flag)) rfl rfl
    (by simp [s₀, recursionLimit])
  have hprompt := run_execList_prompt (k := 999995) (p := d.prompt)
    (sees_context hframes (findKey_chatContext_flag c ms flag))
  have hrun : (execList 1000000 d.stmts).run s₀ = pure (d.text ms flag, s₁) :=
    run_execList_cons hloop hprompt
  change ((execList 1000000 d.stmts).run s₀).map (·.1) = _
  rw [hrun]
  rfl

/-- An engine whose program is a turn template's renders every conversation as its text. -/
theorem ChatEngine.apply_of_layout {e : ChatEngine} {d : TurnLayout} (hp : e.program = ⟨d.stmts⟩)
    (hf : d.body.fuel + 4 ≤ 1000000) (ms : List ChatMessage) (flag : Bool) :
    e.apply ms flag = .ok (d.text ms flag) := by
  simp only [ChatEngine.apply, hp, render_turnLayout hf]

/-- A source whose program the recogniser accepts compiles to that layout's program. -/
theorem parseTemplate_of_ofStmts? {src : String} {d : TurnLayout}
    (h : ((parseTemplate src).toOption.bind fun p => TurnLayout.ofStmts? p.stmts) = some d) :
    parseTemplate src = .ok ⟨d.stmts⟩ := by
  cases hp : parseTemplate src with
  | error e => simp [hp, Except.toOption] at h
  | ok p =>
    simp only [hp, Except.toOption, Option.bind_some] at h
    rw [← TurnLayout.eq_stmts_of_ofStmts? h]

end LowRankTuner
