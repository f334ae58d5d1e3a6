/-
  LowRankTuner/Yaml/Event.lean
  ============================
  YAML tokens read into events: the starts and ends of the stream, its documents and their
  collections, scalars and aliases, in document order.

  A pushdown machine reads the tokens, one state per place in the grammar with a stack of
  the states to come back to.  An empty key, value or entry gives the empty scalar `~`; a
  node that is only an anchor or a tag gives an empty text.  An anchor gets the next number,
  counted from one over the whole stream, and an alias names the number its anchor has in
  the current document; an alias of an anchor not yet seen there is a fault.  The first
  document may start without `---`; a later one needs it.

  `events` gives every event up to the stream's end, or the first fault: a token that does
  not fit its place, or the scanner's own.
-/
import LowRankTuner.Yaml.Token

namespace LowRankTuner.Yaml

/-- An event of a YAML stream; an anchor number of zero means no anchor. -/
inductive Event where
  | streamStart
  | streamEnd
  | documentStart
  | documentEnd
  | alias (id : Nat)
  | scalar (text : String) (style : ScalarStyle) (anchor : Nat) (tag : Option (String × String))
  | sequenceStart (anchor : Nat)
  | sequenceEnd
  | mappingStart (anchor : Nat)
  | mappingEnd
  deriving Inhabited

/-- The scalar of an empty node. -/
def Event.empty : Event := .scalar "~" .plain 0 none

/-- The places in the grammar where the parser may stand. -/
inductive ParseState where
  | streamStart
  | implicitDocumentStart
  | documentStart
  | documentContent
  | documentEnd
  | blockNode
  | blockSequenceFirstEntry
  | blockSequenceEntry
  | indentlessSequenceEntry
  | blockMappingFirstKey
  | blockMappingKey
  | blockMappingValue
  | flowSequenceFirstEntry
  | flowSequenceEntry
  | flowSequenceEntryMappingKey
  | flowSequenceEntryMappingValue
  | flowSequenceEntryMappingEnd
  | flowMappingFirstKey
  | flowMappingKey
  | flowMappingValue
  | flowMappingEmptyValue
  | finished

/-- The parser's state: the tokens still to read and the fault after them, the current
place and the places to come back to, and the anchors of the current document. -/
structure Parser where
  tokens : List Token
  fault : Error
  state : ParseState := .streamStart
  states : List ParseState := []
  anchors : List (String × Nat) := []
  nextAnchor : Nat := 1
  /-- One more than the number of all the tokens: no loop that reads a token each step runs
  longer. -/
  limit : Nat := 1

/-- A step of the parser, which may fail. -/
abbrev ParseM := StateT Parser (Except Error)

namespace Parser

/-- The next token, or the fault when none is left. -/
def peek : ParseM Token := do
  let p ← get
  match p.tokens with
  | t :: _ => pure t
  | [] => throw p.fault

/-- The place after the next token. -/
def skip : ParseM Unit := modify fun p => { p with tokens := p.tokens.drop 1 }

/-- A fault at a token. -/
def fail {α : Type} (t : Token) (info : String) : ParseM α := throw ⟨t.mark, info⟩

/-- The parser moved to a place. -/
def goTo (s : ParseState) : ParseM Unit := modify fun p => { p with state := s }

/-- A place to come back to. -/
def pushState (s : ParseState) : ParseM Unit := modify fun p => { p with states := s :: p.states }

/-- Back to the last place saved. -/
def popState : ParseM Unit := modify fun p =>
  match p.states with
  | s :: more => { p with state := s, states := more }
  | [] => p

/-- Directive tokens passed over. -/
def skipDirectives : Nat → ParseM Unit
  | 0 => pure ()
  | n + 1 => do
    match (← peek).kind with
    | .versionDirective .. | .tagDirective .. =>
      skip
      skipDirectives n
    | _ => pure ()

/-- A bound on loops that read a token each step. -/
def budget : ParseM Nat := do return (← get).limit

/-- A document that starts with `---`. -/
def explicitDocumentStart : ParseM Event := do
  skipDirectives (← budget)
  let t ← peek
  match t.kind with
  | .documentStart =>
    pushState .documentEnd
    goTo .documentContent
    skip
    return .documentStart
  | _ => fail t "did not find expected <document start>"

/-- Document end markers passed over. -/
def skipDocumentEnds : Nat → ParseM Unit
  | 0 => pure ()
  | n + 1 => do
    match (← peek).kind with
    | .documentEnd =>
      skip
      skipDocumentEnds n
    | _ => pure ()

/-- The start of a document, or the end of the stream. -/
def documentStart (implicit : Bool) : ParseM Event := do
  if !implicit then skipDocumentEnds (← budget)
  let t ← peek
  match t.kind with
  | .streamEnd =>
    goTo .finished
    skip
    return .streamEnd
  | .versionDirective .. | .tagDirective .. | .documentStart => explicitDocumentStart
  | _ =>
    if implicit then
      skipDirectives (← budget)
      pushState .documentEnd
      goTo .blockNode
      return .documentStart
    else explicitDocumentStart

/-- An anchor registered under the next number. -/
def registerAnchor (name : String) : ParseM Nat := do
  let p ← get
  set { p with nextAnchor := p.nextAnchor + 1,
               anchors := (name, p.nextAnchor) :: p.anchors.filter (·.1 != name) }
  return p.nextAnchor

/-- A node: an alias, or a scalar or collection start after an optional anchor and tag in
either order.  `block` allows block collections, and `indentless` a sequence of entries at
the mapping's own indentation. -/
def parseNode (block indentless : Bool) : ParseM Event := do
  let t ← peek
  let mut anchor := 0
  let mut tag : Option (String × String) := none
  match t.kind with
  | .alias name =>
    popState
    skip
    match (← get).anchors.lookup name with
    | some id => return .alias id
    | none => fail t "while parsing node, found unknown anchor"
  | .anchor name =>
    skip
    anchor ← registerAnchor name
    if let .tag h s := (← peek).kind then
      skip
      tag := some (h, s)
  | .tag h s =>
    skip
    tag := some (h, s)
    if let .anchor name := (← peek).kind then
      skip
      anchor ← registerAnchor name
  | _ => pure ()
  let t ← peek
  match t.kind with
  | .blockEntry =>
    if indentless then
      goTo .indentlessSequenceEntry
      return .sequenceStart anchor
  | .scalar style text =>
    popState
    skip
    return .scalar text style anchor tag
  | .flowSequenceStart =>
    goTo .flowSequenceFirstEntry
    return .sequenceStart anchor
  | .flowMappingStart =>
    goTo .flowMappingFirstKey
    return .mappingStart anchor
  | .blockSequenceStart =>
    if block then
      goTo .blockSequenceFirstEntry
      return .sequenceStart anchor
  | .blockMappingStart =>
    if block then
      goTo .blockMappingFirstKey
      return .mappingStart anchor
  | _ => pure ()
  if tag.isSome || anchor > 0 then
    popState
    return .scalar "" .plain anchor tag
  fail t "while parsing a node, did not find expected node content"

/-- The content of a document that starts with `---`; an empty one is the empty scalar. -/
def documentContent : ParseM Event := do
  match (← peek).kind with
  | .versionDirective .. | .tagDirective .. | .documentStart | .documentEnd | .streamEnd =>
    popState
    return .empty
  | _ => parseNode true false

/-- The end of a document, with or without `...`. -/
def documentEnd : ParseM Event := do
  if let .documentEnd := (← peek).kind then skip
  goTo .documentStart
  return .documentEnd

/-- An entry of a block sequence, or its end. -/
def blockSequenceEntry (first : Bool) : ParseM Event := do
  if first then
    let _ ← peek
    skip
  let t ← peek
  match t.kind with
  | .blockEnd =>
    popState
    skip
    return .sequenceEnd
  | .blockEntry =>
    skip
    match (← peek).kind with
    | .blockEntry | .blockEnd =>
      goTo .blockSequenceEntry
      return .empty
    | _ =>
      pushState .blockSequenceEntry
      parseNode true false
  | _ => fail t "while parsing a block collection, did not find expected '-' indicator"

/-- An entry of a sequence at its mapping's indentation, or its end. -/
def indentlessSequenceEntry : ParseM Event := do
  match (← peek).kind with
  | .blockEntry =>
    skip
    match (← peek).kind with
    | .blockEntry | .key | .value | .blockEnd =>
      goTo .indentlessSequenceEntry
      return .empty
    | _ =>
      pushState .indentlessSequenceEntry
      parseNode true false
  | _ =>
    popState
    return .sequenceEnd

/-- A key of a block mapping, or its end. -/
def blockMappingKey (first : Bool) : ParseM Event := do
  if first then
    let _ ← peek
    skip
  let t ← peek
  match t.kind with
  | .key =>
    skip
    match (← peek).kind with
    | .key | .value | .blockEnd =>
      goTo .blockMappingValue
      return .empty
    | _ =>
      pushState .blockMappingValue
      parseNode true true
  | .value =>
    goTo .blockMappingValue
    return .empty
  | .blockEnd =>
    popState
    skip
    return .mappingEnd
  | _ => fail t "while parsing a block mapping, did not find expected key"

/-- A value of a block mapping, empty when there is no `:`. -/
def blockMappingValue : ParseM Event := do
  match (← peek).kind with
  | .value =>
    skip
    match (← peek).kind with
    | .key | .value | .blockEnd =>
      goTo .blockMappingKey
      return .empty
    | _ =>
      pushState .blockMappingKey
      parseNode true true
  | _ =>
    goTo .blockMappingKey
    return .empty

/-- An entry of a flow sequence, or its end; a key starts a mapping of one pair. -/
def flowSequenceEntry (first : Bool) : ParseM Event := do
  if first then
    let _ ← peek
    skip
  let t ← peek
  match t.kind with
  | .flowSequenceEnd =>
    popState
    skip
    return .sequenceEnd
  | .flowEntry => if !first then skip
  | _ => if !first then fail t "while parsing a flow sequence, expectd ',' or ']'"
  match (← peek).kind with
  | .flowSequenceEnd =>
    popState
    skip
    return .sequenceEnd
  | .key =>
    goTo .flowSequenceEntryMappingKey
    skip
    return .mappingStart 0
  | _ =>
    pushState .flowSequenceEntry
    parseNode false false

/-- The key of a one-pair mapping in a flow sequence. -/
def flowSequenceEntryMappingKey : ParseM Event := do
  match (← peek).kind with
  | .value | .flowEntry | .flowSequenceEnd =>
    skip
    goTo .flowSequenceEntryMappingValue
    return .empty
  | _ =>
    pushState .flowSequenceEntryMappingValue
    parseNode false false

/-- The value of a one-pair mapping in a flow sequence. -/
def flowSequenceEntryMappingValue : ParseM Event := do
  match (← peek).kind with
  | .value =>
    skip
    goTo .flowSequenceEntryMappingValue
    match (← peek).kind with
    | .flowEntry | .flowSequenceEnd =>
      goTo .flowSequenceEntryMappingEnd
      return .empty
    | _ =>
      pushState .flowSequenceEntryMappingEnd
      parseNode false false
  | _ =>
    goTo .flowSequenceEntryMappingEnd
    return .empty

/-- A key of a flow mapping, or its end. -/
def flowMappingKey (first : Bool) : ParseM Event := do
  if first then
    let _ ← peek
    skip
  let t ← peek
  match t.kind with
  | .flowMappingEnd => pure ()
  | _ =>
    if !first then
      match t.kind with
      | .flowEntry => skip
      | _ => fail t "while parsing a flow mapping, did not find expected ',' or '\x7d'"
    match (← peek).kind with
    | .key =>
      skip
      match (← peek).kind with
      | .value | .flowEntry | .flowMappingEnd =>
        goTo .flowMappingValue
        return .empty
      | _ =>
        pushState .flowMappingValue
        return ← parseNode false false
    | .value =>
      goTo .flowMappingValue
      return .empty
    | .flowMappingEnd => pure ()
    | _ =>
      pushState .flowMappingEmptyValue
      return ← parseNode false false
  popState
  skip
  return .mappingEnd

/-- A value of a flow mapping, empty when there is no `:` or nothing after it. -/
def flowMappingValue (empty : Bool) : ParseM Event := do
  if empty then
    let _ ← peek
    goTo .flowMappingKey
    return .empty
  if let .value := (← peek).kind then
    skip
    match (← peek).kind with
    | .flowEntry | .flowMappingEnd => pure ()
    | _ =>
      pushState .flowMappingKey
      return ← parseNode false false
  goTo .flowMappingKey
  return .empty

/-- The next event. -/
def step : ParseM Event := do
  match (← get).state with
  | .streamStart =>
    let t ← peek
    match t.kind with
    | .streamStart =>
      goTo .implicitDocumentStart
      skip
      return .streamStart
    | _ => fail t "did not find expected <stream-start>"
  | .implicitDocumentStart => documentStart true
  | .documentStart => documentStart false
  | .documentContent => documentContent
  | .documentEnd => documentEnd
  | .blockNode => parseNode true false
  | .blockSequenceFirstEntry => blockSequenceEntry true
  | .blockSequenceEntry => blockSequenceEntry false
  | .indentlessSequenceEntry => indentlessSequenceEntry
  | .blockMappingFirstKey => blockMappingKey true
  | .blockMappingKey => blockMappingKey false
  | .blockMappingValue => blockMappingValue
  | .flowSequenceFirstEntry => flowSequenceEntry true
  | .flowSequenceEntry => flowSequenceEntry false
  | .flowSequenceEntryMappingKey => flowSequenceEntryMappingKey
  | .flowSequenceEntryMappingValue => flowSequenceEntryMappingValue
  | .flowSequenceEntryMappingEnd =>
    goTo .flowSequenceEntry
    return .mappingEnd
  | .flowMappingFirstKey => flowMappingKey true
  | .flowMappingKey => flowMappingKey false
  | .flowMappingValue => flowMappingValue false
  | .flowMappingEmptyValue => flowMappingValue true
  | .finished => return .streamEnd

/-- Events up to the stream's end, at most `n`; anchors are forgotten at each document's
start. -/
def run : Nat → Parser → List Event → Except Error (List Event)
  | 0, p, _ => .error p.fault
  | n + 1, p, acc =>
    match step.run p with
    | .error e => .error e
    | .ok (ev, p) =>
      match ev with
      | .streamEnd => .ok (acc.reverse ++ [ev])
      | .documentStart => run n { p with anchors := [] } (ev :: acc)
      | _ => run n p (ev :: acc)

end Parser

/-- The events of YAML text up to the stream's end, or the first fault. -/
def events (text : String) : Except Error (List Event) :=
  let (tokens, fault, mark) := scan text
  let fault := fault.getD ⟨mark, "unexpected eof"⟩
  Parser.run (4 * tokens.length + 16) { tokens, fault, limit := tokens.length + 1 } []

end LowRankTuner.Yaml
