/-
  LowRankTuner/Tokenizer/Vocabulary.lean
  ======================================
  Word-level tokenizers: a vocabulary of whole words, an optional split of text into words
  and punctuation runs, and special tokens that are cut out of the text before anything else.

  Encoding runs in three stages.
  1. The text is cut at the special tokens.  At each position the leftmost match wins and,
     among matches starting there, the longest; the text between matches stays plain.
  2. Each plain piece is split into words: maximal runs of word characters and maximal
     runs of characters that are neither word characters nor white space, white space
     dropped.  Without the split a plain piece is one word.
  3. Each word is looked up in the vocabulary; a word that is not there becomes the unknown
     token, and when the unknown token itself is not in the vocabulary, encoding fails.

  Special tokens receive ids when they are added: the id of the same text in the
  vocabulary when it has one, otherwise the next free id, which is the vocabulary size, or
  one past the greatest special id once that reaches the vocabulary size.
-/
import LowRankTuner.Text.WordChar
import LowRankTuner.Text.Blank

namespace LowRankTuner

/-- The message of a word-level vocabulary without its unknown token. -/
def missingUnknownText : String := "WordLevel error: Missing [UNK] token from the vocabulary"

/-- The unknown token of a vocabulary that names none. -/
def defaultUnknownToken : String := "<unk>"

/-- A vocabulary of whole words: each word once, with its id, and the unknown token. -/
structure WordLevel where
  vocab : List (String × Nat)
  unkToken : String := defaultUnknownToken
  deriving DecidableEq, Repr

namespace WordLevel

/-- Sets the id of a word, replacing an earlier entry for it. -/
def assign (vocab : List (String × Nat)) (w : String) (id : Nat) : List (String × Nat) :=
  if vocab.any (·.1 == w) then vocab.map (fun e => if e.1 == w then (w, id) else e)
  else vocab ++ [(w, id)]

/-- The vocabulary in which word `i` of the list has id `i`; a repeated word keeps the id of
its last occurrence. -/
def ofWords (words : List String) (unk : String := defaultUnknownToken) : WordLevel :=
  { vocab := (words.zipIdx).foldl (fun v (w, i) => assign v w i) [], unkToken := unk }

/-- The number of distinct words. -/
def size (m : WordLevel) : Nat := m.vocab.length

/-- The id of a word. -/
def idOf? (m : WordLevel) (w : String) : Option Nat := (m.vocab.find? (·.1 == w)).map (·.2)

/-- The id of a word, or of the unknown token when the word is not in the vocabulary. -/
def tokenize (m : WordLevel) (w : String) : Except String Nat :=
  match m.idOf? w with
  | some id => .ok id
  | none => match m.idOf? m.unkToken with
    | some id => .ok id
    | none => .error missingUnknownText

end WordLevel

/-! ## Words and punctuation -/

/-- Closes the current run, if any, onto the pieces found so far (kept in reverse). -/
def closeRun (run : List Char) (acc : List String) : List String :=
  if run.isEmpty then acc else String.ofList run.reverse :: acc

/-- The runs of a text: `cls` is the kind of the current run (word characters or not),
`run` its characters in reverse, `acc` the runs closed so far in reverse. -/
def runsFrom : List Char → Option Bool → List Char → List String → List String
  | [], _, run, acc => (closeRun run acc).reverse
  | c :: cs, cls, run, acc =>
    if Text.isWhiteSpace c then runsFrom cs none [] (closeRun run acc)
    else
      let k := isWordChar c
      if cls == some k then runsFrom cs cls (c :: run) acc
      else runsFrom cs (some k) [c] (closeRun run acc)

/-- The words of a text: maximal runs of word characters and maximal runs of other
characters that are not white space, in order. -/
def splitWords (s : String) : List String := runsFrom s.toList none [] []

/-! ## Special tokens -/

/-- A piece of text after the special tokens are cut out. -/
inductive Piece where
  | plain (text : String)
  | special (id : Nat)
  deriving DecidableEq, Repr

/-- The longest pattern, with its id, that the text starts with. -/
def longestAt (pats : List (List Char × Nat)) (text : List Char) : Option (List Char × Nat) :=
  pats.foldl (fun best p =>
    if !p.1.isEmpty && p.1.isPrefixOf text then
      match best with
      | some b => if b.1.length < p.1.length then some p else best
      | none => some p
    else best) none

/-- Cuts a text at the patterns, leftmost and then longest first.  `pending` holds the
plain characters since the last cut, in reverse; `fuel` bounds the steps, each of which
consumes at least one character. -/
def cutFrom (pats : List (List Char × Nat)) : Nat → List Char → List Char → List Piece
  | 0, _, pending => closePlain pending []
  | fuel + 1, text, pending =>
    match text with
    | [] => closePlain pending []
    | c :: cs =>
      match longestAt pats text with
      | some (p, id) => closePlain pending (.special id :: cutFrom pats fuel (text.drop p.length) [])
      | none => cutFrom pats fuel cs (c :: pending)
where
  /-- The plain piece of the pending characters, if any, before the rest. -/
  closePlain (pending : List Char) (rest : List Piece) : List Piece :=
    if pending.isEmpty then rest else .plain (String.ofList pending.reverse) :: rest

/-- Cuts a text at the given special tokens. -/
def cutSpecials (pats : List (String × Nat)) (text : String) : List Piece :=
  let cs := text.toList
  cutFrom (pats.map (fun (s, id) => (s.toList, id))) (cs.length + 1) cs []

/-! ## The tokenizer -/

/-- A word-level tokenizer with its special tokens. -/
structure Tokenizer where
  model : WordLevel
  /-- Whether plain text is split into words and punctuation before lookup. -/
  splitsWords : Bool := true
  /-- The special tokens with their ids, each text once, in the order added. -/
  specials : List (String × Nat) := []
  /-- For each id given to a special token, the token that holds it last. -/
  holders : List (Nat × String) := []
  deriving DecidableEq, Repr

namespace Tokenizer

/-- The id of a token: a special token first, else a vocabulary word. -/
def idOf? (t : Tokenizer) (s : String) : Option Nat :=
  match t.specials.find? (·.1 == s) with
  | some (_, id) => some id
  | none => t.model.idOf? s

/-- The id a new special token receives. -/
def nextId (t : Tokenizer) (s : String) : Nat :=
  match t.idOf? s with
  | some id => id
  | none =>
    let n := t.model.size
    match t.specials.map (·.2) |>.max? with
    | none => n
    | some m => if m ≥ n || n == 0 then m + 1 else n

/-- Adds one special token; an empty token, or one that already holds an id, is ignored. -/
def addSpecial (t : Tokenizer) (s : String) : Tokenizer :=
  if s.isEmpty || t.holders.any (·.2 == s) then t
  else
    let id := t.nextId s
    { t with
      specials := WordLevel.assign t.specials s id
      holders := if t.holders.any (·.1 == id) then t.holders.map (fun h => if h.1 == id then (id, s) else h)
        else t.holders ++ [(id, s)] }

/-- Adds special tokens in order. -/
def addSpecials (t : Tokenizer) (ss : List String) : Tokenizer := ss.foldl addSpecial t

/-- The number of distinct tokens, vocabulary words and special tokens together. -/
def vocabSize (t : Tokenizer) : Nat :=
  t.model.size + (t.specials.filter (fun s => (t.model.idOf? s.1).isNone)).length

/-- The ids of a plain piece of text. -/
def encodePlain (t : Tokenizer) (s : String) : Except String (List Nat) :=
  (if t.splitsWords then splitWords s else if s.isEmpty then [] else [s]).mapM t.model.tokenize

/-- The ids of a text. -/
def encode (t : Tokenizer) (text : String) : Except String (List Nat) := do
  let pieces := cutSpecials t.specials text
  let parts ← pieces.mapM (fun
    | .plain s => t.encodePlain s
    | .special id => pure [id])
  return parts.flatten

end Tokenizer

end LowRankTuner
