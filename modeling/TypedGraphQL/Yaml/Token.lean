import TypedGraphQL.Yaml.Tag

/-!
# Tokens

A text becomes a row of tokens, in which the nesting of blocks is spelled out: a block begins where
a line is indented farther than the lines before, and it ends where a line is indented less.

Whether a scalar is a key shows only at the colon behind it.  Until then it is remembered as a
possible key, and once the colon comes, the token that says so is inserted in front of it.  A key
lies on one line and is at most 1024 characters long.

## What is here

* `Token` — the tokens.
* `PossibleKey`, `Scan` — the tokens found so far and what has to be remembered between them.
* `Scan.openBlock`, `Scan.closeBlocks` — blocks begin and end.
* `Scan.saveKey`, `Scan.dropKey`, `Scan.forgetKeys` — keys become possible and impossible.
* `Scan.step` — one more token.
* `tokens` — all tokens of a text.
-/

set_option autoImplicit false

namespace TypedGraphQL.Yaml

/-- How a scalar is written. -/
inductive Style
  | plain
  | quoted
  /-- A block of lines that are kept. -/
  | literal
  /-- A block of lines that are folded. -/
  | folded
  deriving DecidableEq, Repr

/-- A token. -/
inductive Token
  | directive (d : Directive)
  | documentStart
  | documentEnd
  /-- A block of items begins. -/
  | blockSequence
  /-- A block of entries begins. -/
  | blockMapping
  | blockEnd
  | openBracket
  | closeBracket
  | openBrace
  | closeBrace
  | comma
  /-- An item of a sequence comes next. -/
  | item
  /-- A key comes next. -/
  | key
  /-- The value of a key comes next. -/
  | value
  | reference (name : String)
  | anchor (name : String)
  | tag (t : Tag)
  | scalar (style : Style) (text : String)
  deriving DecidableEq, Repr

/-- A token that is a key if a colon follows it. -/
structure PossibleKey where
  /-- Where it begins. -/
  start : Glyph
  /-- How many tokens stand in front of it. -/
  position : Nat
  /-- Nothing else can stand here. -/
  required : Bool

/-- The tokens found so far, and what has to be remembered between them. -/
structure Scan where
  /-- The tokens, last one first, and how many they are. -/
  tokens : List Token := []
  count : Nat := 0
  /-- The columns of the blocks that are open, innermost first. -/
  columns : List Nat := []
  /-- A key may begin here. -/
  keyAllowed : Bool := true
  /-- The possible key of the innermost brackets, or of the block if there are none. -/
  candidate : Option PossibleKey := none
  /-- The possible keys around every open bracket, innermost first. -/
  outer : List (Option PossibleKey) := []

namespace Scan

/-- Inside brackets. -/
def inFlow (s : Scan) : Bool :=
  !s.outer.isEmpty

/-- The least column of a line that belongs to the innermost block. -/
def margin (s : Scan) : Nat :=
  match s.columns with
  | [] => 0
  | column :: _ => column + 1

/-- One more token, with what it says about keys. -/
def emit (t : Token) (keyAllowed : Bool) (s : Scan) : Scan :=
  { s with tokens := t :: s.tokens, count := s.count + 1, keyAllowed }

/-- A token behind the first `position` ones. -/
def insertToken (t : Token) (position : Nat) (s : Scan) : Scan :=
  let later := s.count - position
  { s with tokens := s.tokens.take later ++ t :: s.tokens.drop later, count := s.count + 1 }

/-! ## Blocks -/

/-- A block begins at a column, unless one is open there already.  Its token is put behind the first
`position` ones. -/
def openBlock (t : Token) (column position : Nat) (s : Scan) : Scan :=
  if s.inFlow || column < s.margin then s
  else insertToken t position { s with columns := column :: s.columns }

/-- The `n` innermost blocks end. -/
def closeInner (n : Nat) (s : Scan) : Scan :=
  { s with
    tokens := List.replicate n .blockEnd ++ s.tokens
    count := s.count + n
    columns := s.columns.drop n }

/-- The blocks end that lie to the right of a column. -/
def closeBlocks (column : Nat) (s : Scan) : Scan :=
  if s.inFlow then s else s.closeInner (s.columns.takeWhile (column < ·)).length

/-! ## Keys -/

/-- No key is possible any more; an error if there has to be one. -/
def dropKey (s : Scan) : Except Problem Scan :=
  if s.candidate.any (·.required) then .error .syntaxError else .ok { s with candidate := none }

/-- What begins here is a possible key, if a key is allowed. -/
def saveKey (g : Glyph) (s : Scan) : Except Problem Scan := do
  if s.keyAllowed then
    let s ← s.dropKey
    return { s with
      candidate := some ⟨g, s.count, !s.inFlow && s.columns.head? == some g.column⟩ }
  else return s

/-- The longest key. -/
def maxKeyLength : Nat := 1024

/-- A possible key, if a colon at `g` still makes it one. -/
def keepKey (g : Glyph) : Option PossibleKey → Except Problem (Option PossibleKey)
  | none => .ok none
  | some k =>
    if k.start.line < g.line || k.start.index + maxKeyLength < g.index then
      if k.required then .error .syntaxError else .ok none
    else .ok (some k)

/-- The keys are impossible now that began too long before `g`. -/
def forgetKeys (g : Glyph) (s : Scan) : Except Problem Scan := do
  return { s with candidate := ← keepKey g s.candidate, outer := ← s.outer.mapM (keepKey g) }

/-! ## Single tokens -/

/-- A token that no key goes across. -/
def emitSign (t : Token) (keyAllowed : Bool) (s : Scan) : Except Problem Scan := do
  return (← s.dropKey).emit t keyAllowed

/-- All blocks end, and what stands at the edge of a document comes. -/
def edge (t : Token) (s : Scan) : Except Problem Scan :=
  (if s.inFlow then s else s.closeInner s.columns.length).emitSign t false

/-- An opening bracket or brace. -/
def openFlow (t : Token) (g : Glyph) (s : Scan) : Except Problem Scan := do
  let s ← s.saveKey g
  return { s with candidate := none, outer := s.candidate :: s.outer }.emit t true

/-- A closing bracket or brace. -/
def closeFlow (t : Token) (s : Scan) : Except Problem Scan := do
  let s ← s.dropKey
  let s := match s.outer with
    | [] => s
    | k :: outer => { s with candidate := k, outer }
  return s.emit t false

/-- The sign of an item or of a key, which may begin a block. -/
def blockSign (t block : Token) (g : Glyph) (s : Scan) : Except Problem Scan :=
  if s.inFlow then s.emitSign t (t == .item)
  else if s.keyAllowed then (s.openBlock block g.column s.count).emitSign t true
  else .error .syntaxError

/-- The sign of a value: a colon. -/
def valueSign (g : Glyph) (s : Scan) : Except Problem Scan :=
  match s.candidate with
  | some k =>
    let s := s.insertToken .key k.position
    let s := s.openBlock .blockMapping k.start.column k.position
    .ok ({ s with candidate := none }.emit .value false)
  | none =>
    if s.inFlow then .ok (s.emit .value false)
    else if s.keyAllowed then
      .ok ((s.openBlock .blockMapping g.column s.count).emit .value true)
    else .error .syntaxError

/-- The character cannot begin a plain scalar, unless it is one of `-?:` and a word goes on. -/
def isIndicator (c : Char) : Bool :=
  ['-', '?', ':', ',', '[', ']', '{', '}', '#', '&', '*', '!', '|', '>', '\x27', '"', '%', '@',
    '\x60'].contains c

/-- A plain scalar. -/
def plainScalar (g : Glyph) (rest : List Glyph) (s : Scan) :
    Except Problem (Scan × List Glyph) := do
  let s ← s.saveKey g
  let scan ← scanPlain ⟨s.inFlow, s.margin⟩ [] .nothing true true (g :: rest)
  return (s.emit (.scalar .plain scan.text) scan.broken, scan.rest)

/-- The token that begins with `g`. -/
def step (g : Glyph) (rest : List Glyph) (s : Scan) : Except Problem (Scan × List Glyph) := do
  if g.column == 0 && g.char == '%' then
    let (d, rest) ← scanDirective rest
    return (← s.edge (.directive d), rest)
  else if isMarker '-' (g :: rest) then return (← s.edge .documentStart, rest.drop 2)
  else if isMarker '.' (g :: rest) then return (← s.edge .documentEnd, rest.drop 2)
  else
    match g.char with
    | '[' => return (← s.openFlow .openBracket g, rest)
    | '{' => return (← s.openFlow .openBrace g, rest)
    | ']' => return (← s.closeFlow .closeBracket, rest)
    | '}' => return (← s.closeFlow .closeBrace, rest)
    | ',' => return (← s.emitSign .comma true, rest)
    | '*' =>
      let (name, rest) ← scanAnchor rest
      return ((← s.saveKey g).emit (.reference name) false, rest)
    | '&' =>
      let (name, rest) ← scanAnchor rest
      return ((← s.saveKey g).emit (.anchor name) false, rest)
    | '!' =>
      let (tag, rest) ← scanTag s.inFlow rest
      return ((← s.saveKey g).emit (.tag tag) false, rest)
    | '"' =>
      let scan ← scanQuoted true [] .nothing .text rest
      return ((← s.saveKey g).emit (.scalar .quoted scan.text) false, scan.rest)
    | '\x27' =>
      let scan ← scanQuoted false [] .nothing .text rest
      return ((← s.saveKey g).emit (.scalar .quoted scan.text) false, scan.rest)
    | c =>
      if c == '-' && endsWord rest then return (← s.blockSign .item .blockSequence g, rest)
      else if c == '?' && (s.inFlow || endsWord rest) then
        return (← s.blockSign .key .blockMapping g, rest)
      else if c == ':' && (s.inFlow || endsWord rest) then return (← s.valueSign g, rest)
      else if (c == '|' || c == '>') && !s.inFlow then
        let scan ← scanBlock (c == '>') s.margin rest
        return (← s.emitSign (.scalar (if c == '|' then .literal else .folded) scan.text) true,
          scan.rest)
      else if !isIndicator c && !isBlank c || c == '-' || (c == '?' || c == ':') && !s.inFlow then
        s.plainScalar g rest
      else .error .syntaxError

/-- The next token is looked for behind blanks, comments and line breaks.  Outside brackets a key
is allowed again on a new line, and a tab may stand only where no key can begin.  A byte order mark
may stand at the front of any line, where it takes up the first column. -/
def skip (s : Scan) (inComment : Bool) : List Glyph → Scan × List Glyph
  | [] => (s, [])
  | g :: rest =>
    if isBreak g.char then skip { s with keyAllowed := s.keyAllowed || !s.inFlow } false rest
    else if inComment || isLeadingMark g || g.char == ' ' ||
        g.char == '\t' && (s.inFlow || !s.keyAllowed) then
      skip s inComment rest
    else if g.char == '#' then skip s true rest
    else (s, g :: rest)

/-- The tokens of a text, each of which takes at least one character. -/
def run (s : Scan) (text : List Glyph) : Nat → Except Problem (List Token)
  | 0 => .error .syntaxError
  | fuel + 1 => do
    let (s, text) := s.skip false text
    match text with
    | [] =>
      let s ← s.dropKey
      return (s.closeInner s.columns.length).tokens.reverse
    | g :: rest =>
      let s ← s.forgetKeys g
      let (s, rest) ← (s.closeBlocks g.column).step g rest
      run s rest fuel

end Scan

/-- The tokens of a text. -/
def tokens (text : String) : Except Problem (List Token) := do
  let text ← glyphs text
  Scan.run {} text (text.length + 1)

end TypedGraphQL.Yaml
