import TypedGraphQL.Yaml.Glyph

/-!
# Scalars

A scalar is a piece of text, written plainly, in quotes or as a block of lines.  Where it runs over
several lines, the lines are folded: a single break becomes a space, and of several breaks one is
dropped.

## What is here

* `Gap` — the blanks and breaks since the last character, and what they fold to.
* `scanPlain` — a plain scalar; `scanQuoted` — a quoted one; `scanBlock` — a block of lines.

Text that has been read is kept last character first.
-/

set_option autoImplicit false

namespace TypedGraphQL.Yaml

/-! ## Folding -/

/-- What lies between two characters of a scalar. -/
inductive Gap
  /-- Blanks on one line, last one first. -/
  | blanks (chars : List Char)
  /-- A line break and the breaks after it, last one first.  An escaped break is `none`. -/
  | breaks (first : Option Char) (more : List Char)

namespace Gap

/-- Nothing. -/
def nothing : Gap := blanks []

/-- One more blank. -/
def addBlank (c : Char) : Gap → Gap
  | blanks chars => blanks (c :: chars)
  | gap => gap

/-- One more line break. -/
def addBreak (c : Char) : Gap → Gap
  | blanks _ => breaks (some c) []
  | breaks first more => breaks first (c :: more)

/-- The gap goes over the end of a line. -/
def isBroken : Gap → Bool
  | blanks _ => false
  | breaks .. => true

/-- What the gap folds to, last character first. -/
def folded : Gap → List Char
  | blanks chars => chars
  | breaks (some '\n') [] => [' ']
  | breaks (some '\n') more => more
  | breaks (some c) more => more ++ [c]
  | breaks none more => more

end Gap

/-! ## Plain scalars -/

/-- The characters that end a plain scalar inside brackets. -/
def isFlowIndicator (c : Char) : Bool :=
  [',', '[', ']', '{', '}'].contains c

/-- Where a scalar stands. -/
structure Place where
  /-- Inside brackets. -/
  inFlow : Bool
  /-- The least column of a further line. -/
  margin : Nat

/-- A scanned scalar: its text, whether a line ended behind it, and what follows. -/
structure ScalarScan where
  text : String
  broken : Bool
  rest : List Glyph

/-- A plain scalar that ends here. -/
def plainScan (read : List Char) (gap : Gap) (rest : List Glyph) : ScalarScan :=
  ⟨String.ofList read.reverse, gap.isBroken, rest⟩

/-- A word that begins here is no part of a plain scalar.  `first` says that it would be the first
word of it. -/
def endsBeforeWord (place : Place) (first : Bool) (g : Glyph) (rest : List Glyph) : Bool :=
  isDocumentMarker (g :: rest) || g.char == '#' ||
    (!first && !place.inFlow && g.column < place.margin)

/-- A character that stands here is no part of a plain scalar. -/
def endsBeforeChar (place : Place) (g : Glyph) (rest : List Glyph) : Bool :=
  g.char == ':' && endsWord rest || place.inFlow && isFlowIndicator g.char

/-- A plain scalar.  `fresh` says that a word begins here, and `first` that it is the first one. -/
def scanPlain (place : Place) (read : List Char) (gap : Gap) (first fresh : Bool) :
    List Glyph → Except Problem ScalarScan
  | [] => .ok (plainScan read gap [])
  | g :: rest =>
    if isBlank g.char then
      if gap.isBroken && g.char == '\t' && g.column < place.margin then .error .syntaxError
      else scanPlain place read (gap.addBlank g.char) false true rest
    else if isBreak g.char then scanPlain place read (gap.addBreak g.char) false true rest
    else if fresh && endsBeforeWord place first g rest then
      .ok (plainScan read gap (g :: rest))
    else if place.inFlow && g.char == ':' && nextIs [',', '?', '[', ']', '{', '}'] rest then
      .error .syntaxError
    else if endsBeforeChar place g rest then .ok (plainScan read gap (g :: rest))
    else scanPlain place (g.char :: (gap.folded ++ read)) .nothing false false rest

/-! ## Quoted scalars -/

/-- What a single letter after a backslash stands for. -/
def letterEscape? (c : Char) : Option Char :=
  match c with
  | '0' => some '\x00'
  | 'a' => some '\x07'
  | 'b' => some '\x08'
  | 't' => some '\t'
  | '\t' => some '\t'
  | 'n' => some '\n'
  | 'v' => some '\x0b'
  | 'f' => some '\x0c'
  | 'r' => some '\r'
  | 'e' => some '\x1b'
  | ' ' => some ' '
  | '"' => some '"'
  | '/' => some '/'
  | '\\' => some '\\'
  | 'N' => some '\u0085'
  | '_' => some '\u00a0'
  | 'L' => some '\u2028'
  | 'P' => some '\u2029'
  | _ => none

/-- How many hexadecimal digits follow the letter after a backslash. -/
def codeLength? (c : Char) : Option Nat :=
  match c with
  | 'x' => some 2
  | 'u' => some 4
  | 'U' => some 8
  | _ => none

/-- The value of a hexadecimal digit. -/
def hexValue? (c : Char) : Option Nat :=
  if c.isDigit then some (c.toNat - 48)
  else if 'a' ≤ c ∧ c ≤ 'f' then some (c.toNat - 87)
  else if 'A' ≤ c ∧ c ≤ 'F' then some (c.toNat - 55)
  else none

/-- What a quoted scalar is in the middle of. -/
inductive QuotedState
  | text
  /-- Behind a backslash. -/
  | escape
  /-- Inside a code with some digits left, of the value read so far. -/
  | code (left value : Nat)
  /-- Behind a quote that may be doubled. -/
  | quote

/-- A scalar in single or double quotes, behind its opening quote. -/
def scanQuoted (double : Bool) (read : List Char) (gap : Gap) (state : QuotedState) :
    List Glyph → Except Problem ScalarScan
  | [] =>
    match state with
    | .quote => .ok ⟨String.ofList read.reverse, false, []⟩
    | _ => .error .syntaxError
  | g :: rest =>
    match state with
    | .quote =>
      if g.char == '\x27' then scanQuoted double ('\x27' :: read) .nothing .text rest
      else .ok ⟨String.ofList read.reverse, false, g :: rest⟩
    | .escape =>
      if isBreak g.char then scanQuoted double read (.breaks none []) .text rest
      else
        match letterEscape? g.char, codeLength? g.char with
        | some c, _ => scanQuoted double (c :: read) .nothing .text rest
        | none, some n => scanQuoted double read .nothing (.code n 0) rest
        | none, none => .error .syntaxError
    | .code left value =>
      match hexValue? g.char with
      | none => .error .syntaxError
      | some digit =>
        let value := value * 16 + digit
        if left ≤ 1 then
          if h : value.isValidChar then
            scanQuoted double (Char.ofNatAux value h :: read) .nothing .text rest
          else .error .syntaxError
        else scanQuoted double read .nothing (.code (left - 1) value) rest
    | .text =>
      if isDocumentMarker (g :: rest) then .error .syntaxError
      else if isBlank g.char then scanQuoted double read (gap.addBlank g.char) .text rest
      else if isBreak g.char then scanQuoted double read (gap.addBreak g.char) .text rest
      else
        let read := gap.folded ++ read
        if double then
          if g.char == '"' then .ok ⟨String.ofList read.reverse, false, rest⟩
          else if g.char == '\\' then scanQuoted double read .nothing .escape rest
          else scanQuoted double (g.char :: read) .nothing .text rest
        else if g.char == '\x27' then scanQuoted double read .nothing .quote rest
        else scanQuoted double (g.char :: read) .nothing .text rest

/-! ## Blocks of lines -/

/-- What becomes of the line breaks at the end of a block. -/
inductive Chomping
  | strip
  | clip
  | keep
  deriving DecidableEq, Repr

/-- The header of a block: its chomping, and its indentation relative to what is around it. -/
structure BlockHeader where
  folds : Bool
  chomping : Chomping := .clip
  increment : Option Nat := none

/-- The chomping that a sign asks for. -/
def chomping? (c : Char) : Option Chomping :=
  if c = '+' then some .keep else if c = '-' then some .strip else none

/-- The indentation that a digit asks for. -/
def increment? (c : Char) : Option Nat :=
  if c.isDigit && c != '0' then some (c.toNat - 48) else none

/-- The indicators behind the sign of a block: a chomping and an indentation, in either order. -/
def blockHeader (folds : Bool) : List Glyph → BlockHeader × List Glyph
  | g₁ :: g₂ :: rest =>
    match chomping? g₁.char, increment? g₁.char, chomping? g₂.char, increment? g₂.char with
    | some c, _, _, some n => (⟨folds, c, some n⟩, rest)
    | _, some n, some c, _ => (⟨folds, c, some n⟩, rest)
    | some c, _, _, none => (⟨folds, c, none⟩, g₂ :: rest)
    | none, some n, none, _ => (⟨folds, .clip, some n⟩, g₂ :: rest)
    | none, none, _, _ => (⟨folds, .clip, none⟩, g₁ :: g₂ :: rest)
  | [g] =>
    match chomping? g.char, increment? g.char with
    | some c, _ => (⟨folds, c, none⟩, [])
    | none, some n => (⟨folds, .clip, some n⟩, [])
    | none, none => (⟨folds, .clip, none⟩, [g])
  | [] => (⟨folds, .clip, none⟩, [])

/-- What follows a line of which only blanks and a comment are left. -/
def lineEnd (inComment : Bool) : List Glyph → Except Problem (List Glyph)
  | [] => .ok []
  | g :: rest =>
    if isBreak g.char then .ok rest
    else if inComment then lineEnd true rest
    else if isBlank g.char then lineEnd false rest
    else if g.char == '#' then lineEnd true rest
    else .error .syntaxError

/-- A block under construction. -/
structure BlockState where
  read : List Char
  /-- The column of its lines, once it is known. -/
  indent : Option Nat
  /-- The farthest column seen while it is not. -/
  reach : Nat
  /-- The break that ended the last line of text. -/
  lead : List Char
  /-- The breaks of the empty lines since then, last one first. -/
  empty : List Char
  /-- The last line of text began with a blank. -/
  blankLine : Bool
  /-- In the middle of a line of text. -/
  inLine : Bool

/-- The text of a block that has ended. -/
def BlockState.finish (chomping : Chomping) (b : BlockState) : String :=
  let ending := match chomping with
    | .strip => []
    | .clip => b.lead
    | .keep => b.empty ++ b.lead
  String.ofList (ending ++ b.read).reverse

/-- A line of text begins with the character `c`. -/
def BlockState.startLine (folds : Bool) (c : Char) (b : BlockState) : BlockState :=
  let blank := isBlank c
  let lead := if folds && b.lead == ['\n'] && !b.blankLine && !blank then
      (if b.empty.isEmpty then [' '] else [])
    else b.lead
  { b with
    read := c :: (b.empty ++ (lead ++ b.read))
    lead := []
    empty := []
    blankLine := blank
    inLine := true }

/-- The lines of a block, behind its header.  Where the header gives no indentation, the first line
of text does, but it is no less than the margin. -/
def scanLines (header : BlockHeader) (margin : Nat) (b : BlockState) :
    List Glyph → Except Problem ScalarScan
  | [] => .ok ⟨b.finish header.chomping, true, []⟩
  | g :: rest =>
    if b.inLine then
      if isBreak g.char then
        scanLines header margin { b with lead := [g.char], inLine := false, reach := 0 } rest
      else scanLines header margin { b with read := g.char :: b.read } rest
    else
      let before := match b.indent with
        | some n => g.column < n
        | none => true
      if before && g.char == ' ' then
        scanLines header margin { b with reach := max b.reach (g.column + 1) } rest
      else if before && g.char == '\t' then .error .syntaxError
      else if isBreak g.char then
        scanLines header margin { b with empty := g.char :: b.empty } rest
      else
        let indent := b.indent.getD (max b.reach (max margin 1))
        if g.column = indent then
          let b := { b with indent := some indent }.startLine header.folds g.char
          scanLines header margin b rest
        else .ok ⟨b.finish header.chomping, true, g :: rest⟩

/-- A block of lines, behind its sign.  An indentation that the header gives counts from the block
around, whose lines begin one column before the margin. -/
def scanBlock (folds : Bool) (margin : Nat) (s : List Glyph) : Except Problem ScalarScan := do
  let (header, s) := blockHeader folds s
  let s ← lineEnd false s
  let indent := header.increment.map (margin - 1 + ·)
  scanLines header margin ⟨[], indent, 0, [], [], false, false⟩ s

end TypedGraphQL.Yaml
