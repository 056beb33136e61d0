import TypedGraphQL.Yaml.Problem

/-!
# Characters with their places

In YAML it matters where a character stands: its column decides what it belongs to.  So a text is
turned into a list of characters with their places before anything is read, and everything later
works on such lists.

## What is here

* `Glyph` — a character, its line, its column and its index.
* `isBlank`, `isBreak` — blanks and line breaks; the end of the text counts as both where a token
  ends (`endsWord`).
* `isLeadingMark` — a byte order mark at the front of a line, which is passed over there.
* `glyphs` — a text as glyphs, every common line break as one newline.
* `isAllowed` — the characters that may stand in a text at all.
-/

set_option autoImplicit false

namespace TypedGraphQL.Yaml

/-- A character with its place. -/
structure Glyph where
  char : Char
  line : Nat
  column : Nat
  index : Nat
  deriving DecidableEq, Repr

/-- A space or a tab. -/
def isBlank (c : Char) : Bool :=
  c == ' ' || c == '\t'

/-- A line break. -/
def isBreak (c : Char) : Bool :=
  c == '\n' || c == '\u2028' || c == '\u2029'

/-- A byte order mark at the front of a line. -/
def isLeadingMark (g : Glyph) : Bool :=
  g.column == 0 && g.char == '\ufeff'

/-- A blank, a line break or the end of the text comes next. -/
def endsWord : List Glyph → Bool
  | [] => true
  | g :: _ => isBlank g.char || isBreak g.char

/-- The character that comes next is one of the given ones. -/
def nextIs (chars : List Char) : List Glyph → Bool
  | [] => false
  | g :: _ => chars.contains g.char

/-- A line of three equal signs, dashes or dots, that separates documents. -/
def isMarker (c : Char) : List Glyph → Bool
  | g₁ :: g₂ :: g₃ :: rest =>
    g₁.column == 0 && g₁.char == c && g₂.char == c && g₃.char == c && endsWord rest
  | _ => false

/-- The start or the end of a document. -/
def isDocumentMarker (s : List Glyph) : Bool :=
  isMarker '-' s || isMarker '.' s

/-- The characters that may stand in a text. -/
def isAllowed (c : Char) : Bool :=
  let n := c.toNat
  n == 0x09 || n == 0x0a || n == 0x0d || n == 0x85 || (0x20 ≤ n && n ≤ 0x7e) ||
    (0xa0 ≤ n && n ≤ 0xfffd) || 0x10000 ≤ n

/-- Every common line break as one newline. -/
def normalizeBreaks : List Char → List Char
  | [] => []
  | '\r' :: '\n' :: rest => '\n' :: normalizeBreaks rest
  | c :: rest => (if c = '\r' ∨ c = '\u0085' then '\n' else c) :: normalizeBreaks rest

/-- Places given to characters, from a place on. -/
def placed (line column index : Nat) : List Char → List Glyph
  | [] => []
  | c :: rest =>
    ⟨c, line, column, index⟩ ::
      if isBreak c then placed (line + 1) 0 (index + 1) rest
      else placed line (column + 1) (index + 1) rest

/-- A text as glyphs. -/
def glyphs (s : String) : Except Problem (List Glyph) :=
  if s.toList.all isAllowed then .ok (placed 0 0 0 (normalizeBreaks s.toList))
  else .error .syntaxError

end TypedGraphQL.Yaml
