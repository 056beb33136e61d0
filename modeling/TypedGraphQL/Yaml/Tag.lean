import TypedGraphQL.Yaml.Scalar

/-!
# Names, tags and directives

Besides its value a node has properties: a name under which it can be mentioned again, and a tag
that says what kind of value it is.  Directives in front of a document declare the handles of tags.

## What is here

* `Tag`, `scanTag` — a tag as it is written, a handle and a suffix.
* `scanAnchor` — the name behind the sign of an anchor or an alias.
* `Directive`, `scanDirective` — a directive.
* `Handles`, `Tag.resolve` — the declared handles, and the tag that is meant.
-/

set_option autoImplicit false

namespace TypedGraphQL.Yaml

/-! ## Names -/

/-- The characters of names. -/
def isNameChar (c : Char) : Bool :=
  c.isAlphanum || c == '_' || c == '-'

/-- The longest name that the text begins with, possibly empty. -/
def scanName (s : List Glyph) : String × List Glyph :=
  (String.ofList ((s.takeWhile (isNameChar ·.char)).map (·.char)),
    s.dropWhile (isNameChar ·.char))

/-- A name behind the sign of an anchor or an alias.  Only a blank or an indicator that cannot begin
a value may follow it. -/
def scanAnchor (s : List Glyph) : Except Problem (String × List Glyph) :=
  let (name, rest) := scanName s
  if name ≠ "" && (endsWord rest || nextIs ['?', ':', ',', ']', '}', '%', '@', '\x60'] rest) then
    .ok (name, rest)
  else .error .syntaxError

/-! ## Tags -/

/-- A tag as it is written. -/
structure Tag where
  /-- The handle, exclamation marks included; empty if the suffix is the whole tag. -/
  handle : String
  suffix : String
  deriving DecidableEq, Repr

/-- The characters of a tag; between angle brackets there are three more. -/
def isTagChar (verbatim : Bool) (c : Char) : Bool :=
  isNameChar c ||
    [';', '/', '?', ':', '@', '&', '=', '+', '$', '.', '!', '~', '*', '\x27', '(', ')'].contains
      c ||
    (verbatim && [',', '[', ']'].contains c)

/-- How many bytes a character has whose first byte is given. -/
def encodedLength? (byte : Nat) : Option Nat :=
  if byte < 0x80 then some 1
  else if byte / 0x20 = 6 then some 2
  else if byte / 0x10 = 14 then some 3
  else if byte / 0x08 = 30 then some 4
  else none

/-- The characters of a tag, of which any byte may be written as a percent sign and two hexadecimal
digits.  `left` bytes of an escaped character are still to come.  An escaped character beyond ASCII
is kept as a replacement character, as no tag that means anything here has one. -/
def scanTagChars (verbatim : Bool) (left : Nat) (read : List Char) :
    List Glyph → Except Problem (String × List Glyph)
  | [] => if left = 0 then .ok (String.ofList read.reverse, []) else .error .syntaxError
  | g :: rest =>
    if g.char == '%' then
      match rest with
      | high :: low :: rest =>
        match hexValue? high.char, hexValue? low.char with
        | some h, some l =>
          let byte := h * 16 + l
          if left = 0 then
            match encodedLength? byte with
            | some n =>
              let c := if n = 1 then Char.ofNat byte else '\ufffd'
              scanTagChars verbatim (n - 1) (c :: read) rest
            | none => .error .syntaxError
          else if byte / 0x40 = 2 then scanTagChars verbatim (left - 1) read rest
          else .error .syntaxError
        | _, _ => .error .syntaxError
      | _ => .error .syntaxError
    else if left ≠ 0 then .error .syntaxError
    else if isTagChar verbatim g.char then scanTagChars verbatim 0 (g.char :: read) rest
    else .ok (String.ofList read.reverse, g :: rest)

/-- At least one character of a tag. -/
def scanTagText (verbatim : Bool) (s : List Glyph) : Except Problem (String × List Glyph) := do
  let (text, rest) ← scanTagChars verbatim 0 [] s
  if text = "" then .error .syntaxError else .ok (text, rest)

/-- A tag behind its first exclamation mark, without a look at what follows. -/
def scanTagBody (s : List Glyph) : Except Problem (Tag × List Glyph) := do
  if nextIs ['<'] s then
    let (text, rest) ← scanTagText true s.tail
    if nextIs ['>'] rest then .ok (⟨"", text⟩, rest.tail) else .error .syntaxError
  else
    let (name, rest) := scanName s
    if nextIs ['!'] rest then
      let (text, rest) ← scanTagText false rest.tail
      .ok (⟨"!" ++ name ++ "!", text⟩, rest)
    else
      let (text, rest) ← scanTagChars false 0 [] rest
      if name ++ text = "" then .ok (⟨"", "!"⟩, rest) else .ok (⟨"!", name ++ text⟩, rest)

/-- A tag behind its first exclamation mark; a blank follows it, or a comma inside brackets. -/
def scanTag (inFlow : Bool) (s : List Glyph) : Except Problem (Tag × List Glyph) := do
  let (tag, rest) ← scanTagBody s
  if endsWord rest || (inFlow && nextIs [','] rest) then .ok (tag, rest) else .error .syntaxError

/-! ## Directives -/

/-- A line that says how the document behind it is written. -/
inductive Directive
  /-- The version of the language. -/
  | version (major minor : Nat)
  /-- A handle of tags, and the text it stands for. -/
  | handle (name text : String)
  deriving DecidableEq, Repr

/-- What follows the blanks. -/
def skipBlanks (s : List Glyph) : List Glyph :=
  s.dropWhile (isBlank ·.char)

/-- One of the two numbers of a version, of at most nine digits. -/
def scanVersionNumber (s : List Glyph) : Except Problem (Nat × List Glyph) :=
  let digits := s.takeWhile (·.char.isDigit)
  if digits.length = 0 ∨ 9 < digits.length then .error .syntaxError
  else .ok (digits.foldl (fun n g => n * 10 + (g.char.toNat - 48)) 0, s.dropWhile (·.char.isDigit))

/-- The version of the language. -/
def scanVersion (s : List Glyph) : Except Problem (Directive × List Glyph) := do
  let (major, rest) ← scanVersionNumber (skipBlanks s)
  if nextIs ['.'] rest then
    let (minor, rest) ← scanVersionNumber rest.tail
    .ok (.version major minor, rest)
  else .error .syntaxError

/-- A handle of tags, and the text it stands for. -/
def scanHandle (s : List Glyph) : Except Problem (Directive × List Glyph) := do
  let s := skipBlanks s
  if nextIs ['!'] s then
    let (name, rest) := scanName s.tail
    let closed := nextIs ['!'] rest
    let rest := if closed then rest.tail else rest
    if (closed || name = "") && rest.head?.any (isBlank ·.char) then
      let (text, rest) ← scanTagText true (skipBlanks rest)
      if endsWord rest then .ok (.handle ("!" ++ name ++ (if closed then "!" else "")) text, rest)
      else .error .syntaxError
    else .error .syntaxError
  else .error .syntaxError

/-- A directive behind its percent sign, to the end of its line. -/
def scanDirective (s : List Glyph) : Except Problem (Directive × List Glyph) := do
  let (name, rest) := scanName s
  let (directive, rest) ←
    if name = "YAML" ∧ endsWord rest then scanVersion rest
    else if name = "TAG" ∧ endsWord rest then scanHandle rest
    else .error .syntaxError
  return (directive, ← lineEnd false rest)

/-! ## What tags mean -/

/-- Handles and the texts they stand for. -/
abbrev Handles := List (String × String)

/-- The handles that need no declaration. -/
def Handles.predeclared : Handles :=
  [("!", "!"), ("!!", "tag:yaml.org,2002:")]

/-- The tag that is meant.  Its handle must be declared. -/
def Tag.resolve (handles : Handles) (tag : Tag) : Except Problem String :=
  if tag.handle = "" then .ok tag.suffix
  else
    match handles.lookup tag.handle with
    | some text => .ok (text ++ tag.suffix)
    | none => .error .syntaxError

end TypedGraphQL.Yaml
