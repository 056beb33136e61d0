import TypedGraphQL.Text.Alphabetic
import TypedGraphQL.Text.CaseMapping

/-!
# Names of fields

A field is declared under an identifier, written either in MixedCaps (`DatabaseID`) or in
snake_case (`database_id`).  A server knows it under the lowerCamelCase name (`databaseId`).  This
module splits an identifier into words and joins the words again.

## What is here

* `Name` — the words of an identifier, and what stands before the first letter.
* `Name.ofIdent` — the split.  What is not a letter at the front is kept apart, underscores
  separate segments, and a segment is cut into words by `segmentWords`.
* `endsWord` — where a word ends: before the capital that follows a small letter or a number, and
  before the last capital of a run that goes on in small letters (`HTTPServer`).
* `splitInitialisms` — a word of capitals such as `HTTPURL` is cut once more if both halves are
  listed initialisms.
* `Name.lowerCamel`, `lowerCamel` — the joined name.

Everything works on lists of characters; `lowerCamel` is the entry for strings.
-/

set_option autoImplicit false

namespace TypedGraphQL

open Text

/-- A word of an identifier. -/
abbrev Word := List Char

/-- An identifier in words: `lead` is what stands before its first letter. -/
structure Name where
  lead : List Char
  words : List Word
  deriving DecidableEq, Repr

namespace Name

/-! ## Initialisms -/

/-- The words that are written in capitals throughout. -/
def initialisms : List Word :=
  ["ACL", "API", "ASCII", "CPU", "CSS", "DNS", "EOF", "GUID", "HTML", "HTTP", "HTTPS", "ID",
    "IP", "JSON", "LHS", "QPS", "RAM", "RHS", "RPC", "SLA", "SMTP", "SQL", "SSH", "TCP", "TLS",
    "TTL", "UDP", "UI", "UID", "UUID", "URI", "URL", "UTF8", "VM", "XML", "XMPP", "XSRF",
    "XSS"].map String.toList

/-- An ASCII capital or digit: what an initialism is written with. -/
def isInitialismChar (c : Char) : Bool :=
  c.isUpper || c.isDigit

/-- The shortest first part, of two characters or more, that leaves two initialisms. -/
def initialismCut? (word : Word) : Option Nat :=
  (List.range' 2 (word.length - 3)).find? fun i =>
    initialisms.contains (word.take i) && initialisms.contains (word.drop i)

/-- A word of capitals made of two initialisms, as the two; any other word as it is. -/
def splitInitialisms (word : Word) : List Word :=
  if word.all isInitialismChar then
    match initialismCut? word with
    | some i => [word.take i, word.drop i]
    | none => [word]
  else [word]

/-! ## The end of a word -/

/-- A word ends between `c` and the characters that follow it in its segment.  `IDs` is the plural
of an initialism and not `I` followed by `Ds`. -/
def endsWord (c : Char) : List Char → Bool
  | [] => true
  | [d] => (isLowercase c || isNumber c) && isUppercase d
  | d :: e :: _ =>
    ((isLowercase c || isNumber c) && isUppercase d) ||
      (isUppercase c && isUppercase d && isLowercase e && !(c == 'I' && d == 'D' && e == 's'))

/-- Puts a character in front of the first piece. -/
def extendFirst (c : Char) : List Word → List Word
  | [] => [[c]]
  | piece :: pieces => (c :: piece) :: pieces

/-- A segment cut at every end of a word. -/
def pieces : List Char → List Word
  | [] => []
  | c :: rest => if endsWord c rest then [c] :: pieces rest else extendFirst c (pieces rest)

/-- The words of a segment without underscores. -/
def segmentWords (segment : List Char) : List Word :=
  (pieces segment).flatMap splitInitialisms

/-! ## Splitting and joining -/

/-- The segments between underscores, empty ones left out. -/
def segments (body : List Char) : List (List Char) :=
  (body.splitOn '_').filter (· ≠ [])

/-- The words of an identifier. -/
def ofIdent (ident : List Char) : Name where
  lead := ident.takeWhile (!isAlphabetic ·)
  words := (segments (ident.dropWhile (!isAlphabetic ·))).flatMap segmentWords

/-- A word with a leading capital, the rest in small letters. -/
def capitalize : Word → List Char
  | [] => []
  | c :: rest => upperChar c ++ lower rest

/-- The words joined: the first in small letters, each further one with a leading capital. -/
def lowerCamel (n : Name) : List Char :=
  match n.words with
  | [] => n.lead
  | first :: rest => n.lead ++ lower first ++ rest.flatMap capitalize

end Name

/-- The lowerCamelCase name of an identifier. -/
def lowerCamel (ident : String) : String :=
  String.ofList (Name.ofIdent ident.toList).lowerCamel

end TypedGraphQL
