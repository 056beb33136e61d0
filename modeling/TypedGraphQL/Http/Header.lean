import TypedGraphQL.Ordered

/-!
# Headers of HTTP

A request carries headers: values under names.  The name of a header is a token, in which case does
not matter, and its value a line of text.

## What is here

* `headerName?` — a name in small letters, if it is a token; `isHeaderValue` — whether a value can
  be sent.
* `HeaderError` — a header that cannot be sent.
* `Headers` — the headers of a request, in the order of their names.
* `Headers.ofEntries` — the headers made of configured entries.
-/

set_option autoImplicit false

namespace TypedGraphQL.Http

/-- The characters of a token. -/
def isTokenChar (c : Char) : Bool :=
  c.isAlphanum || ['!', '#', '$', '%', '&', '\x27', '*', '+', '-', '.', '^', '_', '\x60', '|',
    '~'].contains c

/-- The longest name of a header. -/
def maxNameLength : Nat := 65535

/-- The name of a header in small letters; `none` if it is not a token. -/
def headerName? (name : String) : Option String :=
  if name ≠ "" ∧ name.toList.all isTokenChar ∧ name.length ≤ maxNameLength then
    some (String.ofList (name.toList.map Char.toLower))
  else none

/-- The value can be sent: it holds no control character but the tab. -/
def isHeaderValue (value : String) : Bool :=
  value.toList.all fun c => c == '\t' || (32 ≤ c.toNat && c.toNat ≠ 127)

/-- A header that cannot be sent. -/
inductive HeaderError
  | badName (name : String)
  | badValue (name : String)
  deriving DecidableEq, Repr

/-- The reason in words. -/
def HeaderError.message : HeaderError → String
  | badName name => "Invalid header name " ++ name ++ ": invalid HTTP header name"
  | badValue name => "Invalid value for header " ++ name ++ ": failed to parse header value"

/-- Headers in the order of their names. -/
abbrev Headers := List (String × String)

namespace Headers

/-- Adds a configured entry; a header of that name is replaced. -/
def add (headers : Headers) (entry : String × String) : Except HeaderError Headers :=
  match headerName? entry.1 with
  | none => .error (.badName entry.1)
  | some name =>
    if isHeaderValue entry.2 then .ok (insertEntry name entry.2 headers)
    else .error (.badValue entry.1)

/-- The headers made of configured entries, taken one after the other. -/
def ofEntries (entries : List (String × String)) : Except HeaderError Headers :=
  entries.foldlM add []

end Headers

end TypedGraphQL.Http
