import TypedGraphQL.Text.Escaped

/-!
# Text quoted in a message

A message may show a piece of foreign text.  It is then put between quotes, with a backslash
before quotes and backslashes, the usual letters for the common controls, and the code point in
hexadecimal for every other character that is not shown as itself.
-/

set_option autoImplicit false

namespace TypedGraphQL.Text

/-- The number in hexadecimal, in small letters and without leading zeros. -/
def hexadecimal (n : Nat) : List Char :=
  Nat.toDigits 16 n

/-- One character of a quoted text. -/
def quotedChar (c : Char) : List Char :=
  match c with
  | '"' => ['\\', '"']
  | '\\' => ['\\', '\\']
  | '\n' => ['\\', 'n']
  | '\r' => ['\\', 'r']
  | '\t' => ['\\', 't']
  | '\x00' => ['\\', '0']
  | c => if isHidden c then ['\\', 'u', '{'] ++ hexadecimal c.toNat ++ ['}'] else [c]

/-- The text between quotes. -/
def quoted (s : String) : String :=
  String.ofList ('"' :: s.toList.flatMap quotedChar ++ ['"'])

end TypedGraphQL.Text
