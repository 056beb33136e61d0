/-!
# Names in a document

A name is a letter or underscore followed by letters, digits and underscores, all of them ASCII.
-/

set_option autoImplicit false

namespace TypedGraphQL.Document

/-- The character may begin a name. -/
def isNameStart (c : Char) : Bool :=
  c == '_' || c.isAlpha

/-- The character may stand in a name. -/
def isNameChar (c : Char) : Bool :=
  c == '_' || c.isAlphanum

/-- The characters are a name. -/
def isNameChars : List Char → Bool
  | [] => false
  | c :: rest => isNameStart c && rest.all isNameChar

/-- The string is a name. -/
def isName (s : String) : Bool :=
  isNameChars s.toList

theorem isNameChar_of_isNameStart {c : Char} (h : isNameStart c = true) : isNameChar c = true := by
  simp only [isNameStart, isNameChar, Char.isAlphanum, Bool.or_eq_true] at *
  exact h.imp_right Or.inl

theorem isNameChars_cons {c : Char} {rest : List Char} :
    isNameChars (c :: rest) = true ↔ isNameStart c = true ∧ ∀ d ∈ rest, isNameChar d = true := by
  simp [isNameChars]

end TypedGraphQL.Document
