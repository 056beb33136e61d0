import TypedGraphQL.Json.Value

/-!
# Writing an object entry by entry

An object can be written without being at hand as a value.  Whoever has its entries announces how
many there are, hands them over one after the other and then says that there are no more.  What
comes of it is up to the writer.

## What is here

* `ObjectWriter` — a writer of objects; `ObjectWriter.write` hands all entries to it.
* `ObjectWriter.collect` — collects the entries in a value.
* `ObjectWriter.compact` — writes the compact text.  It trusts the number that is announced: if this
  is 0, it closes the object at once.
-/

set_option autoImplicit false

namespace TypedGraphQL.Json

/-- A writer of objects, whose state is of type `σ` and whose results are of type `τ`. -/
structure ObjectWriter (σ τ : Type) where
  /-- Begins an object with the announced number of entries. -/
  start : (length : Nat) → σ
  entry : σ → (key : String) → Json → σ
  finish : σ → τ

namespace ObjectWriter

/-- Hands the entries to a writer. -/
def write {σ τ : Type} (w : ObjectWriter σ τ) (entries : List (String × Json)) : τ :=
  w.finish (entries.foldl (fun state e => w.entry state e.1 e.2) (w.start entries.length))

/-- Collects the entries in an object. -/
def collect : ObjectWriter (List (String × Json)) Json where
  start _ := []
  entry done key v := insertEntry key v done
  finish := .obj

/-- How far the text of an object has come. -/
inductive Stage
  /-- The object is closed already. -/
  | closed
  /-- No entry has been written. -/
  | first
  | further
  deriving DecidableEq, Repr

/-- Writes the compact text. -/
def compact : ObjectWriter (List Char × Stage) String where
  start length := if length = 0 then (['{', '}'], .closed) else (['{'], .first)
  entry state key v :=
    (state.1 ++ (if state.2 = .first then [] else [',']) ++ writeString key ++ ':' :: v.write,
      .further)
  finish state := String.ofList (if state.2 = .closed then state.1 else state.1 ++ ['}'])

end ObjectWriter

end TypedGraphQL.Json
