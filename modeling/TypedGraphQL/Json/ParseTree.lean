import TypedGraphQL.Json.Token

/-!
# The parse tree of a text

A reader of JSON text notices a flaw only when it gets there, and what it expects by then may have
made it stop already.  So the text is not accepted or refused as a whole.  It is turned into a tree
as far as it goes, and the place where it breaks is a leaf of that tree; whoever reads the tree from
left to right meets the same problems in the same order as a reader of the text.

## What is here

* `ParseTree` — the trees.  An array or object that was not closed carries the damage that ended
  the text, so a reader who skips it need not look inside.
* `Builder` — a tree under construction, with the containers still open around it, innermost
  first; `Builder.step` adds a token and `Builder.finish` ends the text.
* `parse` — the tree of a text, and whether something follows it.
* `ParseTree.ofJson` — a value as a tree without damage.
-/

set_option autoImplicit false

namespace TypedGraphQL.Json

/-- JSON text as far as it goes.  A key, a string or a number is `none` if it cannot be read. -/
inductive ParseTree
  | null
  | bool (b : Bool)
  | number (n : Option Number)
  | str (s : Option String)
  | array (items : List ParseTree) (unclosed : Option Damage)
  | object (members : List (Option String × ParseTree)) (unclosed : Option Damage)
  | broken (d : Damage)

namespace ParseTree

/-- The flaw that is met when the tree is skipped. -/
def skip? : ParseTree → Option Flaw
  | array _ unclosed => unclosed.map (·.whenSkipped)
  | object _ unclosed => unclosed.map (·.whenSkipped)
  | broken d => some d.whenSkipped
  | _ => none

mutual

/-- A value as a tree. -/
def ofJson : Json → ParseTree
  | .null => .null
  | .bool b => .bool b
  | .number n => .number (some n)
  | .str s => .str (some s)
  | .arr items => .array (ofItems items) none
  | .obj members => .object (ofMembers members) none

/-- The trees of some values. -/
def ofItems : List Json → List ParseTree
  | [] => []
  | v :: rest => ofJson v :: ofItems rest

/-- The trees of some members. -/
def ofMembers : List (String × Json) → List (Option String × ParseTree)
  | [] => []
  | (k, v) :: rest => (some k, ofJson v) :: ofMembers rest

end

end ParseTree

/-! ## Building a tree -/

/-- A container that waits for a value.  Items and members are kept last one first. -/
inductive Frame
  | item (items : List ParseTree)
  | member (members : List (Option String × ParseTree)) (key : Option String)

/-- A tree under construction: what is due next, inside which containers. -/
inductive Builder
  /-- A value. -/
  | value (around : List Frame)
  /-- The first item of an array, or its end. -/
  | firstItem (around : List Frame)
  /-- A comma in an array, or its end. -/
  | afterItem (items : List ParseTree) (around : List Frame)
  /-- The first key of an object, or its end. -/
  | firstKey (around : List Frame)
  /-- A further key of an object. -/
  | nextKey (members : List (Option String × ParseTree)) (around : List Frame)
  /-- The colon behind a key. -/
  | afterKey (members : List (Option String × ParseTree)) (key : Option String)
      (around : List Frame)
  /-- A comma in an object, or its end. -/
  | afterMember (members : List (Option String × ParseTree)) (around : List Frame)
  /-- Nothing.  `trailing` says whether something came nevertheless. -/
  | complete (tree : ParseTree) (trailing : Bool)

namespace Builder

/-- A finished value goes into the innermost container. -/
def put (tree : ParseTree) : List Frame → Builder
  | [] => complete tree false
  | .item items :: around => afterItem (tree :: items) around
  | .member members key :: around => afterMember ((key, tree) :: members) around

/-- The text breaks off in `tree`, and with it every container around. -/
def abandon (d : Damage) (tree : ParseTree) : List Frame → ParseTree
  | [] => tree
  | .item items :: around => abandon d (.array (tree :: items).reverse (some d)) around
  | .member members key :: around =>
    abandon d (.object ((key, tree) :: members).reverse (some d)) around

/-- The text breaks off where a value is due. -/
def breakValue (d : Damage) (around : List Frame) : ParseTree :=
  abandon d (.broken d) around

/-- The text breaks off in an array. -/
def breakArray (d : Damage) (items : List ParseTree) (around : List Frame) : ParseTree :=
  abandon d (.array items.reverse (some d)) around

/-- The text breaks off in an object. -/
def breakObject (d : Damage) (members : List (Option String × ParseTree)) (around : List Frame) :
    ParseTree :=
  abandon d (.object members.reverse (some d)) around

/-- A token where a value is due. -/
def startValue (t : Token) (around : List Frame) : Builder :=
  match t with
  | .null => put .null around
  | .bool b => put (.bool b) around
  | .number n => put (.number n) around
  | .str s => put (.str s) around
  | .openArray => firstItem around
  | .openObject => firstKey around
  | .brokenStr d => complete (breakValue d around) false
  | .broken d => complete (breakValue d around) false
  | _ => complete (breakValue (.plain .malformed) around) false

/-- A token where a key is due. -/
def startKey (t : Token) (members : List (Option String × ParseTree)) (around : List Frame) :
    Builder :=
  match t with
  | .str s => afterKey members s around
  | .brokenStr d => complete (breakObject d members around) false
  | _ => complete (breakObject (.plain .malformed) members around) false

/-- The next token. -/
def step (state : Builder) (t : Token) : Builder :=
  match state with
  | value around => startValue t around
  | firstItem around =>
    match t with
    | .closeArray => put (.array [] none) around
    | t => startValue t (.item [] :: around)
  | afterItem items around =>
    match t with
    | .comma => value (.item items :: around)
    | .closeArray => put (.array items.reverse none) around
    | _ => complete (breakArray (.plain .malformed) items around) false
  | firstKey around =>
    match t with
    | .closeObject => put (.object [] none) around
    | t => startKey t [] around
  | nextKey members around => startKey t members around
  | afterKey members key around =>
    match t with
    | .colon => value (.member members key :: around)
    | _ => complete (breakValue (.plain .malformed) (.member members key :: around)) false
  | afterMember members around =>
    match t with
    | .comma => nextKey members around
    | .closeObject => put (.object members.reverse none) around
    | _ => complete (breakObject (.plain .malformed) members around) false
  | complete tree _ => complete tree true

/-- The end of the text: the tree, and whether something followed it. -/
def finish : Builder → ParseTree × Bool
  | value around => (breakValue (.plain .endsEarly) around, false)
  | firstItem around => (breakArray (.plain .endsEarly) [] around, false)
  | afterItem items around => (breakArray (.plain .endsEarly) items around, false)
  | firstKey around => (breakObject (.plain .endsEarly) [] around, false)
  | nextKey members around => (breakObject (.plain .endsEarly) members around, false)
  | afterKey members key around =>
    (breakValue (.plain .endsEarly) (.member members key :: around), false)
  | afterMember members around => (breakObject (.plain .endsEarly) members around, false)
  | complete tree trailing => (tree, trailing)

/-- Takes the tokens of the bytes one after the other. -/
def run (state : Builder) (s : Bytes) : Builder :=
  match _h : nextToken? s with
  | none => state
  | some (t, rest) => run (state.step t) rest
termination_by s.length
decreasing_by exact nextToken?_shorter (by assumption)

theorem run_of_none {state : Builder} {s : Bytes} (h : nextToken? s = none) :
    run state s = state := by
  rw [run]
  split
  · rfl
  · simp_all

theorem run_of_some {state : Builder} {s rest : Bytes} {t : Token}
    (h : nextToken? s = some (t, rest)) : run state s = run (state.step t) rest := by
  rw [run]
  split <;> simp_all

end Builder

/-- The tree of a text, and whether something other than blanks follows it. -/
def parse (s : Bytes) : ParseTree × Bool :=
  ((Builder.value []).run s).finish

end TypedGraphQL.Json
