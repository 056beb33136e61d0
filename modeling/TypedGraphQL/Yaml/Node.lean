import TypedGraphQL.Ordered
import TypedGraphQL.Yaml.Token

/-!
# Nodes

A document is a tree of nodes.  A node may have an anchor, and an alias elsewhere in the document
stands for the node of that anchor, even inside that very node; so aliases stay in the tree.

## What is here

* `Node` — the nodes; `Node.empty` — what stands where nothing is written.
* `Reader` — the tokens that are left, and the anchors and handles known so far.
* `readNode`, … — the grammar of nodes.  Each function takes the tokens that belong to it and gives
  back what it has read together with the reader behind it.
* `Tree`, `Tree.ofText` — the one document of a text.
* `Tree.resolve` — the node that a node stands for.
-/

set_option autoImplicit false

namespace TypedGraphQL.Yaml

/-- A node. -/
inductive Node
  | scalar (style : Style) (tag : Option String) (text : String)
  | sequence (items : List Node)
  | mapping (entries : List (Node × Node))
  /-- The node of an anchor, which has a number. -/
  | reference (number : Nat)
  /-- A node with an anchor. -/
  | anchored (number : Nat) (node : Node)

/-- What stands where nothing is written. -/
def Node.empty : Node :=
  scalar .plain none ""

/-- The tokens that are left, and what is known from those before. -/
structure Reader where
  tokens : List Token
  /-- The numbers of the anchors. -/
  anchors : List (String × Nat) := []
  handles : Handles

namespace Reader

/-- The reader behind its next token. -/
def skip (r : Reader) : Reader :=
  { r with tokens := r.tokens.tail }

/-- One of some tokens comes next. -/
def nextIn (stops : List Token) (r : Reader) : Bool :=
  match r.tokens with
  | [] => false
  | t :: _ => stops.contains t

end Reader

/-! ## Properties -/

/-- The anchor and the tag of a node. -/
structure Properties where
  anchor : Option Nat := none
  tag : Option String := none

/-- The node has no properties. -/
def Properties.isEmpty (p : Properties) : Bool :=
  p.anchor.isNone && p.tag.isNone

/-- A node with the anchor of the properties. -/
def Properties.attach (p : Properties) (node : Node) : Node :=
  match p.anchor with
  | none => node
  | some number => .anchored number node

/-- An anchor, if one comes next.  Its number is how many names of anchors there are before it. -/
def readAnchor (p : Properties) (r : Reader) : Properties × Reader :=
  match r.tokens with
  | .anchor name :: _ =>
    let number := r.anchors.length
    ({ p with anchor := some number },
      { r.skip with anchors := insertEntry name number r.anchors })
  | _ => (p, r)

/-- A tag, if one comes next. -/
def readTag (p : Properties) (r : Reader) : Except Problem (Properties × Reader) :=
  match r.tokens with
  | .tag t :: _ => do return ({ p with tag := some (← t.resolve r.handles) }, r.skip)
  | _ => return (p, r)

/-- An anchor and a tag, in either order. -/
def readProperties (r : Reader) : Except Problem (Properties × Reader) := do
  let (p, r) := readAnchor {} r
  let (p, r) ← readTag p r
  return if p.anchor.isNone then readAnchor p r else (p, r)

/-- A node of which only its properties are written. -/
def readNothing (p : Properties) (r : Reader) : Except Problem (Node × Reader) :=
  if p.isEmpty then .error .syntaxError else .ok (.scalar .plain p.tag "", r)

/-! ## The grammar

The functions recur on a bound for the number of their calls.  Of four calls in a row at least one
takes a token, so the number of tokens gives such a bound. -/

/-- What may follow an item or an entry of a block. -/
def blockStops : List Token :=
  [.item, .key, .value, .blockEnd]

mutual

/-- A node.  A block may begin only if `block` says so, and items that are not indented only if
`flat` does. -/
def readNode (block flat : Bool) (r : Reader) : Nat → Except Problem (Node × Reader)
  | 0 => .error .syntaxError
  | fuel + 1 =>
    match r.tokens with
    | .reference name :: _ =>
      match lookup? name r.anchors with
      | some number => .ok (.reference number, r.skip)
      | none => .error (.unknownAlias name)
    | _ => do
      let (p, r) ← readProperties r
      let (node, r) ←
        match r.tokens with
        | .scalar style text :: _ => Except.ok (Node.scalar style p.tag text, r.skip)
        | .openBracket :: _ => readFlowItems true [] r.skip fuel
        | .openBrace :: _ => readFlowEntries true [] r.skip fuel
        | .item :: _ => if flat then readFlatItems [] r fuel else readNothing p r
        | .blockSequence :: _ => if block then readItems [] r.skip fuel else readNothing p r
        | .blockMapping :: _ => if block then readEntries [] r.skip fuel else readNothing p r
        | _ => readNothing p r
      return (p.attach node, r)

/-- A node, or nothing where one of some tokens comes next. -/
def readNode? (stops : List Token) (block flat : Bool) (r : Reader) :
    Nat → Except Problem (Node × Reader)
  | 0 => .error .syntaxError
  | fuel + 1 => if r.nextIn stops then .ok (.empty, r) else readNode block flat r fuel

/-- The value of a key, if its sign comes next. -/
def readValue (stops : List Token) (block : Bool) (r : Reader) :
    Nat → Except Problem (Node × Reader)
  | 0 => .error .syntaxError
  | fuel + 1 =>
    if r.nextIn [.value] then readNode? stops block block r.skip fuel else .ok (.empty, r)

/-- The items of a block, behind those that are given, last one first. -/
def readItems (items : List Node) (r : Reader) : Nat → Except Problem (Node × Reader)
  | 0 => .error .syntaxError
  | fuel + 1 =>
    match r.tokens with
    | .item :: _ => do
      let (node, r) ← readNode? [.item, .blockEnd] true false r.skip fuel
      readItems (node :: items) r fuel
    | .blockEnd :: _ => .ok (.sequence items.reverse, r.skip)
    | _ => .error .syntaxError

/-- Items that are not indented, the value of a key. -/
def readFlatItems (items : List Node) (r : Reader) : Nat → Except Problem (Node × Reader)
  | 0 => .error .syntaxError
  | fuel + 1 =>
    match r.tokens with
    | .item :: _ => do
      let (node, r) ← readNode? blockStops true false r.skip fuel
      readFlatItems (node :: items) r fuel
    | _ => .ok (.sequence items.reverse, r)

/-- The entries of a block. -/
def readEntries (entries : List (Node × Node)) (r : Reader) :
    Nat → Except Problem (Node × Reader)
  | 0 => .error .syntaxError
  | fuel + 1 =>
    match r.tokens with
    | .key :: _ => do
      let (key, r) ← readNode? [.key, .value, .blockEnd] true true r.skip fuel
      let (value, r) ← readValue [.key, .value, .blockEnd] true r fuel
      readEntries ((key, value) :: entries) r fuel
    | .blockEnd :: _ => .ok (.mapping entries.reverse, r.skip)
    | _ => .error .syntaxError

/-- The items between brackets, one of which may be a single entry.  A comma separates them, and one
may follow the last. -/
def readFlowItems (first : Bool) (items : List Node) (r : Reader) :
    Nat → Except Problem (Node × Reader)
  | 0 => .error .syntaxError
  | fuel + 1 =>
    if r.nextIn [.closeBracket] then .ok (.sequence items.reverse, r.skip)
    else if first || r.nextIn [.comma] then
      let r := if first then r else r.skip
      match r.tokens with
      | .closeBracket :: _ => .ok (.sequence items.reverse, r.skip)
      | .key :: _ => do
        let (node, r) ← readPair r.skip fuel
        readFlowItems false (node :: items) r fuel
      | _ => do
        let (node, r) ← readNode false false r fuel
        readFlowItems false (node :: items) r fuel
    else .error .syntaxError

/-- A single entry between brackets.  If its key is empty, the token behind takes its place. -/
def readPair (r : Reader) : Nat → Except Problem (Node × Reader)
  | 0 => .error .syntaxError
  | fuel + 1 => do
    let (key, r) ←
      if r.nextIn [.value, .comma, .closeBracket] then Except.ok (Node.empty, r.skip)
      else readNode false false r fuel
    let (value, r) ← readValue [.comma, .closeBracket] false r fuel
    return (.mapping [(key, value)], r)

/-- The entries between braces. -/
def readFlowEntries (first : Bool) (entries : List (Node × Node)) (r : Reader) :
    Nat → Except Problem (Node × Reader)
  | 0 => .error .syntaxError
  | fuel + 1 =>
    if r.nextIn [.closeBrace] then .ok (.mapping entries.reverse, r.skip)
    else if first || r.nextIn [.comma] then
      let r := if first then r else r.skip
      match r.tokens with
      | .closeBrace :: _ => .ok (.mapping entries.reverse, r.skip)
      | .key :: _ => do
        let (key, r) ← readNode? [.value, .comma, .closeBrace] false false r.skip fuel
        let (value, r) ← readValue [.comma, .closeBrace] false r fuel
        readFlowEntries false ((key, value) :: entries) r fuel
      | _ => do
        let (key, r) ← readNode false false r fuel
        readFlowEntries false ((key, .empty) :: entries) r fuel
    else .error .syntaxError

end

/-! ## Documents -/

/-- A document, as the tree of its nodes. -/
structure Tree where
  root : Node

/-- The directives in front of a document: at most one version, which must be a known one, and no
handle twice. -/
def readDirectives (version : Bool) (handles : Handles) : List Token → Except Problem Reader
  | .directive (.version major minor) :: rest =>
    if version || major ≠ 1 || (minor ≠ 1 && minor ≠ 2) then .error .syntaxError
    else readDirectives true handles rest
  | .directive (.handle name text) :: rest =>
    if (handles.lookup name).isSome then .error .syntaxError
    else readDirectives version (handles ++ [(name, text)]) rest
  | rest => .ok { tokens := rest, handles := handles ++ .predeclared }

/-- The content of a document.  If the document has directives or is marked, nothing may be written
in it. -/
def readContent (r : Reader) (fuel : Nat) : Except Problem (Node × Reader) :=
  match r.tokens with
  | .documentStart :: rest =>
    match rest with
    | [] | .documentStart :: _ | .documentEnd :: _ | .directive _ :: _ => .ok (.empty, r.skip)
    | _ => readNode true false r.skip fuel
  | _ => readNode true false r fuel

/-- The one document of a row of tokens. -/
def Tree.ofTokens (tokens : List Token) : Except Problem Tree := do
  if tokens.isEmpty then .error .documentCount
  else
    let r ← readDirectives false [] tokens
    if r.tokens.length < tokens.length && !r.nextIn [.documentStart] then .error .syntaxError
    else
      let (root, r) ← readContent r (4 * tokens.length + 4)
      if (r.tokens.dropWhile (· == .documentEnd)).isEmpty then .ok ⟨root⟩
      else .error .documentCount

/-- The one document of a text. -/
def Tree.ofText (text : String) : Except Problem Tree := do
  Tree.ofTokens (← tokens text)

/-! ## Aliases -/

mutual

/-- The nodes with anchors in a node, in the order of the text, in front of further ones. -/
def Node.anchors (rest : List (Nat × Node)) : Node → List (Nat × Node)
  | .anchored number node => (number, node) :: node.anchors rest
  | .sequence items => anchorsOfItems rest items
  | .mapping entries => anchorsOfEntries rest entries
  | .scalar .. | .reference _ => rest

/-- The nodes with anchors in some nodes. -/
def anchorsOfItems (rest : List (Nat × Node)) : List Node → List (Nat × Node)
  | [] => rest
  | node :: nodes => node.anchors (anchorsOfItems rest nodes)

/-- The nodes with anchors in some entries. -/
def anchorsOfEntries (rest : List (Nat × Node)) : List (Node × Node) → List (Nat × Node)
  | [] => rest
  | (key, value) :: entries => key.anchors (value.anchors (anchorsOfEntries rest entries))

end

namespace Tree

/-- The node that a node stands for: of the nodes with the number of an alias the last one. -/
def resolve (t : Tree) : Node → Node
  | .anchored _ node => node
  | .reference number => ((t.root.anchors []).reverse.lookup number).getD .empty
  | node => node

end Tree

end TypedGraphQL.Yaml
