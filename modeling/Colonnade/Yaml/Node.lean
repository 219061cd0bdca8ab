import Colonnade.Encoding.Basic
import Colonnade.Yaml.Token

/-!
# Documents of YAML

A document is a `Node`: a scalar, a sequence or a mapping, whatever style it is written in.

* A scalar keeps whether it is plain, as only a plain one may stand for null.
* An anchor names a node, and an alias stands for the node that was named last.
* Tags do not change what a node is.

`Node.ofBytes` reads a text that has one document; a text without any stands for a plain scalar
without characters.
-/

namespace Colonnade.Yaml

/-- **A node of a document.** -/
inductive Node where
  | scalar (text : String) (isPlain : Bool)
  | sequence (items : List Node)
  | mapping (entries : List (Node × Node))
deriving Inhabited

namespace Node

/-- The node of nothing at all. -/
def empty : Node := .scalar "" true

/-- The words for null. -/
def nullWords : List String := ["null", "Null", "NULL", "~"]

/-- The node is nothing at all. -/
def isEmpty : Node → Bool
  | scalar text isPlain => isPlain && text.isEmpty
  | _ => false

/-- **The node stands for null.** -/
def isNull : Node → Bool
  | scalar text isPlain => isPlain && (text.isEmpty || nullWords.contains text)
  | _ => false

end Node

/-- The number of collections inside each other that a document may have. -/
def maxDepth : Nat := 128

/-- **What is left to read**: the tokens, and the nodes that have names, the last one first. -/
structure Reading where
  tokens : List Token
  anchors : List (String × Node) := []
deriving Inhabited

/-- A step of reading nodes. -/
abbrev ReadM := StateT Reading (Except String)

namespace ReadM

/-- The next token. -/
def peek : ReadM (Option Token) := do
  return (← get).tokens.head?

/-- Goes on by a token. -/
def advance : ReadM Unit :=
  modify fun r => { r with tokens := r.tokens.drop 1 }

/-- Goes on by the given token, if it comes next. -/
def take (t : Token) : ReadM Bool := do
  if (← peek) = some t then
    advance
    return true
  else return false

/-- Stops the reading. -/
def fail {α : Type} (reason : String) : ReadM α :=
  fun _ => .error reason

/-- Goes on by the given token, which has to come next. -/
def expect (t : Token) (reason : String) : ReadM Unit := do
  unless ← take t do fail reason

/-- Reads a node, unless one of the given tokens comes next: then there is none. -/
def unlessNext (ts : List Token) (read : ReadM Node) : ReadM Node := do
  match ← peek with
  | some t => if t ∈ ts then return .empty else read
  | none => read

/-! ### Properties -/

/-- What stands in front of a node: a name, and whether there is a tag. -/
structure Properties where
  name : Option String := none
  hasTag : Bool := false

/-- Reads a name, if there is one. -/
def readAnchor : ReadM (Option String) := do
  match ← peek with
  | some (.anchor name) =>
    advance
    return some name
  | _ => return none

/-- Reads a name and a tag in any order. -/
def readProperties : ReadM Properties := do
  match ← readAnchor with
  | some name => return ⟨some name, ← take .tag⟩
  | none =>
    let hasTag ← take .tag
    let name ← if hasTag then readAnchor else pure none
    return ⟨name, hasTag⟩

/-- The node with a name, from now on. -/
def named (name : Option String) (node : Node) : ReadM Node := do
  match name with
  | some name => modify fun r => { r with anchors := (name, node) :: r.anchors }
  | none => pure ()
  return node

/-- The node of a name. -/
def lookup (name : String) : ReadM Node := do
  match (← get).anchors.find? fun (other, _) => other == name with
  | some (_, node) => return node
  | none => fail "a name stands for nothing"

/-! ### Nodes -/

/-- What may surround a node. -/
inductive Place where
  /-- Between brackets. -/
  | flow
  /-- On lines of its own. -/
  | block
  /-- After a key, where a sequence need not be indented. -/
  | afterKey
deriving DecidableEq

/-- A node without content, which its properties have to show. -/
def bare (properties : Properties) : ReadM Node :=
  if properties.name.isSome ∨ properties.hasTag then return .scalar "" !properties.hasTag
  else fail "a node is missing"

/-- What may be opened inside of a collection, if one may be opened. -/
def deeper : Nat → ReadM Nat
  | 0 => fail "there are too many collections inside each other"
  | depth + 1 => return depth

mutual

/-- **Reads a node**; `depth` collections may still be opened. Every step but some of those
that end a collection takes a token, or is followed by one that does. -/
def readNode : (steps depth : Nat) → Place → ReadM Node
  | 0, _, _ => fail "there are too many nodes"
  | steps + 1, depth, place => do
    match ← peek with
    | some (.alias name) =>
      advance
      lookup name
    | _ =>
      let properties ← readProperties
      let node ← readContent steps depth place properties
      named properties.name node

/-- Reads what follows the properties of a node. -/
def readContent : (steps depth : Nat) → Place → Properties → ReadM Node
  | 0, _, _, _ => fail "there are too many nodes"
  | steps + 1, depth, place, properties => do
    match ← peek with
    | some (.scalar text isPlain) =>
      advance
      return .scalar text (isPlain && !properties.hasTag)
    | some .openBracket =>
      let depth ← deeper depth
      advance
      return .sequence (← readFlowItems steps depth true)
    | some .openBrace =>
      let depth ← deeper depth
      advance
      return .mapping (← readFlowEntries steps depth true)
    | some .blockSequence =>
      if place = .flow then bare properties
      else
        let depth ← deeper depth
        advance
        let items ← readBlockItems steps depth
        expect .blockEnd "an item is expected"
        return .sequence items
    | some .blockMapping =>
      if place = .flow then bare properties
      else
        let depth ← deeper depth
        advance
        let entries ← readBlockEntries steps depth
        expect .blockEnd "a key is expected"
        return .mapping entries
    | some .dash =>
      if place = .afterKey then
        let depth ← deeper depth
        return .sequence (← readBareItems steps depth)
      else bare properties
    | _ => bare properties

/-- Reads the items of an indented sequence. -/
def readBlockItems : (steps depth : Nat) → ReadM (List Node)
  | 0, _ => fail "there are too many nodes"
  | steps + 1, depth => do
    if ← take .dash then
      let item ← unlessNext [.dash, .blockEnd] (readNode steps depth .block)
      let items ← readBlockItems steps depth
      return item :: items
    else return []

/-- Reads the items of a sequence that is not indented. -/
def readBareItems : (steps depth : Nat) → ReadM (List Node)
  | 0, _ => fail "there are too many nodes"
  | steps + 1, depth => do
    if ← take .dash then
      let item ← unlessNext [.dash, .key, .value, .blockEnd] (readNode steps depth .block)
      let items ← readBareItems steps depth
      return item :: items
    else return []

/-- Reads the entries of a mapping of lines. -/
def readBlockEntries : (steps depth : Nat) → ReadM (List (Node × Node))
  | 0, _ => fail "there are too many nodes"
  | steps + 1, depth => do
    if ← take .key then
      let key ← unlessNext [.key, .value, .blockEnd] (readNode steps depth .afterKey)
      let value ←
        if ← take .value then
          unlessNext [.key, .value, .blockEnd] (readNode steps depth .afterKey)
        else pure .empty
      let entries ← readBlockEntries steps depth
      return (key, value) :: entries
    else return []

/-- Reads the items of a sequence between brackets, and the closing one. An item may be a
mapping of one entry. -/
def readFlowItems : (steps depth : Nat) → (isFirst : Bool) → ReadM (List Node)
  | 0, _, _ => fail "there are too many nodes"
  | steps + 1, depth, isFirst => do
    if ← take .closeBracket then return []
    else
      unless isFirst do expect .comma "a comma is missing"
      if ← take .closeBracket then return []
      else
        let item ←
          if ← take .key then do
            let depth ← deeper depth
            let key ← unlessNext [.value, .comma, .closeBracket] (readNode steps depth .flow)
            let value ←
              if ← take .value then
                unlessNext [.comma, .closeBracket] (readNode steps depth .flow)
              else pure .empty
            pure (Node.mapping [(key, value)])
          else readNode steps depth .flow
        let items ← readFlowItems steps depth false
        return item :: items

/-- Reads the entries of a mapping between braces, and the closing one. -/
def readFlowEntries : (steps depth : Nat) → (isFirst : Bool) → ReadM (List (Node × Node))
  | 0, _, _ => fail "there are too many nodes"
  | steps + 1, depth, isFirst => do
    if ← take .closeBrace then return []
    else
      unless isFirst do expect .comma "a comma is missing"
      if ← take .closeBrace then return []
      else
        let entry ←
          if ← take .key then do
            let key ← unlessNext [.value, .comma, .closeBrace] (readNode steps depth .flow)
            let value ←
              if ← take .value then
                unlessNext [.comma, .closeBrace] (readNode steps depth .flow)
              else pure .empty
            pure (key, value)
          else do
            let key ← readNode steps depth .flow
            pure (key, .empty)
        let entries ← readFlowEntries steps depth false
        return entry :: entries

end

/-! ### Documents -/

/-- Passes the tokens that stand between documents. -/
def skipEnds : ReadM Unit :=
  modify fun r => { r with tokens := r.tokens.dropWhile (· == .documentEnd) }

/-- Reads directives and the mark after them; tells whether there are directives. -/
def skipDirectives : ReadM Bool := do
  let r ← get
  let rest := r.tokens.dropWhile (· == .directive)
  set { r with tokens := rest }
  return rest.length < r.tokens.length

/-- Reads the only document of a text, to the end of the text. -/
def readDocument : ReadM Node := do
  let steps := 4 * (← get).tokens.length + 8
  if (← peek).isNone then return .empty
  else
    let hasDirectives ← skipDirectives
    let isMarked ← take .documentStart
    if hasDirectives ∧ !isMarked then fail "the start of a document is missing"
    else
      let node ←
        if isMarked then
          unlessNext [.directive, .documentStart, .documentEnd]
            (if (← peek).isNone then return .empty else readNode steps maxDepth .block)
        else readNode steps maxDepth .block
      skipEnds
      if (← peek).isSome then fail "there is more than one document" else return node

end ReadM

/-- **The document of bytes.** -/
def Node.ofBytes (bytes : List UInt8) : Except String Node :=
  match (Encoding.utf8.decodeUnmarked? bytes).bind fun s => Mark.ofText? s.toList with
  | none => .error "a document has a character that is not allowed"
  | some marks => do
    let tokens ← tokens? marks
    let (node, _) ← ReadM.readDocument { tokens }
    return node

end Colonnade.Yaml
