import EdgeCatalog.Yaml.Token.Lexer

/-! From tokens to a document. A text holds a single document, or none, which is as good as an empty
one. -/
namespace EdgeCatalog.Yaml

/-- What is left to read, and what is known from the part before. -/
structure Reading where
  tokens : List Token
  handles : List (String × Tag) := Tag.defaultHandles
  /-- The numbers of the anchors by their names. -/
  names : List (String × Nat) := []
  anchors : List (Nat × Option Scalar) := []

/-- Reads a part of a document, or fails. -/
abbrev Reads := StateT Reading Option

namespace Reads

def peek : Reads (Option Token) := do
  return (← get).tokens.head?

def skip : Reads Unit :=
  modify fun r => { r with tokens := r.tokens.tail }

/-! ## Properties -/

/-- What may stand in front of a node. -/
structure Properties where
  anchor : Option String := none
  tag : Option Tag := none

/-- A tag, if there is one. -/
def readTag : Reads (Option Tag) := do
  match ← peek with
  | some (.tag written) =>
    skip
    match written.resolve? (← get).handles with
    | some tag => return some tag
    | none => failure
  | _ => return none

def readAnchor : Reads (Option String) := do
  match ← peek with
  | some (.anchor name) =>
    skip
    return some name
  | _ => return none

/-- An anchor and a tag, in either order. -/
def readProperties : Reads Properties := do
  match ← readAnchor with
  | some name => return { anchor := some name, tag := ← readTag }
  | none =>
    let tag ← readTag
    return { anchor := ← readAnchor, tag }

/-- Gives an anchor its number, which is the number of names before it, and remembers what it stands
for. -/
def place (p : Properties) (target : Option Scalar) : Reads Unit :=
  match p.anchor with
  | none => return
  | some name => modify fun r =>
    let number := r.names.length
    { r with
      names := (name, number) :: r.names.filter (·.1 ≠ name)
      anchors := r.anchors ++ [(number, target)] }

/-- A scalar with its properties. -/
def placeScalar (p : Properties) (s : Scalar) : Reads Yaml := do
  place p (some s)
  return .scalar s

def readAlias (name : String) : Reads Yaml := do
  skip
  match (← get).names.lookup name with
  | some number => return .alias number
  | none => failure

/-! ## Nodes -/

/-- Does the entry of a block mapping end here? -/
def endsEntry : Option Token → Bool
  | some .key | some .value | some .blockEnd => true
  | _ => false

/-- Does the item of a block sequence end here? -/
def endsItem : Option Token → Bool
  | some .item | some .blockEnd => true
  | _ => false

def endsFlowItem : Option Token → Bool
  | some .comma | some .closeSequence => true
  | _ => false

def endsFlowEntry : Option Token → Bool
  | some .comma | some .closeMapping => true
  | _ => false

/-- The comma between nodes in brackets, which is not there in front of the first one. -/
def readComma (isFirst : Bool) : Reads Unit := do
  if isFirst then return
  match ← peek with
  | some .comma => skip
  | _ => failure

mutual

/-- Reads a node. A block collection may only stand outside brackets, and a sequence that is not
indented only as an entry of a mapping. -/
def readNode (inBlock inEntry : Bool) : Nat → Reads Yaml
  | 0 => failure
  | fuel + 1 => do
    if let some (.alias name) ← peek then return ← readAlias name
    let p ← readProperties
    match ← peek with
    | some (.scalar text style) =>
      skip
      placeScalar p { text, style, tag := if p.tag = some (.ofString "!") then none else p.tag }
    | some .openSequence =>
      skip
      place p none
      return .sequence (← readFlowItems true [] fuel)
    | some .openMapping =>
      skip
      place p none
      return .mapping (← readFlowEntries true [] fuel)
    | next =>
      if inEntry && next matches some .item then
        place p none
        return .sequence (← readLooseItems [] fuel)
      else if inBlock && next matches some .blockSequence then
        skip
        place p none
        return .sequence (← readItems [] fuel)
      else if inBlock && next matches some .blockMapping then
        skip
        place p none
        return .mapping (← readEntries [] fuel)
      else if p.anchor.isSome || p.tag.isSome then placeScalar p { text := "", tag := p.tag }
      else failure

/-- Reads a node, or nothing at a token that ends it. -/
def readContent (inBlock inEntry : Bool) (ends : Option Token → Bool) : Nat → Reads Yaml
  | 0 => failure
  | fuel + 1 => do
    if ends (← peek) then return .empty else readNode inBlock inEntry fuel

/-- Reads the value of an entry, if there is a colon. -/
def readValue (inBlock : Bool) (ends : Option Token → Bool) : Nat → Reads Yaml
  | 0 => failure
  | fuel + 1 => do
    match ← peek with
    | some .value =>
      skip
      readContent inBlock inBlock ends fuel
    | _ => return .empty

/-- Reads the items of a block sequence up to its end. -/
def readItems (done : List Yaml) : Nat → Reads (List Yaml)
  | 0 => failure
  | fuel + 1 => do
    match ← peek with
    | some .item =>
      skip
      let item ← readContent true false endsItem fuel
      readItems (item :: done) fuel
    | some .blockEnd =>
      skip
      return done.reverse
    | _ => failure

/-- Reads the items of a sequence that is not indented; its end has no token. -/
def readLooseItems (done : List Yaml) : Nat → Reads (List Yaml)
  | 0 => failure
  | fuel + 1 => do
    match ← peek with
    | some .item =>
      skip
      let item ← readContent true false (fun t => endsItem t || endsEntry t) fuel
      readLooseItems (item :: done) fuel
    | _ => return done.reverse

/-- Reads the entries of a block mapping up to its end. -/
def readEntries (done : List (Yaml × Yaml)) : Nat → Reads (List (Yaml × Yaml))
  | 0 => failure
  | fuel + 1 => do
    match ← peek with
    | some .key =>
      skip
      let key ← readContent true true endsEntry fuel
      let value ← readValue true endsEntry fuel
      readEntries ((key, value) :: done) fuel
    | some .blockEnd =>
      skip
      return done.reverse
    | _ => failure

/-- Reads an entry in square brackets; it is a mapping of its own. What ends the sequence is not seen
in place of the key. -/
def readPair : Nat → Reads Yaml
  | 0 => failure
  | fuel + 1 => do
    let next ← peek
    let key ←
      if next matches some .value || endsFlowItem next then do
        skip
        pure .empty
      else readNode false false fuel
    let value ← readValue false endsFlowItem fuel
    return .mapping [(key, value)]

/-- Reads items up to the closing bracket. -/
def readFlowItems (isFirst : Bool) (done : List Yaml) : Nat → Reads (List Yaml)
  | 0 => failure
  | fuel + 1 => do
    if !((← peek) matches some .closeSequence) then readComma isFirst
    match ← peek with
    | some .closeSequence =>
      skip
      return done.reverse
    | some .key =>
      skip
      let pair ← readPair fuel
      readFlowItems false (pair :: done) fuel
    | _ =>
      let item ← readNode false false fuel
      readFlowItems false (item :: done) fuel

/-- Reads entries up to the closing brace; a node that is no key stands without a value. -/
def readFlowEntries (isFirst : Bool) (done : List (Yaml × Yaml)) : Nat → Reads (List (Yaml × Yaml))
  | 0 => failure
  | fuel + 1 => do
    if !((← peek) matches some .closeMapping) then readComma isFirst
    match ← peek with
    | some .closeMapping =>
      skip
      return done.reverse
    | some .key =>
      skip
      let key ← readContent false false
        (fun t => t matches some .value || endsFlowEntry t) fuel
      let value ← readValue false endsFlowEntry fuel
      readFlowEntries false ((key, value) :: done) fuel
    | _ =>
      let key ← readNode false false fuel
      readFlowEntries false ((key, .empty) :: done) fuel

end

/-! ## Documents -/

/-- The directives in front of a document: at most one version, which is 1.1 or 1.2, and a rule for
each handle. -/
def readDirectives (version : Bool) (handles : List (String × Tag)) :
    Nat → Reads (List (String × Tag))
  | 0 => failure
  | fuel + 1 => do
    match ← peek with
    | some (.version major minor) =>
      skip
      if version || major ≠ 1 || (minor ≠ 1 && minor ≠ 2) then failure
      else readDirectives true handles fuel
    | some (.handle name start) =>
      skip
      if (handles.lookup name).isSome then failure
      else readDirectives version ((name, start) :: handles) fuel
    | _ => return handles

/-- Does the content of a document end here? -/
def endsDocument : Option Token → Bool
  | none | some .documentStart | some .documentEnd => true
  | some (.version ..) | some (.handle ..) => true
  | _ => false

def skipEnds : Nat → Reads Unit
  | 0 => return
  | fuel + 1 => do
    if (← peek) matches some .documentEnd then
      skip
      skipEnds fuel

/-- The root of the only document. -/
def readDocument (fuel : Nat) : Reads Yaml := do
  let next ← peek
  let root ←
    if next.isNone then pure .empty
    else if endsDocument next then do
      let handles ← readDirectives false [] fuel
      if !((← peek) matches some .documentStart) then failure
      skip
      modify fun r => { r with handles := handles ++ r.handles }
      readContent true false endsDocument fuel
    else readNode true false fuel
  skipEnds fuel
  if (← peek).isSome then failure
  return root

end Reads

/-- Reads a text. -/
def Document.ofText? (text : String) : Option Document := do
  let tokens ← Token.ofText? text
  let (root, r) ← (Reads.readDocument (4 * tokens.length + 8)).run { tokens }
  return { root, anchors := r.anchors }

end EdgeCatalog.Yaml
