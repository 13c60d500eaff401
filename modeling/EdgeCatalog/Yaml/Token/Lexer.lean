import EdgeCatalog.Yaml.Scalar
import EdgeCatalog.Yaml.Token

/-! From a YAML text to its tokens. Whether a node is a key shows only at the colon after it; the
tokens in front of a node are therefore kept in a place of their own, to which those of a key, and of
the mapping that begins with it, can be added later. -/
namespace EdgeCatalog.Yaml

/-- A node that may turn out to be a key: it stands on one line with its colon, at most 1024 bytes
in front of it. -/
structure Candidate where
  /-- The place of its first token. -/
  place : Nat
  index : Nat
  line : Nat
  column : Nat
  /-- Can it be nothing else? -/
  required : Bool

structure Lexer where
  cursor : Cursor
  /-- The tokens by their places. -/
  places : Array (List Token) := #[]
  /-- The columns of the open block collections, the innermost first. -/
  columns : List Nat := []
  /-- The candidate of the innermost brackets, or of the block around them. -/
  candidate : Option Candidate := none
  /-- The candidates around the open brackets, the innermost first. -/
  outer : List (Option Candidate) := []
  /-- May a key begin here? -/
  keyAllowed : Bool := true

namespace Lexer

def inBrackets (s : Lexer) : Bool :=
  !s.outer.isEmpty

/-- The least column of what belongs to the innermost open block collection. -/
def low (s : Lexer) : Nat :=
  match s.columns with
  | [] => 0
  | column :: _ => column + 1

def push (s : Lexer) (t : Token) : Lexer :=
  { s with places := s.places.push [t] }

/-- Puts a token in front of the others at its place. -/
def putBefore (s : Lexer) (place : Nat) (t : Token) : Lexer :=
  { s with places := s.places.modify place (t :: ·) }

/-! ## Keys -/

/-- The candidate can no longer become a key. -/
def dropCandidate? (s : Lexer) : Option Lexer :=
  if s.candidate.any (·.required) then none else some { s with candidate := none }

/-- The node under the cursor becomes the candidate, where a key may begin. Outside brackets, what
stands at the column of an open collection has to be a key. -/
def saveCandidate? (s : Lexer) : Option Lexer :=
  if !s.keyAllowed then some s
  else
    match s.dropCandidate? with
    | none => none
    | some s =>
      let c := s.cursor
      let required := !s.inBrackets && s.columns.head? = some c.column
      some { s with
        candidate := some ⟨s.places.size, c.index, c.line, c.column, required⟩ }

/-- Is the colon of a candidate too far away? -/
def Candidate.isStale (k : Candidate) (c : Cursor) : Bool :=
  k.line < c.line || k.index + 1024 < c.index

/-- Drops candidates whose colon would be too far away. -/
def dropStale? (s : Lexer) : Option Lexer :=
  let stale (k : Option Candidate) : Bool := k.any (Candidate.isStale · s.cursor)
  if (s.candidate :: s.outer).any fun k => stale k && k.any (·.required) then none
  else
    let fresh (k : Option Candidate) : Option Candidate := if stale k then none else k
    some { s with candidate := fresh s.candidate, outer := s.outer.map fresh }

/-! ## Block collections -/

/-- Opens a collection at a column, unless it is open already. -/
def opens (s : Lexer) (column : Nat) : Bool :=
  !s.inBrackets && s.low ≤ column

/-- Opens a collection at the cursor, if need be. -/
def openBlock (s : Lexer) (t : Token) : Lexer :=
  let column := s.cursor.column
  if s.opens column then { s.push t with columns := column :: s.columns } else s

/-- Closes the collections at the column `low` and beyond. -/
def closeColumns (low : Nat) : List Nat → Array (List Token) → List Nat × Array (List Token)
  | [], places => ([], places)
  | column :: rest, places =>
    if low ≤ column then closeColumns low rest (places.push [.blockEnd])
    else (column :: rest, places)

def closeBlocks (s : Lexer) (low : Nat) : Lexer :=
  if s.inBrackets then s
  else
    let (columns, places) := closeColumns low s.columns s.places
    { s with columns, places }

/-! ## Single tokens -/

/-- Adds a token of `width` characters. -/
def single (s : Lexer) (t : Token) (width : Nat) : Lexer :=
  { s.push t with cursor := s.cursor.skip width }

/-- A marker between documents. -/
def readMarker? (s : Lexer) (t : Token) : Option Lexer := do
  let s ← (s.closeBlocks 0).dropCandidate?
  return { s.single t 3 with keyAllowed := false }

def readDirective? (s : Lexer) : Option Lexer := do
  let s ← (s.closeBlocks 0).dropCandidate?
  let (t, cursor) ← Token.readDirective? s.cursor
  return { s.push t with cursor, keyAllowed := false }

/-- An opening bracket, which may itself begin a key. -/
def readOpen? (s : Lexer) (t : Token) : Option Lexer := do
  let s ← s.saveCandidate?
  return { s.single t 1 with
    outer := s.candidate :: s.outer, candidate := none, keyAllowed := true }

/-- A closing bracket; the candidate around it may go on. -/
def readClose? (s : Lexer) (t : Token) : Option Lexer := do
  let s ← s.dropCandidate?
  let s := { s.single t 1 with keyAllowed := false }
  match s.outer with
  | [] => return s
  | candidate :: outer => return { s with candidate, outer }

def readComma? (s : Lexer) : Option Lexer := do
  let s ← s.dropCandidate?
  return { s.single .comma 1 with keyAllowed := true }

/-- The dash in front of an item. -/
def readItem? (s : Lexer) : Option Lexer := do
  if !s.inBrackets && !s.keyAllowed then none
  else
    let s ← (s.openBlock .blockSequence).dropCandidate?
    return { s.single .item 1 with keyAllowed := true }

/-- The question mark in front of a key. -/
def readKey? (s : Lexer) : Option Lexer := do
  if !s.inBrackets && !s.keyAllowed then none
  else
    let s ← (s.openBlock .blockMapping).dropCandidate?
    return { s.single .key 1 with keyAllowed := !s.inBrackets }

/-- The colon in front of a value. The candidate, if there is one, is its key. -/
def readValue? (s : Lexer) : Option Lexer :=
  match s.candidate with
  | some k =>
    let s := s.putBefore k.place .key
    let s := if s.opens k.column then
      { s.putBefore k.place .blockMapping with columns := k.column :: s.columns } else s
    some { s.single .value 1 with candidate := none, keyAllowed := false }
  | none =>
    if !s.inBrackets && !s.keyAllowed then none
    else
      let s := s.openBlock .blockMapping
      some { s.single .value 1 with keyAllowed := !s.inBrackets }

/-- A token that begins a node, as `read?` reads it. -/
def readNode? (s : Lexer) (read? : Cursor → Option (Token × Cursor)) : Option Lexer := do
  let s ← s.saveCandidate?
  let (t, cursor) ← read? s.cursor
  return { s.push t with cursor, keyAllowed := false }

def readQuoted? (s : Lexer) : Option Lexer :=
  s.readNode? fun c =>
    (Yaml.readQuoted? c).map fun (cs, c) => (.scalar (String.ofList cs) .quoted, c)

/-- A plain scalar; if the cursor is on a later line after it, a key may begin there. -/
def readPlain? (s : Lexer) : Option Lexer := do
  let s ← s.saveCandidate?
  let plain ← Yaml.readPlain? s.inBrackets s.low s.cursor
  return { s.push (.scalar (String.ofList plain.text) .plain) with
    cursor := plain.cursor, keyAllowed := plain.broken }

def readBlock? (s : Lexer) (style : Style) : Option Lexer := do
  let s ← s.dropCandidate?
  let (cs, cursor) ← Yaml.readBlock? (style = .folded) s.low s.cursor
  return { s.push (.scalar (String.ofList cs) style) with cursor, keyAllowed := true }

/-! ## The text -/

/-- To the next content, past white space and comments. A byte order mark may begin a line. Tabs do
not indent: where a key may begin outside brackets, they are no white space. -/
def skipTrivia : Nat → Lexer → Lexer
  | 0, s => s
  | fuel + 1, s =>
    let c := s.cursor
    let c := if c.column = 0 ∧ c.rest.head?.any (·.toNat = 0xfeff) then c.next else c
    let tabs := s.inBrackets || !s.keyAllowed
    let c := c.skipWhile fun ch => ch = ' ' || tabs && ch = '\t'
    let c := if c.startsWith '#' then c.skipLine else c
    if c.rest.head?.any isBreak then
      skipTrivia fuel { s with cursor := c.next, keyAllowed := s.keyAllowed || !s.inBrackets }
    else { s with cursor := c }

/-- Reads the token under the cursor. -/
def read? (s : Lexer) : Option Lexer :=
  let c := s.cursor
  match c.rest with
  | [] => none
  | ch :: rest =>
    let alone := isCut rest
    if c.column = 0 && ch = '%' then s.readDirective?
    else if c.atMarker '-' then s.readMarker? .documentStart
    else if c.atMarker '.' then s.readMarker? .documentEnd
    else if ch = '[' then s.readOpen? .openSequence
    else if ch = '{' then s.readOpen? .openMapping
    else if ch = ']' then s.readClose? .closeSequence
    else if ch = '}' then s.readClose? .closeMapping
    else if ch = ',' then s.readComma?
    else if ch = '-' && alone then s.readItem?
    else if ch = '?' && (s.inBrackets || alone) then s.readKey?
    else if ch = ':' && (s.inBrackets || alone) then s.readValue?
    else if ch = '*' then
      s.readNode? fun c => (Token.readName? c.next).map fun (name, c) => (.alias name, c)
    else if ch = '&' then
      s.readNode? fun c => (Token.readName? c.next).map fun (name, c) => (.anchor name, c)
    else if ch = '!' then
      s.readNode? fun c => (Tag.read? s.inBrackets c).map fun (tag, c) => (.tag tag, c)
    else if ch = '|' && !s.inBrackets then s.readBlock? .literal
    else if ch = '>' && !s.inBrackets then s.readBlock? .folded
    else if isQuote ch then s.readQuoted?
    else if startsPlain s.inBrackets c.rest then s.readPlain?
    else none

/-- Closes what is open at the end of the text. -/
def finish? (s : Lexer) : Option Lexer :=
  (s.closeBlocks 0).dropCandidate?

/-- Reads up to the end of the text. -/
def run? : Nat → Lexer → Option Lexer
  | 0, _ => none
  | fuel + 1, s =>
    match (skipTrivia (s.cursor.rest.length + 1) s).dropStale? with
    | none => none
    | some s =>
      let s := s.closeBlocks (s.cursor.column + 1)
      if s.cursor.rest.isEmpty then s.finish?
      else
        match s.read? with
        | some s => run? fuel s
        | none => none

end Lexer

/-- The tokens of a text. -/
def Token.ofText? (text : String) : Option (List Token) := do
  let cursor ← Cursor.ofText? text
  let s ← Lexer.run? (cursor.rest.length + 1) { cursor }
  return s.places.toList.flatten

end EdgeCatalog.Yaml
