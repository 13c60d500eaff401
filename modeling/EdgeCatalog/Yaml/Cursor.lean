/-! A place in a YAML text: what is left of it, and where it begins. -/
namespace EdgeCatalog.Yaml

/-! ## Characters -/

/-- The ends of lines. A carriage return does not occur: lines end in a line feed, or in one of the
two separators of Unicode. -/
def isBreak (ch : Char) : Bool :=
  ch = '\n' || ch.toNat = 0x2028 || ch.toNat = 0x2029

def isBlank (ch : Char) : Bool :=
  ch = ' ' || ch = '\t'

def isWhite (ch : Char) : Bool :=
  isBlank ch || isBreak ch

/-- Letters, digits, `_` and `-`: the characters of names. -/
def isNameChar (ch : Char) : Bool :=
  ch.isAlphanum || ch = '_' || ch = '-'

/-- Commas and brackets, which stand between the nodes of a collection in brackets. -/
def isBracket (ch : Char) : Bool :=
  ch = ',' || ch = '[' || ch = ']' || ch = '{' || ch = '}'

/-- Does a list of characters begin with white space, or end? -/
def isCut (cs : List Char) : Bool :=
  cs.head?.all isWhite

/-- Is the character allowed in a YAML text? -/
def isPrintable (ch : Char) : Bool :=
  let n := ch.toNat
  n = 9 || n = 10 || n = 13 || (0x20 ≤ n && n ≤ 0x7e) || n = 0x85 || (0xa0 ≤ n && n ≤ 0xfffd)
    || 0x10000 ≤ n

/-- Carriage returns, with or without a line feed, and next-line characters as line feeds. -/
def normalBreaks : List Char → List Char
  | '\r' :: '\n' :: rest => '\n' :: normalBreaks rest
  | ch :: rest => (if ch = '\r' ∨ ch.toNat = 0x85 then '\n' else ch) :: normalBreaks rest
  | [] => []

/-! ## Places -/

structure Cursor where
  rest : List Char
  /-- The number of bytes in front. -/
  index : Nat := 0
  line : Nat := 0
  column : Nat := 0

namespace Cursor

/-- The start of a text. -/
def ofText? (text : String) : Option Cursor :=
  let cs := text.toList
  if cs.all isPrintable then some { rest := normalBreaks cs } else none

/-- One character further. -/
def next (c : Cursor) : Cursor :=
  match c.rest with
  | [] => c
  | ch :: rest =>
    if isBreak ch then { rest, index := c.index + ch.utf8Size, line := c.line + 1, column := 0 }
    else { rest, index := c.index + ch.utf8Size, line := c.line, column := c.column + 1 }

def skip (c : Cursor) : Nat → Cursor
  | 0 => c
  | n + 1 => c.next.skip n

/-- Past the characters of a class. -/
def skipWhile (c : Cursor) (p : Char → Bool) : Cursor :=
  c.skip (c.rest.takeWhile p).length

/-- Past a run of characters of a class, which is returned. -/
def takeWhile (c : Cursor) (p : Char → Bool) : List Char × Cursor :=
  let cs := c.rest.takeWhile p
  (cs, c.skip cs.length)

/-- Up to the end of the line. -/
def skipLine (c : Cursor) : Cursor :=
  c.skipWhile (!isBreak ·)

/-- Does the given character stand here? -/
def startsWith (c : Cursor) (ch : Char) : Bool :=
  c.rest.head? = some ch

/-- Does the text end here, or with white space the word? -/
def atCut (c : Cursor) : Bool :=
  isCut c.rest

/-- Past blanks and a comment, and past the end of the line, which has to follow. -/
def endLine? (c : Cursor) : Option Cursor :=
  let c := c.skipWhile isBlank
  let c := if c.startsWith '#' then c.skipLine else c
  match c.rest with
  | [] => some c
  | ch :: _ => if isBreak ch then some c.next else none

/-- Does the given marker stand by itself at the start of the line? -/
def atMarker (marker : Char) (c : Cursor) : Bool :=
  c.column = 0 && c.rest.take 3 = [marker, marker, marker] && isCut (c.rest.drop 3)

/-- Does one of the markers between documents stand here? -/
def atBoundary (c : Cursor) : Bool :=
  c.atMarker '-' || c.atMarker '.'

end Cursor

end EdgeCatalog.Yaml
