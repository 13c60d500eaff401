import EdgeCatalog.Yaml.Basic

/-! The tokens of a YAML text. Block collections, which are shown by indentation alone, have tokens
for their beginning and end. -/
namespace EdgeCatalog.Yaml

inductive Token
  /-- The version that a document is written in. -/
  | version (major minor : Nat)
  /-- What a tag handle stands for. -/
  | handle (name : String) (start : Tag)
  | documentStart
  | documentEnd
  | blockSequence
  | blockMapping
  | blockEnd
  | openSequence
  | closeSequence
  | openMapping
  | closeMapping
  /-- The dash in front of an item. -/
  | item
  | comma
  | key
  | value
  | alias (name : String)
  | anchor (name : String)
  | tag (written : Tag.Written)
  | scalar (text : String) (style : Style)

namespace Token

/-! ## Directives -/

/-- A number of a version, of at most nine digits. -/
def readVersionPart? (c : Cursor) : Option (Nat × Cursor) :=
  let (digits, c) := c.takeWhile Char.isDigit
  if digits.length > 9 then none else (Text.digitsIn? 10 digits).map (·, c)

def readVersion? (c : Cursor) : Option (Token × Cursor) := do
  let (major, c) ← readVersionPart? (c.skipWhile isBlank)
  if c.startsWith '.' then
    let (minor, c) ← readVersionPart? c.next
    return (.version major minor, c)
  else none

/-- A handle, which ends in an exclamation mark, and what it stands for. -/
def readHandleRule? (c : Cursor) : Option (Token × Cursor) := do
  let (name, c) ← Tag.readHandle? (c.skipWhile isBlank)
  if name.getLast? ≠ some '!' ∨ !c.rest.head?.any isBlank then none
  else
    let (start, c) ← Tag.readPart? true (c.skipWhile isBlank)
    if c.atCut then return (.handle (String.ofList name) start, c) else none

/-- Reads a directive at its percent sign, with its line. -/
def readDirective? (c : Cursor) : Option (Token × Cursor) := do
  let (name, c) := c.next.takeWhile isNameChar
  if !c.atCut then none
  else
    let (token, c) ←
      if name = "YAML".toList then readVersion? c
      else if name = "TAG".toList then readHandleRule? c
      else none
    return (token, ← c.endLine?)

/-! ## Names -/

/-- Reads the name of an anchor or an alias. White space follows it, or one of a few indicators. -/
def readName? (c : Cursor) : Option (String × Cursor) :=
  let (name, c) := c.takeWhile isNameChar
  let ends := c.atCut || c.rest.head?.any fun ch => "?:,]\x7d%@`".toList.contains ch
  if name.isEmpty || !ends then none else some (String.ofList name, c)

end Token

end EdgeCatalog.Yaml
