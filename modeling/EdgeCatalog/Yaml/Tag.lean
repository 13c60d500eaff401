import EdgeCatalog.Text.Digits
import EdgeCatalog.Yaml.Cursor

/-! Tags, which name the type of a node. A tag is written with a handle, which stands for the
beginning of it. -/
namespace EdgeCatalog.Yaml

/-- A tag as its octets, which need not be a text. -/
structure Tag where
  octets : List UInt8
  deriving DecidableEq

namespace Tag

def ofString (text : String) : Tag :=
  ⟨text.toUTF8.toList⟩

def text? (t : Tag) : Option String :=
  String.fromUTF8? ⟨t.octets.toArray⟩

/-- The name of a tag of one's own, after an exclamation mark. -/
def localName? (t : Tag) : Option String :=
  match t.octets with
  | 0x21 :: octets => (Tag.mk octets).text?
  | _ => none

/-! ## Octets -/

/-- The characters of tags. Commas and square brackets belong to them where a tag stands in full. -/
def isTagChar (full : Bool) (ch : Char) : Bool :=
  isNameChar ch || ";/?:@&=+$.%!~*()".toList.contains ch || ch.toNat = 39
    || (full && (ch = ',' || ch = '[' || ch = ']'))

/-- How many octets a UTF-8 sequence has by its first one. -/
def octetCount? (first : Nat) : Option Nat :=
  if first < 0x80 then some 1
  else if 0xc0 ≤ first ∧ first < 0xe0 then some 2
  else if 0xe0 ≤ first ∧ first < 0xf0 then some 3
  else if 0xf0 ≤ first ∧ first < 0xf8 then some 4
  else none

/-- An octet after a percent sign. -/
def readOctet? : List Char → Option (Nat × List Char)
  | '%' :: a :: b :: rest => (Text.digitsIn? 16 [a, b]).map (·, rest)
  | _ => none

/-- The later octets of a sequence. -/
def readTrail? : Nat → List Char → Option (List Nat × List Char)
  | 0, cs => some ([], cs)
  | n + 1, cs => do
    let (octet, cs) ← readOctet? cs
    if octet < 0x80 ∨ 0xc0 ≤ octet then none
    else
      let (octets, cs) ← readTrail? n cs
      return (octet :: octets, cs)

/-- The octets that a run of tag characters stands for; escaped octets come in whole sequences. -/
def octetsOf? : Nat → List Char → Option (List Nat)
  | 0, _ => none
  | _ + 1, [] => some []
  | fuel + 1, '%' :: cs => do
    let (first, cs) ← readOctet? ('%' :: cs)
    let (trail, cs) ← readTrail? ((← octetCount? first) - 1) cs
    return first :: trail ++ (← octetsOf? fuel cs)
  | fuel + 1, ch :: cs => do return ch.toNat :: (← octetsOf? fuel cs)

/-- A part of a tag; it ends in front of an octet that is zero. -/
def ofChars? (cs : List Char) : Option Tag := do
  let octets ← octetsOf? (cs.length + 1) cs
  return ⟨(octets.takeWhile (· ≠ 0)).map UInt8.ofNat⟩

/-- Reads a part of a tag, which is not empty. -/
def readPart? (full : Bool) (c : Cursor) : Option (Tag × Cursor) :=
  let (cs, c) := c.takeWhile (isTagChar full)
  if cs.isEmpty then none else (ofChars? cs).map (·, c)

/-! ## Handles -/

/-- A tag as it is written: the handle, which is empty for a tag in full, and what follows it. -/
structure Written where
  handle : String
  suffix : Tag

/-- An exclamation mark with a name, and perhaps another exclamation mark. -/
def readHandle? (c : Cursor) : Option (List Char × Cursor) :=
  if !c.startsWith '!' then none
  else
    let (name, after) := c.next.takeWhile isNameChar
    if after.startsWith '!' then some ('!' :: name ++ ['!'], after.next) else some ('!' :: name, after)

/-- A handle that ends in an exclamation mark stands before the tag; else the handle is a single
exclamation mark, which also is a tag of its own. -/
def readShort? (c : Cursor) : Option (Written × Cursor) := do
  let (handle, after) ← readHandle? c
  if handle.length > 1 ∧ handle.getLast? = some '!' then
    let (suffix, c) ← readPart? false after
    return (⟨String.ofList handle, suffix⟩, c)
  else
    let (cs, c) := c.next.takeWhile (isTagChar false)
    let suffix ← ofChars? cs
    return (if suffix.octets.isEmpty then ⟨"", ofString "!"⟩ else ⟨"!", suffix⟩, c)

/-- A tag in angle brackets stands in full. -/
def readFull? (c : Cursor) : Option (Written × Cursor) := do
  let (tag, c) ← readPart? true c
  if c.startsWith '>' then return (⟨"", tag⟩, c.next) else none

/-- Reads a tag at its exclamation mark. White space follows it, or, in brackets, a comma. -/
def read? (inBrackets : Bool) (c : Cursor) : Option (Written × Cursor) := do
  let (tag, c) ← if c.next.startsWith '<' then readFull? (c.skip 2) else readShort? c
  if c.atCut || inBrackets && c.startsWith ',' then return (tag, c) else none

/-- What handles stand for where nothing else is said. -/
def defaultHandles : List (String × Tag) :=
  [("!", ofString "!"), ("!!", ofString "tag:yaml.org,2002:")]

/-- The whole tag. -/
def Written.resolve? (w : Written) (handles : List (String × Tag)) : Option Tag :=
  if w.handle = "" then some w.suffix
  else (handles.lookup w.handle).map fun start => ⟨start.octets ++ w.suffix.octets⟩

end Tag

end EdgeCatalog.Yaml
