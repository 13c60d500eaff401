import EdgeCatalog.Text.Digits
import EdgeCatalog.Yaml.Cursor

/-! The texts of scalars: plain, in single or double quotes, and in blocks. -/
namespace EdgeCatalog.Yaml

/-! ## White space inside a scalar -/

/-- The blanks in front of the first line break, and the line breaks; blanks after a line break do
not count. -/
structure Gap where
  blanks : List Char := []
  breaks : List Char := []

namespace Gap

def isBroken (g : Gap) : Bool :=
  !g.breaks.isEmpty

/-- What a gap stands for: a single line feed is a space, and of several breaks a line feed in front
is left out. -/
def text (g : Gap) : List Char :=
  match g.breaks with
  | [] => g.blanks
  | ['\n'] => [' ']
  | '\n' :: breaks => breaks
  | breaks => breaks

/-- Reads on to the next character that is no white space. After a line break no tab may stand in
front of column `low`. -/
def read? (low : Nat) : Nat → Gap → Cursor → Option (Gap × Cursor)
  | 0, _, _ => none
  | fuel + 1, g, c =>
    match c.rest with
    | [] => some (g, c)
    | ch :: _ =>
      if isBreak ch then read? low fuel { g with breaks := g.breaks ++ [ch] } c.next
      else if !isBlank ch then some (g, c)
      else if !g.isBroken then read? low fuel { g with blanks := g.blanks ++ [ch] } c.next
      else if ch = '\t' && c.column < low then none
      else read? low fuel g c.next

end Gap

def readGap? (low : Nat) (c : Cursor) : Option (Gap × Cursor) :=
  Gap.read? low (c.rest.length + 1) {} c

/-! ## Plain scalars -/

/-- The characters with which no plain scalar begins, unless one of `-`, `?` and `:` is followed by
something else than white space. -/
def isIndicator (ch : Char) : Bool :=
  "-?:,[]\x7b\x7d#&*!|>\"%@`".toList.contains ch || ch.toNat = 39

/-- Can a plain scalar begin here? In brackets only a dash may stand in front. -/
def startsPlain (inBrackets : Bool) : List Char → Bool
  | [] => false
  | ch :: rest =>
    if ch = '-' then !rest.head?.any isBlank
    else if ch = '?' ∨ ch = ':' then !inBrackets && !isCut rest
    else !isIndicator ch && !isWhite ch

/-- The characters up to white space, to a colon in front of it and, in brackets, to the next comma
or bracket. A colon in front of one of these, or of a question mark, may not stand in brackets. -/
def readWord? (inBrackets : Bool) : List Char → Option (List Char)
  | [] => some []
  | ch :: rest =>
    if isWhite ch || (ch = ':' && isCut rest) || (inBrackets && isBracket ch) then some []
    else if inBrackets && ch = ':' && rest.head?.any fun next => isBracket next || next = '?' then
      none
    else (readWord? inBrackets rest).map (ch :: ·)

/-- A plain scalar as read: its text, and whether it is followed by a line break, which the cursor
has passed. -/
structure Plain where
  text : List Char
  broken : Bool
  cursor : Cursor

/-- Reads words and the gaps between them, after the gap `gap`. -/
def readWords? (inBrackets : Bool) (low : Nat) : Nat → List Char → Gap → Cursor → Option Plain
  | 0, _, _, _ => none
  | fuel + 1, done, gap, c =>
    if c.atBoundary || c.startsWith '#' then some ⟨done, gap.isBroken, c⟩
    else
      match readWord? inBrackets c.rest with
      | none => none
      | some [] => some ⟨done, gap.isBroken, c⟩
      | some word =>
        let done := done ++ gap.text ++ word
        let after := c.skip word.length
        if !after.rest.head?.any isWhite then some ⟨done, false, after⟩
        else
          match readGap? low after with
          | none => none
          | some (gap, later) =>
            if !inBrackets && later.column < low then some ⟨done, gap.isBroken, later⟩
            else readWords? inBrackets low fuel done gap later

/-- Reads a plain scalar; outside brackets its lines are indented to `low`. -/
def readPlain? (inBrackets : Bool) (low : Nat) (c : Cursor) : Option Plain :=
  readWords? inBrackets low (c.rest.length + 1) [] {} c

/-! ## Quoted scalars -/

/-- The character of a code in hexadecimal digits. -/
def hexChar? (cs : List Char) (width : Nat) : Option Char := do
  if cs.length < width then none
  else
    let n ← Text.digitsIn? 16 (cs.take width)
    if n.isValidChar then some (Char.ofNat n) else none

/-- What follows a backslash: the character meant, and how many characters it takes. -/
def escape? : List Char → Option (Char × Nat)
  | [] => none
  | ch :: rest =>
    let one (n : Nat) : Option (Char × Nat) := some (Char.ofNat n, 1)
    if ch = '0' then one 0
    else if ch = 'a' then one 7
    else if ch = 'b' then one 8
    else if ch = 't' ∨ ch = '\t' then one 9
    else if ch = 'n' then one 10
    else if ch = 'v' then one 11
    else if ch = 'f' then one 12
    else if ch = 'r' then one 13
    else if ch = 'e' then one 27
    else if ch = ' ' ∨ ch = '"' ∨ ch = '/' ∨ ch = '\\' then some (ch, 1)
    else if ch = 'N' then one 0x85
    else if ch = '_' then one 0xa0
    else if ch = 'L' then one 0x2028
    else if ch = 'P' then one 0x2029
    else if ch = 'x' then (hexChar? rest 2).map (·, 3)
    else if ch = 'u' then (hexChar? rest 4).map (·, 5)
    else if ch = 'U' then (hexChar? rest 8).map (·, 9)
    else none

def isQuote (ch : Char) : Bool :=
  ch = '"' || ch.toNat = 39

/-- Reads up to the closing quote; `done` holds the characters before, the last one first. Line
breaks are folded, and an escaped one is dropped. -/
def readQuotedOn? (quote : Char) : Nat → List Char → Cursor → Option (List Char × Cursor)
  | 0, _, _ => none
  | fuel + 1, done, c =>
    if c.atBoundary then none
    else match c.rest with
      | [] => none
      | ch :: rest =>
        if isWhite ch then
          match readGap? 0 c with
          | some (gap, later) => readQuotedOn? quote fuel (gap.text.reverse ++ done) later
          | none => none
        else if ch = quote then
          if quote ≠ '"' && rest.head? = some quote then
            readQuotedOn? quote fuel (ch :: done) (c.skip 2)
          else some (done.reverse, c.next)
        else if quote = '"' && ch = '\\' then
          if rest.head?.any isBreak then
            match readGap? 0 c.next with
            | some (gap, later) =>
              readQuotedOn? quote fuel (gap.breaks.tail.reverse ++ done) later
            | none => none
          else match escape? rest with
            | some (meant, width) =>
              readQuotedOn? quote fuel (meant :: done) (c.next.skip width)
            | none => none
        else readQuotedOn? quote fuel (ch :: done) c.next

/-- Reads a scalar at its opening quote. -/
def readQuoted? (c : Cursor) : Option (List Char × Cursor) :=
  match c.rest with
  | quote :: _ => readQuotedOn? quote (c.rest.length + 1) [] c.next
  | [] => none

/-! ## Block scalars -/

/-- What happens to the line breaks at the end of a block. -/
inductive Chomping
  | strip
  | clip
  | keep
  deriving DecidableEq

def Chomping.ofChar? (ch : Char) : Option Chomping :=
  if ch = '+' then some .keep else if ch = '-' then some .strip else none

/-- What the first line of a block says; an indentation of 0 is not given. -/
structure BlockHeader where
  chomping : Chomping := .clip
  indentation : Nat := 0

namespace BlockHeader

/-- One digit for the indentation, which is not zero. -/
def digit? (h : BlockHeader) (c : Cursor) : Option (BlockHeader × Cursor) :=
  match c.rest with
  | [] => some (h, c)
  | ch :: _ =>
    if !ch.isDigit then some (h, c)
    else if ch = '0' then none
    else some ({ h with indentation := ch.toNat - 48 }, c.next)

def sign (h : BlockHeader) (c : Cursor) : BlockHeader × Cursor :=
  match c.rest.head? >>= Chomping.ofChar? with
  | some chomping => ({ h with chomping }, c.next)
  | none => (h, c)

/-- Chomping and indentation, in either order. -/
def read? (c : Cursor) : Option (BlockHeader × Cursor) :=
  if (c.rest.head? >>= Chomping.ofChar?).isSome then
    let (h, c) := sign {} c
    h.digit? c
  else
    match digit? {} c with
    | some (h, after) => some (if h.indentation = 0 then (h, after) else h.sign after)
    | none => none

end BlockHeader

/-- Empty lines, and the indentation of the line after them. -/
structure Margin where
  breaks : List Char := []
  /-- The greatest column that the indentation of a line reaches. -/
  widest : Nat := 0

/-- Passes over empty lines and the indentation of the next line. An indentation of 0 takes all
spaces. No tab may stand in the indentation. -/
def Margin.read? (indentation : Nat) : Nat → Margin → Cursor → Option (Margin × Cursor)
  | 0, _, _ => none
  | fuel + 1, m, c =>
    let spaces := (c.rest.takeWhile (· = ' ')).length
    let c := c.skip (if indentation = 0 then spaces else min spaces (indentation - c.column))
    let m := { m with widest := max m.widest c.column }
    match c.rest with
    | [] => some (m, c)
    | ch :: _ =>
      if ch = '\t' ∧ (indentation = 0 ∨ c.column < indentation) then none
      else if isBreak ch then read? indentation fuel { m with breaks := m.breaks ++ [ch] } c.next
      else some (m, c)

def readMargin? (indentation : Nat) (c : Cursor) : Option (Margin × Cursor) :=
  Margin.read? indentation (c.rest.length + 1) {} c

/-- The lines of a block read so far. -/
structure Block where
  text : List Char := []
  /-- The break at the end of the last line. -/
  ending : List Char := []
  /-- Did the last line begin with a blank? -/
  loose : Bool := false
  /-- The empty lines after the last line. -/
  breaks : List Char := []

namespace Block

/-- Adds a line. A folded block takes a single line feed between two lines for a space, and leaves
it out in front of empty lines, unless one of the lines begins with a blank. -/
def add (b : Block) (folded : Bool) (line : List Char) : Block :=
  let starts := line.head?.any isBlank
  let joint :=
    if folded && b.ending = ['\n'] && !b.loose && !starts then
      if b.breaks.isEmpty then [' '] else []
    else b.ending
  { text := b.text ++ joint ++ b.breaks ++ line, loose := starts }

/-- The whole text; the chomping decides on the breaks at the end. -/
def finish (b : Block) : Chomping → List Char
  | .strip => b.text
  | .clip => b.text ++ b.ending
  | .keep => b.text ++ b.ending ++ b.breaks

def readLines? (folded : Bool) (indentation : Nat) : Nat → Block → Cursor → Option (Block × Cursor)
  | 0, _, _ => none
  | fuel + 1, b, c =>
    if c.column ≠ indentation || c.rest.isEmpty then some (b, c)
    else
      let (line, after) := c.takeWhile (!isBreak ·)
      let b := { b.add folded line with ending := after.rest.take 1 }
      match readMargin? indentation after.next with
      | some (margin, next) =>
        readLines? folded indentation fuel { b with breaks := margin.breaks } next
      | none => none

end Block

/-- Reads a block at its indicator. Its lines are indented to `low` at least; an indentation that is
given counts from the column before that. -/
def readBlock? (folded : Bool) (low : Nat) (c : Cursor) : Option (List Char × Cursor) := do
  let (header, c) ← BlockHeader.read? c.next
  let c ← c.endLine?
  let given := if header.indentation = 0 then 0 else low - 1 + header.indentation
  let (margin, c) ← readMargin? given c
  let indentation := if given = 0 then max margin.widest (max low 1) else given
  let (block, c) ←
    Block.readLines? folded indentation (c.rest.length + 1) { breaks := margin.breaks } c
  return (block.finish header.chomping, c)

end EdgeCatalog.Yaml
