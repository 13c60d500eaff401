/-! Texts without the characters and sequences that steer a terminal. A sequence begins with an
escape character; what kind it is, and where it ends, depends on the characters after that. -/
namespace EdgeCatalog.Text

/-- Where in a sequence a text is. -/
inductive Phase
  /-- Outside of all sequences. -/
  | outside
  /-- After the escape character. -/
  | escape
  /-- After a character that prepares the last one. -/
  | prepared
  /-- In a control sequence, with its parameters. -/
  | control
  /-- In the parameters of a device control string. -/
  | deviceStart
  | deviceParameters
  | devicePrepared
  /-- In a string that ends in the octet 0x9c. -/
  | string
  /-- In a command that ends in a bell. -/
  | command
  deriving DecidableEq

namespace Phase

/-- The phase after an ASCII character inside a sequence. -/
def nextAscii (p : Phase) (n : Nat) : Phase :=
  if n = 0x1b then .escape
  else if n = 0x18 ∨ n = 0x1a then .outside
  else match p with
    | .outside => .outside
    | .escape =>
      if n < 0x20 ∨ n = 0x7f then .escape
      else if n < 0x30 then .prepared
      else if n = 0x50 then .deviceStart
      else if n = 0x58 ∨ n = 0x5e ∨ n = 0x5f then .string
      else if n = 0x5b then .control
      else if n = 0x5d then .command
      else .outside
    | .prepared => if 0x30 ≤ n ∧ n < 0x7f then .outside else .prepared
    | .control => if 0x40 ≤ n ∧ n < 0x7f then .outside else .control
    | .deviceStart =>
      if n < 0x20 ∨ n = 0x7f then .deviceStart
      else if n < 0x30 then .devicePrepared
      else if n < 0x40 then .deviceParameters
      else .string
    | .deviceParameters =>
      if n < 0x20 ∨ n = 0x7f then .deviceParameters
      else if n < 0x30 then .devicePrepared
      else if n < 0x3c then .deviceParameters
      else .string
    | .devicePrepared => if n < 0x30 ∨ n = 0x7f then .devicePrepared else .string
    | .string => .string
    | .command => if n = 0x07 then .outside else .command

/-- The phase after a character inside a sequence. -/
def next (p : Phase) (c : Char) : Phase :=
  if c.toNat < 0x80 then p.nextAscii c.toNat
  else if p = .string ∧ 0x9c ∈ String.utf8EncodeChar c then .outside
  else p

/-- White space breaks into all sequences but strings and commands. -/
def admitsSpace : Phase → Bool
  | .outside | .escape | .prepared | .control => true
  | _ => false

end Phase

/-- The control characters that are white space. -/
def isLayout (c : Char) : Bool :=
  c.toNat ∈ [0x09, 0x0a, 0x0c, 0x0d]

/-- Is the character shown outside of sequences? -/
def isShown (c : Char) : Bool :=
  isLayout c || (0x20 ≤ c.toNat && c.toNat ≠ 0x7f)

/-- Leaves out what steers a terminal. While text is shown (`shows`), the phase of the sequence
before it is kept: white space in a sequence, and all text after it, is shown up to the next
character that is not, and there the sequence goes on. -/
def showFrom (p : Phase) (shows : Bool) : List Char → List Char
  | [] => []
  | c :: rest =>
    if shows && isShown c then
      c :: showFrom (if c.toNat < 0x80 then p else .outside) true rest
    else if !shows && (p = .outside && isShown c || p.admitsSpace && isLayout c) then
      c :: showFrom p true rest
    else showFrom (p.next c) false rest

/-- The text as a terminal shows it. -/
def shown (text : String) : String :=
  String.ofList (showFrom .outside false text.toList)

end EdgeCatalog.Text
