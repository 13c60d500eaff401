import EdgeCatalog.Text.Alphanumeric
import EdgeCatalog.Text.Digits

/-! Which texts are regular expressions. Counted repetitions, named classes and octal escapes are not
among them. -/
namespace EdgeCatalog.Text.Pattern

/-! ## Escapes -/

/-- Reads a character given by its code in hexadecimal digits. -/
def readCode? (width : Nat) (cs : List Char) : Option (Nat × List Char) := do
  if cs.length < width then none
  else
    let n ← digitsIn? 16 (cs.take width)
    if n.isValidChar then some (n, cs.drop width) else none

/-- Reads an escape after its backslash. A class of characters or a place in the text, which is no
single character, has no code. -/
def readEscape? : List Char → Option (Option Nat × List Char)
  | [] => none
  | c :: rest =>
    if c = 'x' then (readCode? 2 rest).map fun (n, rest) => (some n, rest)
    else if c = 'u' then (readCode? 4 rest).map fun (n, rest) => (some n, rest)
    else if c = 'U' then (readCode? 8 rest).map fun (n, rest) => (some n, rest)
    else if "dswDSWAzbB<>".toList.contains c then some (none, rest)
    else if c = 'a' then some (some 7, rest)
    else if c = 'f' then some (some 12, rest)
    else if c = 't' then some (some 9, rest)
    else if c = 'n' then some (some 10, rest)
    else if c = 'r' then some (some 13, rest)
    else if c = 'v' then some (some 11, rest)
    else if c.toNat < 0x80 ∧ !c.isAlphanum then some (some c.toNat, rest)
    else none

/-! ## Classes of characters -/

/-- Reads a member of a class: a character, or a class of its own in an escape. -/
def readMember? : List Char → Option (Option Nat × List Char)
  | [] => none
  | '\\' :: rest =>
    if rest.head?.any fun c => "AzbB<>".toList.contains c then none else readEscape? rest
  | c :: rest => some (some c.toNat, rest)

/-- The start of a class: a caret, dashes, and a closing bracket if nothing else is in front. -/
def openClass (cs : List Char) : List Char :=
  let cs := match cs with
    | '^' :: rest => rest
    | cs => cs
  let members := cs.dropWhile (· = '-')
  match members with
  | ']' :: rest => if members.length = cs.length then rest else members
  | members => members

/-- Reads `depth + 1` nested classes up to their closing brackets; what is left. -/
def readClass? : Nat → Nat → List Char → Option (List Char)
  | 0, _, _ => none
  | _ + 1, _, [] => none
  | fuel + 1, depth, c :: rest =>
    if c = '[' then readClass? fuel (depth + 1) (openClass rest)
    else if c = ']' then
      match depth with
      | 0 => some rest
      | depth + 1 => readClass? fuel depth rest
    else if (c = '&' || c = '-' || c = '~') && rest.head? = some c then
      readClass? fuel depth (rest.drop 1)
    else
      match readMember? (c :: rest) with
      | none => none
      | some (low, rest) =>
        match rest with
        | '-' :: next :: _ =>
          if next = ']' ∨ next = '-' then readClass? fuel depth rest
          else
            match low, readMember? (rest.drop 1) with
            | some low, some (some high, rest) =>
              if low ≤ high then readClass? fuel depth rest else none
            | _, _ => none
        | rest => readClass? fuel depth rest

/-! ## Groups -/

/-- Reads the flags at the start of a group, up to a colon or the closing bracket, which is left. -/
def readFlags? (seen : List Char) : List Char → Option (List Char × List Char)
  | [] => none
  | c :: rest =>
    if c = ':' ∨ c = ')' then
      if seen.head? = some '-' then none else some (seen, c :: rest)
    else if "imsUuRx-".toList.contains c && !seen.contains c then readFlags? (c :: seen) rest
    else none

/-- Reads the name of a group up to its closing bracket. -/
def readName? (cs : List Char) : Option (List Char) :=
  let name := cs.takeWhile (· ≠ '>')
  let fits := match name with
    | [] => false
    | first :: more =>
      (first = '_' || isAlphanumeric first && !first.isDigit)
        && more.all fun c => isAlphanumeric c || "_.[]".toList.contains c
  if fits && name.length < cs.length then some (cs.drop (name.length + 1)) else none

/-- The start of a group: flags alone, or a group that is to be closed. -/
inductive Opening
  | flags (rest : List Char)
  | group (rest : List Char)

def readOpening? : List Char → Option Opening
  | '?' :: 'P' :: '<' :: rest => (readName? rest).map .group
  | '?' :: '<' :: rest =>
    if rest.head? = some '!' ∨ rest.head? = some '=' then none else (readName? rest).map .group
  | '?' :: rest =>
    match readFlags? [] rest with
    | some (_, ':' :: rest) => some (.group rest)
    | some (seen, ')' :: rest) => if seen.isEmpty then none else some (.flags rest)
    | _ => none
  | rest => some (.group rest)

/-! ## Expressions -/

/-- Is this the rest of an expression with `groups` open groups? A repetition is only possible after
something that can be repeated. -/
def isRest : Nat → Nat → Bool → List Char → Bool
  | 0, _, _, _ => false
  | _ + 1, groups, _, [] => groups = 0
  | fuel + 1, groups, repeatable, c :: rest =>
    if c = '(' then
      match readOpening? rest with
      | some (.flags rest) => isRest fuel groups false rest
      | some (.group rest) => isRest fuel (groups + 1) false rest
      | none => false
    else if c = ')' then groups ≠ 0 && isRest fuel (groups - 1) true rest
    else if c = '|' then isRest fuel groups false rest
    else if c = '*' ∨ c = '+' ∨ c = '?' then
      let rest := match rest with
        | '?' :: rest => rest
        | rest => rest
      repeatable && isRest fuel groups true rest
    else if c = '{' then false
    else if c = '[' then
      match readClass? (rest.length + 1) 0 (openClass rest) with
      | some rest => isRest fuel groups true rest
      | none => false
    else if c = '\\' then
      match readEscape? rest with
      | some (_, rest) => isRest fuel groups true rest
      | none => false
    else isRest fuel groups true rest

end Pattern

/-- Is the text a regular expression? -/
def isPattern (text : String) : Bool :=
  Pattern.isRest (text.length + 1) 0 false text.toList

end EdgeCatalog.Text
