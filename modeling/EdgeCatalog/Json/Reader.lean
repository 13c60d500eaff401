import EdgeCatalog.Json.Draft
import EdgeCatalog.Decimal.Numeral
import EdgeCatalog.Text.Digits

/-! Reading JSON text. The tree keeps fields in the order of the text, repetitions included. Arrays
and objects that are looked at may be nested 127 levels deep. -/
namespace EdgeCatalog.Json

def isSpace (c : Char) : Bool :=
  c = ' ' || c = '\n' || c = '\r' || c = '\t'

def skipSpaces (cs : List Char) : List Char :=
  cs.dropWhile isSpace

def readHex4? : List Char → Option (Nat × List Char)
  | a :: b :: c :: d :: rest => (Text.digitsIn? 16 [a, b, c, d]).map (·, rest)
  | _ => none

/-- A code point of a string as written: a character, or half of a surrogate pair. -/
def readEscape? : List Char → Option (Nat × List Char)
  | '"' :: rest => some (0x22, rest)
  | '\\' :: rest => some (0x5c, rest)
  | '/' :: rest => some (0x2f, rest)
  | 'b' :: rest => some (8, rest)
  | 'f' :: rest => some (12, rest)
  | 'n' :: rest => some (10, rest)
  | 'r' :: rest => some (13, rest)
  | 't' :: rest => some (9, rest)
  | 'u' :: rest => readHex4? rest
  | _ => none

/-- The code points up to the closing quote; control characters must be escaped. -/
def readCodes? : Nat → List Nat → List Char → Option (List Nat × List Char)
  | 0, _, _ => none
  | _ + 1, _, [] => none
  | fuel + 1, done, c :: rest =>
    if c = '"' then some (done.reverse, rest)
    else if c = '\\' then
      match readEscape? rest with
      | some (code, rest) => readCodes? fuel (code :: done) rest
      | none => none
    else if c.toNat < 0x20 then none
    else readCodes? fuel (c.toNat :: done) rest

/-- The characters of code points. Two surrogates that form a pair are one character, and a surrogate
does not stand alone. -/
def charsOf? : List Nat → Option (List Char)
  | [] => some []
  | high :: low :: rest =>
    if 0xd800 ≤ high ∧ high < 0xdc00 ∧ 0xdc00 ≤ low ∧ low < 0xe000 then
      let code := 0x10000 + (high - 0xd800) * 0x400 + (low - 0xdc00)
      (charsOf? rest).map (Char.ofNat code :: ·)
    else if 0xd800 ≤ high ∧ high < 0xe000 then none
    else (charsOf? (low :: rest)).map (Char.ofNat high :: ·)
  | [code] => if 0xd800 ≤ code ∧ code < 0xe000 then none else some [Char.ofNat code]

/-- Reads a string after its opening quote. -/
def readString? (cs : List Char) : Option (Option String × List Char) :=
  (readCodes? (cs.length + 1) [] cs).map fun (codes, rest) =>
    ((charsOf? codes).map String.ofList, rest)

def readNumber? (cs : List Char) : Option (Option Number × List Char) :=
  (Decimal.Numeral.read? cs).map fun (numeral, rest) =>
    match numeral.int? with
    | some n => (some (.int n), rest)
    | none => (numeral.floatBits?.map .double, rest)

mutual

/-- Reads a value after white space. -/
def readValue? : Nat → List Char → Option (Draft × List Char)
  | 0, _ => none
  | fuel + 1, cs =>
    match skipSpaces cs with
    | 'n' :: 'u' :: 'l' :: 'l' :: rest => some (.null, rest)
    | 't' :: 'r' :: 'u' :: 'e' :: rest => some (.bool true, rest)
    | 'f' :: 'a' :: 'l' :: 's' :: 'e' :: rest => some (.bool false, rest)
    | '"' :: rest => (readString? rest).map fun (s, rest) => (.string s, rest)
    | '[' :: rest =>
      match skipSpaces rest with
      | ']' :: rest => some (.array [], rest)
      | rest => (readItems? fuel [] rest).map fun (items, rest) => (.array items, rest)
    | '{' :: rest =>
      match skipSpaces rest with
      | '}' :: rest => some (.object [], rest)
      | rest => (readFields? fuel [] rest).map fun (fields, rest) => (.object fields, rest)
    | cs => (readNumber? cs).map fun (n, rest) => (.number n, rest)

/-- Reads items up to the closing bracket. -/
def readItems? : Nat → List Draft → List Char → Option (List Draft × List Char)
  | 0, _, _ => none
  | fuel + 1, done, cs =>
    match readValue? fuel cs with
    | some (item, rest) =>
      match skipSpaces rest with
      | ',' :: rest => readItems? fuel (item :: done) rest
      | ']' :: rest => some ((item :: done).reverse, rest)
      | _ => none
    | none => none

/-- Reads fields up to the closing brace. -/
def readFields? : Nat → List (Option String × Draft) → List Char →
    Option (List (Option String × Draft) × List Char)
  | 0, _, _ => none
  | fuel + 1, done, cs =>
    match skipSpaces cs with
    | '"' :: rest =>
      match readString? rest with
      | some (name, rest) =>
        match skipSpaces rest with
        | ':' :: rest =>
          match readValue? fuel rest with
          | some (value, rest) =>
            match skipSpaces rest with
            | ',' :: rest => readFields? fuel ((name, value) :: done) rest
            | '}' :: rest => some (((name, value) :: done).reverse, rest)
            | _ => none
          | none => none
        | _ => none
      | none => none
    | _ => none

end

/-- Reads a whole text. -/
def Draft.ofText? (text : String) : Option Draft :=
  let cs := text.toList
  match readValue? (2 * cs.length + 2) cs with
  | some (value, rest) => if (skipSpaces rest).isEmpty then some value else none
  | none => none

/-- The greatest number of arrays and objects around a value, itself included. -/
def maxDepth : Nat := 127

/-- The value of what is looked at in a text. -/
def readAs? (outline : Outline) (text : String) : Option Json :=
  Draft.ofText? text >>= (·.view? outline maxDepth)

/-- The value of a text. -/
def read? (text : String) : Option Json :=
  readAs? .whole text

end EdgeCatalog.Json
