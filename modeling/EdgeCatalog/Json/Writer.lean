import EdgeCatalog.Json.Basic
import EdgeCatalog.Decimal.Shortest

/-! Writing JSON text, on one line or indented. -/
namespace EdgeCatalog.Json

def hex4 (n : Nat) : List Char :=
  let digits := Nat.toDigits 16 n
  List.replicate (4 - digits.length) '0' ++ digits

def writeChar (c : Char) : List Char :=
  if c = '"' then ['\\', '"']
  else if c = '\\' then ['\\', '\\']
  else if c = '\n' then ['\\', 'n']
  else if c = '\r' then ['\\', 'r']
  else if c = '\t' then ['\\', 't']
  else if c.toNat = 8 then ['\\', 'b']
  else if c.toNat = 12 then ['\\', 'f']
  else if c.toNat < 0x20 then '\\' :: 'u' :: hex4 c.toNat
  else [c]

def writeString (s : String) : String :=
  String.ofList ('"' :: s.toList.flatMap writeChar ++ ['"'])

def writeNumber : Number → String
  | .int n => toString n
  | .double bits => Decimal.floatText bits

mutual

/-- On one line, without spaces. -/
def write : Json → String
  | .null => "null"
  | .bool true => "true"
  | .bool false => "false"
  | .number n => writeNumber n
  | .string s => writeString s
  | .array items => "[" ++ writeItems items ++ "]"
  | .object fields => "\x7b" ++ writeFields fields ++ "\x7d"

def writeItems : List Json → String
  | [] => ""
  | [item] => write item
  | item :: next :: rest => write item ++ "," ++ writeItems (next :: rest)

def writeFields : List (String × Json) → String
  | [] => ""
  | [(name, value)] => writeString name ++ ":" ++ write value
  | (name, value) :: next :: rest =>
    writeString name ++ ":" ++ write value ++ "," ++ writeFields (next :: rest)

end

def indent (level : Nat) : String :=
  String.ofList (List.replicate (2 * level) ' ')

mutual

/-- Two spaces for a level, an item or a field on a line. -/
def pretty (level : Nat) : Json → String
  | .null => "null"
  | .bool true => "true"
  | .bool false => "false"
  | .number n => writeNumber n
  | .string s => writeString s
  | .array [] => "[]"
  | .array (item :: rest) =>
    "[\n" ++ prettyItems (level + 1) (item :: rest) ++ "\n" ++ indent level ++ "]"
  | .object [] => "\x7b\x7d"
  | .object (field :: rest) =>
    "\x7b\n" ++ prettyFields (level + 1) (field :: rest) ++ "\n" ++ indent level ++ "\x7d"

def prettyItems (level : Nat) : List Json → String
  | [] => ""
  | [item] => indent level ++ pretty level item
  | item :: next :: rest =>
    indent level ++ pretty level item ++ ",\n" ++ prettyItems level (next :: rest)

def prettyFields (level : Nat) : List (String × Json) → String
  | [] => ""
  | [(name, value)] => indent level ++ writeString name ++ ": " ++ pretty level value
  | (name, value) :: next :: rest =>
    indent level ++ writeString name ++ ": " ++ pretty level value ++ ",\n"
      ++ prettyFields level (next :: rest)

end

end EdgeCatalog.Json
