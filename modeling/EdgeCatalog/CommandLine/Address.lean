import EdgeCatalog.Decimal.Numeral
import EdgeCatalog.Text.Digits

/-! Socket addresses: an IPv4 or a bracketed IPv6 address with a port. -/
namespace EdgeCatalog.CommandLine

/-- The address of a host. The scope of an IPv6 address is zero where none is given. -/
inductive Host
  | v4 (octets : Vector UInt8 4)
  | v6 (groups : Vector UInt16 8) (scope : UInt32)
  deriving DecidableEq

structure Address where
  host : Host
  port : UInt16
  deriving DecidableEq

namespace Address

/-- A port of every address of this host. -/
def anyHost (port : UInt16) : Address :=
  ⟨.v4 #v[0, 0, 0, 0], port⟩

/-! ## Reading -/

open EdgeCatalog.Decimal (takeDigits digitsValue)
open EdgeCatalog.Text (hexDigit? digitsIn?)

/-- A decimal number below `bound`, of any number of digits. -/
def number? (bound : Nat) (cs : List Char) : Option (Nat × List Char) :=
  let (digits, rest) := takeDigits cs
  if digits.isEmpty || bound ≤ digitsValue digits then none else some (digitsValue digits, rest)

/-- A number from 0 to 255 without leading zeros. -/
def octet? (cs : List Char) : Option (UInt8 × List Char) :=
  let (digits, rest) := takeDigits cs
  if digits.isEmpty || 255 < digitsValue digits || (digits.head? = some 0 && digits.length > 1) then
    none
  else some (UInt8.ofNat (digitsValue digits), rest)

def mark? (c : Char) : List Char → Option (List Char)
  | [] => none
  | d :: rest => if d = c then some rest else none

/-- Four octets between points. -/
def ipv4? (cs : List Char) : Option (Vector UInt8 4 × List Char) := do
  let (a, cs) ← octet? cs
  let (b, cs) ← octet? (← mark? '.' cs)
  let (c, cs) ← octet? (← mark? '.' cs)
  let (d, cs) ← octet? (← mark? '.' cs)
  return (#v[a, b, c, d], cs)

/-- One to four hexadecimal digits. -/
def group? (cs : List Char) : Option (UInt16 × List Char) :=
  let digits := cs.takeWhile fun c => (hexDigit? c).isSome
  if digits.length > 4 then none
  else (digitsIn? 16 digits).map fun n => (UInt16.ofNat n, cs.drop digits.length)

/-- Two groups that hold four octets. -/
def embed (octets : Vector UInt8 4) : List UInt16 :=
  let pair (high low : UInt8) : UInt16 := high.toUInt16 * 256 + low.toUInt16
  [pair octets[0] octets[1], pair octets[2] octets[3]]

/-- Up to `limit` groups between colons; an IPv4 address may stand for the last two. Tells the
groups, whether they end in an IPv4 address, and what follows. -/
def groups (first : Bool) : Nat → List Char → List UInt16 × Bool × List Char
  | 0, cs => ([], false, cs)
  | limit + 1, cs =>
    match if first then some cs else mark? ':' cs with
    | none => ([], false, cs)
    | some start =>
      match if 0 < limit then ipv4? start else none with
      | some (octets, rest) => (embed octets, true, rest)
      | none =>
        match group? start with
        | none => ([], false, cs)
        | some (group, rest) =>
          let (later, embedded, rest) := groups false limit rest
          (group :: later, embedded, rest)

/-- Eight groups: some at the start, some at the end, and zeros between them. -/
def spread (head tail : List UInt16) : Vector UInt16 8 :=
  let all := head ++ List.replicate (8 - head.length - tail.length) 0 ++ tail
  Vector.ofFn fun i => (all[i.val]?).getD 0

/-- Eight groups, or fewer with two colons for a run of zeros. -/
def ipv6? (cs : List Char) : Option (Vector UInt16 8 × List Char) :=
  let (head, embedded, rest) := groups true 8 cs
  if head.length = 8 then some (spread head [], rest)
  else if embedded then none
  else do
    let rest ← mark? ':' (← mark? ':' rest)
    let (tail, _, rest) := groups true (7 - head.length) rest
    some (spread head tail, rest)

/-- A scope is a number after a percent sign. -/
def scope? : List Char → Option (UInt32 × List Char)
  | '%' :: rest => (number? UInt32.size rest).map fun (n, rest) => (UInt32.ofNat n, rest)
  | cs => some (0, cs)

/-- A port after a colon, and nothing after it. -/
def port? (cs : List Char) : Option UInt16 := do
  let (port, rest) ← number? UInt16.size (← mark? ':' cs)
  if rest.isEmpty then some (UInt16.ofNat port) else none

def ofV4? (cs : List Char) : Option Address := do
  let (octets, rest) ← ipv4? cs
  return ⟨.v4 octets, ← port? rest⟩

def ofV6? (cs : List Char) : Option Address := do
  let (groups, rest) ← ipv6? (← mark? '[' cs)
  let (scope, rest) ← scope? rest
  return ⟨.v6 groups scope, ← port? (← mark? ']' rest)⟩

def ofText? (text : String) : Option Address :=
  ofV4? text.toList <|> ofV6? text.toList

/-! ## Writing -/

def octetsText (octets : Vector UInt8 4) : String :=
  ".".intercalate (octets.toList.map fun n => toString n.toNat)

def groupText (group : UInt16) : String :=
  String.ofList (Nat.toDigits 16 group.toNat)

/-- The two octets in a group. -/
def pairText (group : UInt16) : String :=
  toString (group.toNat / 256) ++ "." ++ toString (group.toNat % 256)

/-- How many zeros a list begins with. -/
def zeros (groups : List UInt16) : Nat :=
  (groups.takeWhile (· = 0)).length

/-- The place and length of the first longest run of zeros, from a place on. -/
def longestRun (place : Nat) : List UInt16 → Nat × Nat
  | [] => (place, 0)
  | group :: rest =>
    let here := zeros (group :: rest)
    let later := longestRun (place + 1) rest
    if later.2 ≤ here then (place, here) else later

/-- Two colons stand for the longest run of at least two zeros; an address that embeds an IPv4
address shows it as such. -/
def groupsText (groups : Vector UInt16 8) : String :=
  let all := groups.toList
  let join (part : List UInt16) := ":".intercalate (part.map groupText)
  if zeros all = 5 ∧ (all.drop 5).head? = some 0xffff then
    "::ffff:" ++ ".".intercalate ((all.drop 6).map pairText)
  else
    let run := longestRun 0 all
    if run.2 < 2 then join all
    else join (all.take run.1) ++ "::" ++ join (all.drop (run.1 + run.2))

def hostText : Host → String
  | .v4 octets => octetsText octets
  | .v6 groups scope =>
    "[" ++ groupsText groups ++ (if scope = 0 then "" else "%" ++ toString scope.toNat) ++ "]"

def text (a : Address) : String :=
  hostText a.host ++ ":" ++ toString a.port.toNat

end Address

end EdgeCatalog.CommandLine
