import EdgeCatalog.Text.Digits
import EdgeCatalog.Yaml.Tag

/-! YAML documents. An alias keeps the number of its anchor; what an anchor stands for is part of
the document. -/
namespace EdgeCatalog

namespace Yaml

/-- How a scalar is written. -/
inductive Style
  | plain
  | quoted
  | literal
  | folded
  deriving DecidableEq

structure Scalar where
  text : String
  style : Style := .plain
  tag : Option Tag := none
  deriving DecidableEq

end Yaml

inductive Yaml
  | scalar (content : Yaml.Scalar)
  | alias (anchor : Nat)
  | sequence (items : List Yaml)
  | mapping (entries : List (Yaml × Yaml))

namespace Yaml

/-- An entry without content. -/
def empty : Yaml :=
  .scalar { text := "" }

instance : Inhabited Yaml := ⟨empty⟩

/-- A document with what its anchors stand for, by their numbers: a scalar, or a collection, which
is `none`. Of several anchors with one number the last counts. -/
structure Document where
  root : Yaml
  anchors : List (Nat × Option Scalar) := []

/-- The scalar that a node is or stands for. -/
def Document.scalar? (d : Document) : Yaml → Option Scalar
  | .scalar s => some s
  | .alias anchor => (d.anchors.reverse.lookup anchor).join
  | _ => none

namespace Scalar

open EdgeCatalog.Text (digitsIn?)

/-- Is a value meant, and not a text? So it is without quotes, or in a literal block with the tag
of the type. -/
def isValue (s : Scalar) (type : String) : Bool :=
  s.style = .plain
    || s.style = .literal && s.tag = some (.ofString ("tag:yaml.org,2002:" ++ type))

def bool? (s : Scalar) : Option Bool :=
  if !s.isValue "bool" then none
  else if s.text ∈ ["true", "True", "TRUE"] then some true
  else if s.text ∈ ["false", "False", "FALSE"] then some false
  else none

/-- A 64-bit word: decimal without leading zeros, hexadecimal after `0x`, octal after `0o` or binary
after `0b`; a plus sign may stand in front. -/
def word? (s : Scalar) : Option UInt64 :=
  if !s.isValue "int" then none
  else
    let digits := match s.text.toList with
      | '+' :: rest => rest
      | cs => cs
    let value? := match digits with
      | '0' :: 'x' :: rest => digitsIn? 16 rest
      | '0' :: 'o' :: rest => digitsIn? 8 rest
      | '0' :: 'b' :: rest => digitsIn? 2 rest
      | ['0'] => some 0
      | '0' :: _ => none
      | cs => digitsIn? 10 cs
    match value? with
    | some n => if n < UInt64.size then some (UInt64.ofNat n) else none
    | none => none

/-- Does the scalar say that there is nothing? -/
def isNull (s : Scalar) : Bool :=
  s.style = .plain && s.text ∈ ["", "null", "Null", "NULL", "~"]

/-- A choice between names: a text, or a tag of one's own with nothing after it. -/
def choice? (s : Scalar) : Option String :=
  match s.tag.bind Tag.localName? with
  | none => some s.text
  | some name => if s.isNull then some name else none

end Scalar

end Yaml

end EdgeCatalog
