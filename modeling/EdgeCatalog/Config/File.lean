import EdgeCatalog.Config.Basic
import EdgeCatalog.Json.Reader
import EdgeCatalog.Yaml.Reader

/-! Configuration files: YAML for the names that end in `.yaml` or `.yml`, JSON for all others. -/
namespace EdgeCatalog.Config

/-! ## From YAML -/

/-- The entries of a mapping, whose keys are scalars, by the texts of their keys. -/
def entries? (d : Yaml.Document) (entries : List (Yaml × Yaml)) : Option (List (String × Yaml)) :=
  entries.mapM fun (key, value) => (d.scalar? key).map (·.text, value)

/-- Reads an entry with a scalar, which must not be given twice. -/
def entry? {α : Type} (d : Yaml.Document) (entries : List (String × Yaml)) (name : String)
    (default : α) (value? : Yaml.Scalar → Option α) : Option α :=
  match entries.filter (·.1 = name) with
  | [] => some default
  | [(_, value)] => d.scalar? value >>= value?
  | _ => none

def text? (s : Yaml.Scalar) : Option String :=
  some s.text

/-- A mapping with scalar keys, or nothing at all. -/
def ofYaml? (d : Yaml.Document) : Option Config :=
  match d.root with
  | .mapping entries => do
    let entries ← entries? d entries
    return {
      name := ← entry? d entries "name" "catalog" text?
      description := ← entry? d entries "description" "" text?
      host := ← entry? d entries "host" "localhost" text?
      kind := ← entry? d entries "kind" .device (·.choice? >>= CatalogKind.ofName?)
      storage := ← entry? d entries "storage" .memory (·.choice? >>= Storage.ofName?)
      endpoint := ← entry? d entries "endpoint" "0.0.0.0:8082" text?
      maxPerPage := ← entry? d entries "maxPerPage" 100 Yaml.Scalar.word?
      sweepIntervalSecs := ← entry? d entries "sweepIntervalSecs" 5 Yaml.Scalar.word?
      selfRegister := ← entry? d entries "selfRegister" true Yaml.Scalar.bool? }
  | .scalar s => if s.style = .plain ∧ s.text = "" then some {} else none
  | _ => none

/-! ## From JSON -/

def ofText? (text : String) : Option Config :=
  Json.readAs? outline text >>= ofJson?

/-! ## Files -/

/-- What is found under the name of a file. -/
inductive File
  | unreadable (cause : FileFault)
  | content (bytes : ByteArray)

def File.text : File → Except Error String
  | .unreadable cause => .error (.file cause)
  | .content bytes =>
    match String.fromUTF8? bytes with
    | some text => .ok text
    | none => .error (.file .encoding)

/-- The last component of a path, unless that leads upwards. -/
def fileName? (path : String) : Option String :=
  let parts := (Text.segments '/' path).reverse.dropWhile fun part => part = "" || part = "."
  match parts with
  | [] => none
  | part :: _ => if part = ".." then none else some part

/-- What follows the last point of a file name, if something stands before it. -/
def extension? (path : String) : Option String := do
  let name ← fileName? path
  match (Text.segments '.' name).reverse with
  | ending :: stem => if stem.all (· = "") && stem.length ≤ 1 then none else some ending
  | [] => none

def isYamlName (path : String) : Bool :=
  extension? path = some "yaml" || extension? path = some "yml"

/-- The configuration in a text. -/
def parse (path text : String) : Except Error Config :=
  if isYamlName path then
    match Yaml.Document.ofText? text >>= ofYaml? with
    | some c => .ok c
    | none => .error .malformedYaml
  else
    match ofText? text with
    | some c => .ok c
    | none => .error .malformedJson

/-- The configuration in a file, which has to be valid. -/
def load (path : String) (file : File) : Except Error Config := do
  let c ← parse path (← file.text)
  c.check
  return c

end EdgeCatalog.Config
