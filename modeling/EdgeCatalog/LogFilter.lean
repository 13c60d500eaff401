import EdgeCatalog.Log
import EdgeCatalog.Text.Alphanumeric
import EdgeCatalog.Text.Blank
import EdgeCatalog.Text.Digits
import EdgeCatalog.Text.Lowercase
import EdgeCatalog.Text.Pattern
import EdgeCatalog.Text.Segments

/-! Which events are logged: a list of directives, each with a level for the parts of the program
whose name begins with its target. The directive with the longest target decides. -/
namespace EdgeCatalog

/-- Logs events of a level of at least `threshold`; `none` logs nothing. A directive with a field is
only for the events that have it, and goes before those without. -/
structure LogDirective where
  target : String := ""
  field : Option String := none
  threshold : Option Level
  deriving DecidableEq

namespace LogDirective

/-- Is the directive for a line of the log? -/
def applies (d : LogDirective) (line : LogLine) : Bool :=
  d.target.toList.isPrefixOf line.target.toList
    && d.field.all fun name => name = "message" || (line.fields.lookup name).isSome

/-- Does a directive decide before another one? -/
def precedes (d e : LogDirective) : Bool :=
  e.target.utf8ByteSize < d.target.utf8ByteSize
    || e.target.utf8ByteSize = d.target.utf8ByteSize
      && match d.field, e.field with
        | some _, none => true
        | some name, some other => other < name
        | none, _ => false

end LogDirective

structure LogFilter where
  directives : List LogDirective := []
  deriving DecidableEq

namespace LogFilter

/-- Puts a directive in place of an older one for the same events. -/
def add (f : LogFilter) (d : LogDirective) : LogFilter :=
  ⟨d :: f.directives.filter fun e => e.target ≠ d.target || e.field ≠ d.field⟩

/-- The directive that decides about a line. -/
def deciding? (f : LogFilter) (line : LogLine) : Option LogDirective :=
  (f.directives.filter (·.applies line)).foldl
    (fun best d => match best with
      | some b => if d.precedes b then some d else some b
      | none => some d) none

def admits (f : LogFilter) (line : LogLine) : Bool :=
  match f.deciding? line with
  | some { threshold := some threshold, .. } => threshold.rank ≤ line.level.rank
  | _ => false

/-! ## Directives as texts -/

/-- The number of a level after an optional plus sign; 0 stands for no level at all. -/
def numbered? (text : String) : Option (Option Level) :=
  let digits := match text.toList with
    | '+' :: rest => rest
    | cs => cs
  match Text.digitsIn? 10 digits with
  | some 0 => some none
  | some 1 => some (some .error)
  | some 2 => some (some .warn)
  | some 3 => some (some .info)
  | some 4 => some (some .debug)
  | some 5 => some (some .trace)
  | _ => none

/-- A level by its number or its name, in letters of any case; `off` stands for no level at all. -/
def threshold? (text : String) : Option (Option Level) :=
  match numbered? text with
  | some threshold => some threshold
  | none =>
    let name := String.ofList (text.toList.map Char.toLower)
    if name = "trace" then some (some .trace)
    else if name = "debug" then some (some .debug)
    else if name = "info" then some (some .info)
    else if name = "warn" then some (some .warn)
    else if name = "error" then some (some .error)
    else if name = "off" then some none
    else none

/-- Why a text is no directive. -/
inductive Fault
  | form
  | level
  /-- The value of a field is no pattern. -/
  | value
  deriving DecidableEq

def Fault.message : Fault → String
  | .form => "invalid filter directive"
  | .level =>
    "error parsing level filter: expected one of \"off\", \"error\", \"warn\", \"info\", "
      ++ "\"debug\", \"trace\", or a number 0-5"
  | .value => "invalid field filter: error building NFA"

/-- A number in decimal notation, with or without a sign, a fraction and an exponent. -/
def isNumber (text : String) : Bool :=
  let unsigned (cs : List Char) : List Char := match cs with
    | '+' :: rest => rest
    | '-' :: rest => rest
    | cs => cs
  let cs := unsigned text.toList
  let mantissa := cs.takeWhile fun c => c ≠ 'e' && c ≠ 'E'
  let exponent := unsigned (cs.drop (mantissa.length + 1))
  let digits := mantissa.filter (· ≠ '.')
  String.ofList (cs.map Char.toLower) ∈ ["inf", "infinity", "nan"]
    || mantissa.length ≤ digits.length + 1 && !digits.isEmpty && digits.all Char.isDigit
      && (mantissa.length = cs.length || !exponent.isEmpty && exponent.all Char.isDigit)

/-- The value that a field is to have is a number, or a pattern for its text. -/
def isFieldValue (text : String) : Bool :=
  isNumber text || Text.isPattern text

/-- What a directive is about. A span is never logged, and neither are events by the value of a
field; directives about these are read and have no effect. -/
structure Subject where
  target : String := ""
  field : Option String := none
  idle : Bool := false

def Subject.directive? (s : Subject) (threshold : Option Level) : Option LogDirective :=
  if s.idle then none else some { target := s.target, field := s.field, threshold }

/-- A directive in a text. Its parts are found in the text without the white space around it, and
are taken, at the same distances from the start, from the text as it stands. -/
structure Draft where
  text : String
  deriving DecidableEq

namespace Draft

/-- The part between two distances in bytes. -/
def part (d : Draft) (start stop : Nat) : Except Fault String :=
  match String.fromUTF8? (d.text.toUTF8.extract start stop) with
  | some part => .ok part
  | none => .error .form

/-- The part from a distance on. -/
def partFrom (d : Draft) (start : Nat) : Except Fault String :=
  d.part start d.text.utf8ByteSize

def width (cs : List Char) : Nat :=
  (String.ofList cs).utf8ByteSize

/-- Reads the level from a distance on; without one, everything is logged. -/
def readLevel (d : Draft) (s : Subject) (start : Nat) : Except Fault (Option LogDirective) := do
  let level ← d.partFrom start
  if level = "" then return s.directive? (some .trace)
  else match threshold? level with
    | some threshold => return s.directive? threshold
    | none => .error .level

/-- Reads what follows the square brackets. -/
def readEnding (d : Draft) (s : Subject) (start : Nat) :
    List Char → Except Fault (Option LogDirective)
  | [] => .ok (s.directive? (some .trace))
  | '=' :: _ => d.readLevel s (start + 1)
  | _ => .error .form

/-- Reads the closing bracket and what follows it. -/
def closeBrackets (d : Draft) (s : Subject) (start : Nat) :
    List Char → Except Fault (Option LogDirective)
  | ']' :: rest => d.readEnding s (start + 1) rest
  | _ => .error .form

/-- Reads a field in braces, which may be followed by a value, and the closing bracket. -/
def readField (d : Draft) (s : Subject) (start : Nat) (cs : List Char) :
    Except Fault (Option LogDirective) :=
  let content := cs.takeWhile (· ≠ '}')
  let stop := start + width content
  match cs.drop content.length with
  | '}' :: rest => do
    let field ← d.part start stop
    if field = "" then .error .form
    else
      match Text.segments '=' field with
      | name :: value :: _ =>
        if isFieldValue value then
          d.closeBrackets { s with field := some name, idle := true } (stop + 1) rest
        else .error .value
      | _ => d.closeBrackets { s with field := some field } (stop + 1) rest
  | _ => .error .form

/-- Reads the name of a span and a field, in square brackets. -/
def readBrackets (d : Draft) (target : String) (start : Nat) (cs : List Char) :
    Except Fault (Option LogDirective) :=
  let name := cs.takeWhile fun c => c ≠ ']' && c ≠ '{'
  let stop := start + width name
  match cs.drop name.length with
  | ']' :: rest => d.readEnding { target, idle := true } (stop + 1) rest
  | '{' :: rest => do
    let span ← d.part start stop
    d.readField { target, idle := span ≠ "" } (stop + 1) rest
  | _ => .error .form

/-- Can a target begin with a character? -/
def beginsTarget (c : Char) : Bool :=
  Text.isAlphanumeric c || c = '-' || c = ':' || c = '_'

/-- A level, or a target with brackets and a level, of which either may be missing. -/
def read (d : Draft) : Except Fault (Option LogDirective) :=
  let cs := Text.stripBlanks d.text.toList
  let head := cs.takeWhile fun c => c ≠ '=' && c ≠ '['
  let stop := width head
  match head with
  | [] =>
    match cs with
    | '[' :: rest => d.readBrackets "" 1 rest
    | _ => .error .form
  | first :: _ =>
    if !beginsTarget first then .error .form
    else match cs.drop head.length with
      | '=' :: _ => do
        d.readLevel { target := ← d.part 0 stop } (stop + 1)
      | '[' :: rest => do
        d.readBrackets (← d.part 0 stop) (stop + 1) rest
      | _ =>
        match threshold? d.text with
        | some threshold => .ok (some { threshold })
        | none => .ok (some { target := d.text, threshold := some .trace })

end Draft

/-- Directives between commas, and complaints about those that are none. -/
def parse (text : String) : LogFilter × List String :=
  ((Text.segments ',' text).filter (· ≠ "")).foldl
    (fun (f, complaints) part => match Draft.read ⟨part⟩ with
      | .ok (some d) => (f.add d, complaints)
      | .ok none => (f, complaints)
      | .error e => (f, complaints ++ ["ignoring `" ++ part ++ "`: " ++ e.message]))
    ({}, [])

/-- The level that an option names; any other text stands for `info`. -/
def levelOf (text : String) : Level :=
  let name := Text.lowercase text
  if name = "trace" then .trace
  else if name = "debug" then .debug
  else if name = "warn" then .warn
  else if name = "error" then .error
  else .info

/-- The filter of the environment, with the level of the options for everything else. -/
def ofOptions (environment : Option String) (level : String) : LogFilter × List String :=
  let (f, complaints) := parse (environment.getD "")
  (f.add { threshold := some (levelOf level) }, complaints)

end LogFilter

end EdgeCatalog
