import EdgeCatalog.CommandLine.Options

/-! Reading the arguments of the program, and then the environment. An option is checked when the
next one begins, or at the end; an argument that is not known at all is reported at once. -/
namespace EdgeCatalog.CommandLine

/-- What the arguments ask for. -/
inductive Request
  | run (options : Options)
  | help
  | version

/-- An option whose value is awaited or has just been read. -/
structure Pending where
  switch : Switch
  value : Option String

/-- The options settled so far. -/
structure Progress where
  options : Options := {}
  pending : Option Pending := none

namespace Progress

/-- Checks and sets the pending option. -/
def settle (p : Progress) : Except Fault Progress :=
  match p.pending with
  | none => .ok p
  | some ⟨switch, none⟩ => .error (.valueRequired switch)
  | some ⟨switch, some value⟩ =>
    (p.options.set switch value).map fun options => { options }

/-- Is the value of an option awaited? -/
def awaits (p : Progress) : Option Switch :=
  match p.pending with
  | some ⟨switch, none⟩ => some switch
  | _ => none

end Progress

/-- What an argument does: it goes on, or ends the reading. -/
inductive Turn
  | next (progress : Progress)
  | done (request : Request)

/-- An option without value. -/
def flag (p : Progress) (switch : Switch) : Except Fault Turn :=
  match p.settle with
  | .error e => .error e
  | .ok p =>
    match switch with
    | .help => .ok (.done .help)
    | .version => .ok (.done .version)
    | switch => (p.options.set switch "true").map fun options => .next { options }

/-- The name and the attached value of an argument after two dashes. -/
def splitValue (cs : List Char) : String × Option String :=
  match cs.dropWhile (· ≠ '=') with
  | _ :: value => (String.ofList (cs.takeWhile (· ≠ '=')), some (String.ofList value))
  | [] => (String.ofList cs, none)

def longOption (p : Progress) (cs : List Char) : Except Fault Turn :=
  let (name, attached) := splitValue cs
  match Switch.all.find? (·.long = name) with
  | none => .error (.unexpected ("--" ++ name))
  | some switch =>
    match switch.placeholder?.isSome, attached with
    | true, some value =>
      match p.settle with
      | .error e => .error e
      | .ok p => (p.options.set switch value).map fun options => .next { options }
    | true, none => p.settle.map fun p => .next { p with pending := some ⟨switch, none⟩ }
    | false, some value => .error (.unneededValue switch value)
    | false, none => flag p switch

def shortOptions (p : Progress) : List Char → Except Fault Turn
  | [] => .ok (.next p)
  | c :: rest =>
    match Switch.all.find? (·.short? = some c) with
    | none => .error (.unexpected (String.ofList ['-', c]))
    | some switch =>
      match flag p switch with
      | .error e => .error e
      | .ok (.done request) => .ok (.done request)
      | .ok (.next p) => shortOptions p rest

/-- One argument before `--`. -/
def readArgument (p : Progress) (argument : String) : Except Fault Turn :=
  match argument.toList with
  | '-' :: '-' :: name => longOption p name
  | '-' :: c :: rest => shortOptions p (c :: rest)
  | _ =>
    match p.awaits with
    | some switch => .ok (.next { p with pending := some ⟨switch, some argument⟩ })
    | none => .error (.unexpected argument)

/-- All arguments; nothing may follow `--`. -/
def readArguments (p : Progress) : List String → Except Fault Request
  | [] => p.settle.map fun p => .run p.options
  | "--" :: rest =>
    match rest with
    | [] => p.settle.map fun p => .run p.options
    | argument :: _ => .error (.unexpected argument)
  | argument :: rest =>
    match readArgument p argument with
    | .error e => .error e
    | .ok (.done request) => .ok request
    | .ok (.next p) => readArguments p rest

/-- Takes options that were not given from the environment. -/
def readEnvironment (environment : List (String × String)) (o : Options) :
    List Switch → Except Fault Options
  | [] => .ok o
  | switch :: rest =>
    let value? := if o.has switch then none
      else switch.setting? >>= fun name => environment.lookup name
    match value? with
    | none => readEnvironment environment o rest
    | some value =>
      match o.set switch value with
      | .error e => .error e
      | .ok o => readEnvironment environment o rest

/-- The request of a command line in an environment. -/
def parse (arguments : List String) (environment : List (String × String)) :
    Except Fault Request :=
  match readArguments {} arguments with
  | .error e => .error e
  | .ok (.run options) => (readEnvironment environment options Switch.all).map .run
  | .ok request => .ok request

/-! ## Help -/

def versionText : String := "iot-catalog 0.1.0"

def summaryText : String := "IoT Catalog - in-memory device and service registry"

def Switch.defaultText : Switch → String
  | .healthAddr => " [default: " ++ (Options.healthEndpoint {}).text ++ "]"
  | .metricsAddr => " [default: " ++ (Options.metricsEndpoint {}).text ++ "]"
  | .logLevel => " [default: info]"
  | _ => ""

def Switch.helpLines (s : Switch) : List String :=
  let letter := match s.short? with
    | some c => "  " ++ String.ofList ['-', c] ++ ", "
    | none => "      "
  let source := match s.setting? with
    | some name => " [env: " ++ name ++ "=]"
    | none => ""
  [letter ++ s.shown, "          " ++ s.description ++ source ++ s.defaultText]

def helpLines : List String :=
  [summaryText, "", "Usage: iot-catalog [OPTIONS]", "", "Options:"]
    ++ Switch.all.flatMap Switch.helpLines

end EdgeCatalog.CommandLine
