import EdgeCatalog.CommandLine.Arguments
import EdgeCatalog.Config.File
import EdgeCatalog.Journal
import EdgeCatalog.Schema
import EdgeCatalog.Store.DeviceStore
import EdgeCatalog.Store.ServiceStore
import EdgeCatalog.Sweeper

/-! How the program starts: from the command line, the environment and the files to a catalog that
is swept, or to the text of an error. -/
namespace EdgeCatalog

open CommandLine (Options)

/-- What the program finds around it. -/
structure Surroundings where
  environment : List (String × String)
  /-- The file under a path. -/
  file : String → Config.File
  /-- The readings of the clock and of the timer. -/
  now : Instant
  timer : Nat := 86400 * Sweeper.timerSecond

/-- An error with what was being done, and the texts of its causes. -/
structure Abort where
  context : String
  causes : List String
  deriving DecidableEq

namespace Abort

/-- An error of the catalog; a fault of a file is its own further cause. -/
def ofError (context : String) (e : Error) : Abort :=
  match e with
  | .file cause => ⟨context, [e.message, cause.reason]⟩
  | e => ⟨context, [e.message]⟩

/-- Lines after the first are indented. -/
def causeText (indent first : String) (cause : String) : String :=
  first ++ String.join ((Text.segments '\n' cause).intersperse ("\n" ++ indent))

def numbered (n : Nat) : List String → String
  | [] => ""
  | cause :: rest =>
    let number := toString n
    let start := String.ofList (List.replicate (5 - number.length) ' ') ++ number ++ ": "
    "\n" ++ causeText "       " start cause ++ numbered (n + 1) rest

def text (a : Abort) : String :=
  "Error: " ++ a.context ++
    (match a.causes with
    | [] => ""
    | [cause] => "\n\nCaused by:\n" ++ causeText "    " "    " cause
    | causes => "\n\nCaused by:" ++ numbered 0 causes) ++ "\n"

end Abort

namespace Startup

/-- The configuration of the file, if there is one, with the options given in its place. -/
def merge (c : Config) (o : Options) : Config :=
  { c with
    kind := o.kind.getD c.kind
    maxPerPage := o.maxPerPage.getD c.maxPerPage
    sweepIntervalSecs := o.sweepIntervalSecs.getD c.sweepIntervalSecs }

/-- The configuration that the options ask for; it is valid. -/
def loadConfig (o : Options) (file : String → Config.File) : Except Abort Config := do
  let base ← match o.config with
    | none => .ok {}
    | some path =>
      (Config.load path (file path)).mapError (.ofError ("failed to load config " ++ path))
  let c := merge base o
  c.check.mapError (.ofError "invalid configuration")
  return c

/-- A store of either kind. -/
inductive Catalog
  | devices (store : DeviceStore)
  | services (store : ServiceStore)

/-- A catalog with its sweeper, and where its servers listen. -/
structure Running where
  catalog : Catalog
  sweeper : Sweeper
  health : CommandLine.Address
  metrics : CommandLine.Address

/-- What the log says first. -/
def opening (c : Config) : List Event :=
  [.notice "Starting IoT catalog",
   .notice ("  Name: " ++ c.name),
   .notice ("  Kind: " ++ c.kind.title),
   .notice ("  Endpoint: " ++ c.endpoint),
   .notice ("  Max per page: " ++ toString c.maxPerPage),
   .notice ("  Sweep interval: " ++ toString c.sweepIntervalSecs ++ "s")]

/-- The empty catalog, with its own registration in it where that is asked for. -/
def openCatalog (c : Config) (now : Instant) : Except Abort Catalog × List Event :=
  match c.kind with
  | .device => (.ok (.devices { maxPerPage := c.maxPerPage }), [])
  | .service =>
    let store : ServiceStore := { maxPerPage := c.maxPerPage }
    if c.selfRegister then
      let step := store.add now c.selfRegistration
      match step.result with
      | .ok service => (.ok (.services step.store), step.events ++ [.selfRegistered service.id])
      | .error e => (.error (.ofError "self-registration failed" e), step.events)
    else (.ok (.services store), [])

/-- Opens the catalog and then starts the sweeper. -/
def start (c : Config) (o : Options) (s : Surroundings) : Except Abort Running × List Event :=
  let (catalog, events) := openCatalog c s.now
  let events := opening c ++ events
  match catalog with
  | .error abort => (.error abort, events)
  | .ok catalog =>
    match (Sweeper.spawn s.timer (c.sweepIntervalSecs.toNat * Sweeper.timerSecond) {}).result with
    | .error e => (.error (.ofError "failed to start expiry sweeper" e), events)
    | .ok sweeper => (.ok ⟨catalog, sweeper, o.healthEndpoint, o.metricsEndpoint⟩, events)

/-- How a start ends. -/
inductive Ending
  /-- The program prints lines and is done. -/
  | printed (lines : List String)
  | refused (fault : CommandLine.Fault)
  | aborted (abort : Abort)
  | running (state : Running)

/-- An ending with what happened before it. -/
structure Report where
  ending : Ending
  events : List Event := []
  journal : Journal := {}
  /-- Complaints about the log filter. -/
  complaints : List String := []

/-- The lines of the log. -/
def Report.log (r : Report) : List LogLine :=
  r.journal.lines r.events

/-- The status with which the program ends, if it does. -/
def Report.exitCode (r : Report) : Nat :=
  match r.ending with
  | .printed _ => 0
  | .refused _ => 2
  | .aborted _ => 1
  | .running _ => 0

/-- What goes to the error output. -/
def Report.errorText (r : Report) : String :=
  String.join (r.complaints.map (· ++ "\n")) ++
    match r.ending with
    | .aborted abort => abort.text
    | .refused fault => fault.message ++ "\n"
    | _ => ""

/-- Starts a catalog with the given options. -/
def launch (o : Options) (s : Surroundings) : Report :=
  if o.printSchema = some true then
    { ending := .printed (Text.segments '\n' (Schema.all.pretty 0)) }
  else
    let (filter, complaints) :=
      LogFilter.ofOptions (s.environment.lookup "RUST_LOG") (o.logLevel.getD "info")
    let report (ending : Ending) (events : List Event) : Report :=
      { ending, events, complaints, journal := { filter, asJson := o.logJson.getD false } }
    match loadConfig o s.file with
    | .error abort => report (.aborted abort) []
    | .ok c =>
      let (result, events) := start c o s
      match result with
      | .error abort => report (.aborted abort) events
      | .ok running => report (.running running) (events ++ [running.sweeper.started])

/-- The program, up to the point where it begins to serve. -/
def run (arguments : List String) (s : Surroundings) : Report :=
  match CommandLine.parse arguments s.environment with
  | .error fault => { ending := .refused fault }
  | .ok .help => { ending := .printed CommandLine.helpLines }
  | .ok .version => { ending := .printed [CommandLine.versionText] }
  | .ok (.run options) => launch options s

end Startup

end EdgeCatalog
