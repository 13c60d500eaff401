import EdgeCatalog.Startup

/-! What a running catalog answers over HTTP: whether it is alive, and its counters in the text
format of Prometheus. Only the path of a request counts. -/
namespace EdgeCatalog.Daemon

open Startup (Catalog)

structure Response where
  status : Nat
  contentType : Option String := none
  body : String
  deriving DecidableEq

def notFound : Response :=
  { status := 404, body := "not found" }

/-- The path of a request target, without the query. -/
def pathOf (target : String) : String :=
  String.ofList (target.toList.takeWhile fun c => c ≠ '?' && c ≠ '#')

/-- The health server. -/
def health (target : String) : Response :=
  if pathOf target ∈ ["/healthz", "/livez", "/readyz"] then { status := 200, body := "ok" }
  else notFound

/-! ## Counters as text -/

/-- A gauge holds a signed 64-bit number and is written as a float. -/
def gauge (n : Nat) : String :=
  toString (UInt64.ofNat (min n 9223372036854775807)).toFloat.toUInt64

def family (name help : String) (samples : List (String × Nat)) : String :=
  "# HELP " ++ name ++ " " ++ help ++ "\n# TYPE " ++ name ++ " gauge\n"
    ++ String.join (samples.map fun (labels, n) => name ++ labels ++ " " ++ gauge n ++ "\n")

def metrics : Catalog → Metrics
  | .devices store => store.metrics
  | .services store => store.metrics

def records : Catalog → Nat
  | .devices store => store.size
  | .services store => store.size

def resources : Catalog → Nat
  | .devices store => store.resourceCount
  | .services _ => 0

/-- The operations in the order of their names, the records and the resources. -/
def exposition (catalog : Catalog) : String :=
  let operations := (metrics catalog).operations
  let samples := (sortKeys (operations.map Prod.fst)).map fun op =>
    ("\x7bop=\"" ++ op ++ "\"\x7d", ((operations.lookup op).getD 0).toNat)
  family "catalog_operations" "Catalog operations since start" samples
    ++ family "catalog_records" "Records currently stored" [("", records catalog)]
    ++ family "catalog_resources" "Resources currently stored" [("", resources catalog)]

/-- The metrics server. -/
def exporter (catalog : Catalog) (target : String) : Response :=
  if pathOf target = "/metrics" then
    { status := 200, contentType := some "text/plain; version=0.0.4", body := exposition catalog }
  else notFound

/-! ## Requests -/

inductive Server
  | health
  | metrics
  deriving DecidableEq

def Server.title : Server → String
  | .health => "Health"
  | .metrics => "Metrics"

structure Request where
  server : Server
  target : String
  deriving DecidableEq

def respond (catalog : Catalog) (r : Request) : Response :=
  match r.server with
  | .health => health r.target
  | .metrics => exporter catalog r.target

/-- A host that has a network, or none. -/
inductive Network
  | reachable
  | unreachable
  deriving DecidableEq

/-- What a client sees of a request. -/
inductive Exchange
  | answered (response : Response)
  | failed (cause : FileFault)
  deriving DecidableEq

/-- Without a network no request reaches its server. -/
def exchange (network : Network) (catalog : Catalog) (r : Request) : Exchange :=
  match network with
  | .reachable => .answered (respond catalog r)
  | .unreachable => .failed (.other "Network is unreachable (os error 101)")

/-! ## Messages -/

/-- The target in the first line of a request: method, target and version between spaces. -/
def targetOf? (head : String) : Option String :=
  match Text.segments ' ' (String.ofList (head.toList.takeWhile fun c => c ≠ '\r' && c ≠ '\n')) with
  | [_, target, version] => if version ∈ ["HTTP/1.1", "HTTP/1.0"] then some target else none
  | _ => none

/-- A request that cannot be read. -/
def malformed : Response :=
  { status := 400, body := "" }

def answer (catalog : Catalog) (server : Server) (head : String) : Response :=
  match targetOf? head with
  | some target => respond catalog { server, target }
  | none => malformed

def reason (status : Nat) : String :=
  if status = 200 then "OK"
  else if status = 404 then "Not Found"
  else "Bad Request"

/-- The whole message; the connection is closed after it. -/
def Response.message (r : Response) : String :=
  let kind := match r.contentType with
    | some type => "content-type: " ++ type ++ "\r\n"
    | none => ""
  "HTTP/1.1 " ++ toString r.status ++ " " ++ reason r.status ++ "\r\n" ++ kind
    ++ "content-length: " ++ toString r.body.utf8ByteSize ++ "\r\nconnection: close\r\n\r\n"
    ++ r.body

/-! ## Time and shutdown -/

open Startup (Running)

/-- Makes the sweeps that are due. -/
def catchUp (state : Running) (clock : Nat → Instant) (now : Nat) : Running × List Event :=
  match state.catalog with
  | .devices store =>
    let (sweeper, store, events) := state.sweeper.runUntil clock now store
    ({ state with sweeper, catalog := .devices store }, events)
  | .services store =>
    let (sweeper, store, events) := state.sweeper.runUntil clock now store
    ({ state with sweeper, catalog := .services store }, events)

/-- What the log says when a server has its port. -/
def listening (server : Server) (address : CommandLine.Address) : Event :=
  .notice (server.title ++ " server listening on " ++ address.text)

def unbound (server : Server) (address : CommandLine.Address) (reason : String) : Event :=
  .trouble (server.title ++ " server error: failed to bind " ++ server.title ++ " server on "
    ++ address.text ++ ": " ++ reason)

/-- What the log says at the end: the sweeper is cancelled and notices it. -/
def closing (state : Running) : List Event :=
  .notice "Shutdown signal received"
    :: (Sweeper.notice { state.sweeper with cancelled := true }).2
    ++ [.notice "Catalog shutdown complete"]

end EdgeCatalog.Daemon
