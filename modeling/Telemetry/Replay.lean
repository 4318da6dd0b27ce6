import Telemetry.Encoding
import Telemetry.Envelope.Format
import Telemetry.Replay.Options
import Telemetry.Replay.Report

/-!
Replaying a capture, which holds one envelope a line.

Envelopes go round the streams in turn; lines that hold none are passed over. What was seen
is reported as tables or as JSON.
-/

set_option autoImplicit false

namespace Telemetry.Replay

inductive Failure where
  | config (path : String)
  | metadata (path : String)
  | routeArgument (text : String)
  | route (reason : Route.Error)
  | capture (path : String)
  | sortColumn
  /-- Bytes that do not add up in 64 bits. -/
  | overflow
  deriving DecidableEq

def Failure.message : Failure → String
  | config path => "Failed to load config " ++ path
  | metadata path => "Failed to load metadata " ++ path
  | routeArgument text =>
    "Bad --route " ++ Text.quoted text ++ ": expected DOMAIN,HOST,PATH,ROUTE_ID"
  | route reason => reason.message
  | capture path => "Failed to open capture " ++ path
  | sortColumn => "Valid sort columns: " ++ ", ".intercalate (AppColumn.all.map (·.name))
  | overflow => "attempt to add with overflow"

inductive Output where
  | lines (rows : List String)
  | json (value : Json.Value)

def Output.text : Output → String
  | .lines rows => unlines rows
  | .json value => value.pretty ++ "\n"

structure Outcome where
  output : Output := .lines []
  failure : Option Failure := none

abbrev Files := String → Option String

def loadConfig (files : Files) : Option String → Except Failure Config
  | none => .ok {}
  | some path =>
    match (files path).map Config.ofToml with
    | some (.ok config) => .ok config
    | _ => .error (.config path)

def loadMetadata (files : Files) : Option String → Except Failure Metadata
  | none => .ok {}
  | some path =>
    match (files path).bind Metadata.ofText? with
    | some metadata => .ok metadata
    | none => .error (.metadata path)

def openCapture (files : Files) (input : String) : Option String → Except Failure String
  | none => .ok input
  | some path =>
    match files path with
    | some text => .ok text
    | none => .error (.capture path)

def registerArgument (session : Session) (argument : String) : Except Failure Session :=
  match (argument.toList.splitOn ',').map fun field => String.ofList (Text.trim field) with
  | [domain, host, path, id] =>
    match session.register domain host path id with
    | (.ok _, session) => .ok session
    | (.error reason, _) => .error (.route reason)
  | _ => .error (.routeArgument argument)

def envelopes (capture : String) : List Envelope :=
  (capture.toList.splitOn '\n').filterMap fun line => Envelope.ofLine? (String.ofList line)

def replay (session : Session) (streams : Nat) (envelopes : List Envelope) (now : Instant) :
    Session :=
  envelopes.zipIdx.foldl
    (fun session (envelope, i) => session.process (i % streams) envelope now) session

/-- What was seen, as tables. A column that does not exist shows only behind the headline. -/
def tables (options : Options) (metadata : Metadata) (session : Session) : Outcome :=
  let snapshot := session.board.displayed
  let opening := [headline snapshot, ""]
  match AppColumn.ofName options.sort with
  | .error _ => { output := .lines opening, failure := some .sortColumn }
  | .ok column =>
    let direction := if options.ascending then .ascending else .descending
    let rows := opening ++ appTable snapshot metadata column direction options.top ++ [""] ++
      cellTable snapshot options.top ++ [""] ++
      routeTable snapshot.figures.routes.summaries options.top ++ [""] ++
      historyTable session.recorder.displayed
    { output := .lines rows }

def sessionOf (options : Options) (config : Config) (files : Files) (input : String)
    (now : Instant) : Except Failure Session := do
  let session ← options.routes.foldlM registerArgument (Session.create config now)
  let capture ← openCapture files input options.input
  let session := replay session (max options.streams 1) (envelopes capture) now
  match session.publish? now with
  | some session => return session.tick now
  | none => throw .overflow

def report (options : Options) (files : Files) (input : String) (now : Instant) :
    Except Failure Outcome := do
  let config ← loadConfig files options.config
  let metadata ← loadMetadata files options.metadata
  let session ← sessionOf options config files input now
  if options.json then
    let snapshot := session.board.displayed
    let value := Encoding.replay snapshot snapshot.figures.routes.summaries
      session.recorder.displayed
    return { output := .json value }
  else return tables options metadata session

def run (options : Options) (files : Files) (input : String) (now : Instant) : Outcome :=
  match report options files input now with
  | .ok outcome => outcome
  | .error failure => { failure := some failure }

end Telemetry.Replay
