import Telemetry.Text.Hex

/-!
Options on the command line.

An option has a long name and one value, either behind an equals sign or as the next
argument. Only routes may be given more than once.
-/

set_option autoImplicit false

namespace Telemetry.Replay

structure Options where
  /-- The capture; standard input where there is none. -/
  input : Option String := none
  config : Option String := none
  streams : Nat := 1
  metadata : Option String := none
  sort : String := "total-req"
  ascending : Bool := false
  top : Nat := 20
  routes : List String := []
  json : Bool := false
  deriving DecidableEq

inductive Usage where
  | invalid
  | help
  | version
  deriving DecidableEq

def integer? (text : String) : Option Int :=
  let (negative, digits) : Bool × List Char := match text.toList with
    | '-' :: rest => (true, rest)
    | '+' :: rest => (false, rest)
    | cs => (false, cs)
  let magnitude : Int := Text.numberIn 10 digits
  if digits.isEmpty || !digits.all Char.isDigit then none
  else some (if negative then -magnitude else magnitude)

def streams? (text : String) : Option Nat :=
  (integer? text).bind fun n => if 0 ≤ n ∧ n < 2 ^ 32 then some n.toNat else none

/-- A count is written without a minus, even where it is zero. -/
def top? (text : String) : Option Nat :=
  if text.startsWith "-" then none
  else (integer? text).bind fun n => if n < 2 ^ 64 then some n.toNat else none

namespace Options

def set? (options : Options) (name value : String) : Option Options :=
  match name with
  | "input" => some { options with input := some value }
  | "config" => some { options with config := some value }
  | "streams" => (streams? value).map fun streams => { options with streams }
  | "metadata" => some { options with metadata := some value }
  | "sort" => some { options with sort := value }
  | "top" => (top? value).map fun top => { options with top }
  | "route" => some { options with routes := options.routes ++ [value] }
  | _ => none

def flag? (options : Options) (name : String) : Option Options :=
  match name with
  | "ascending" => some { options with ascending := true }
  | "json" => some { options with json := true }
  | _ => none

end Options

def longName? (argument : String) : Option (String × Option String) :=
  match argument.toList with
  | '-' :: '-' :: c :: rest =>
    let (name, tail) := (c :: rest).span (· ≠ '=')
    let value := match tail with
      | [] => none
      | _ :: value => some (String.ofList value)
    some (String.ofList name, value)
  | _ => none

def isValue (argument : String) : Bool := !argument.startsWith "-" || argument = "-"

/-- Read arguments; `given` are the names that must not come again. -/
def readArguments (given : List String) (options : Options) :
    List String → Except Usage Options
  | [] => .ok options
  | argument :: rest =>
    match longName? argument with
    | none =>
      match argument.toList with
      | ['-', '-'] => if rest.isEmpty then .ok options else .error .invalid
      | '-' :: 'h' :: _ => .error .help
      | '-' :: 'V' :: _ => .error .version
      | _ => .error .invalid
    | some ("help", none) => .error .help
    | some ("version", none) => .error .version
    | some (name, none) =>
      if name ∈ given then .error .invalid
      else
        match options.flag? name, rest with
        | some options, rest => readArguments (name :: given) options rest
        | none, [] => .error .invalid
        | none, value :: rest =>
          if isValue value then
            match options.set? name value with
            | some options => readArguments (if name = "route" then given else name :: given) options rest
            | none => .error .invalid
          else .error .invalid
    | some (name, some value) =>
      if name ∈ given then .error .invalid
      else
        match options.set? name value with
        | some options => readArguments (if name = "route" then given else name :: given) options rest
        | none => .error .invalid

def Options.ofArguments (arguments : List String) : Except Usage Options :=
  readArguments [] {} arguments

def helpText : String :=
  "Replay a firehose capture (one JSON envelope per line) through the stats engine and print what it saw

Usage: firehose-replay [OPTIONS]

Options:
      --input <INPUT>        Capture file; reads stdin if not given
      --config <CONFIG>      Stats config (TOML)
      --streams <STREAMS>    Number of firehose streams to spread the envelopes over (round-robin) [default: 1]
      --metadata <METADATA>  App/space/org names (JSON)
      --sort <SORT>          Column to sort the apps by [default: total-req]
      --ascending            Sort ascending instead of descending
      --top <TOP>            Number of apps, cells and routes to print [default: 20]
      --route <ROUTE>        Register an HTTP route before replaying: DOMAIN,HOST,PATH,ROUTE_ID
      --json                 Dump the final snapshot and history as JSON instead of tables
  -h, --help                 Print help
  -V, --version              Print version
"

def versionText : String := "firehose-replay 0.1.0\n"

end Telemetry.Replay
