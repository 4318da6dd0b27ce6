import Telemetry.App
import Telemetry.Text.Blank

/-!
Lines of the platform's log: what becomes of them, by the part of the platform that wrote them, and
the crash reports among them.

A report names an application and carries a payload of keys and values, such as
`{"index"=>1, "reason"=>"CRASHED", "exit_description"=>"out of memory"}`. Keys are looked up where
they first occur. A quoted value ends at the first quote that a comma, a closing brace or nothing
follows.
-/

set_option autoImplicit false

namespace Telemetry.Log

inductive Policy where
  | container
  | nonContainer
  /-- Counted with the application, and searched for a crash report. -/
  | crashReport
  /-- Access logs and health checks: not counted. -/
  | ignore
  deriving DecidableEq, Repr

/-- The part of a source type before the first slash, without blanks, in capitals. -/
def sourceOf (sourceType : String) : String :=
  Text.upperAscii (String.ofList (Text.trim (sourceType.toList.takeWhile (· ≠ '/'))))

/-- A source that is not known writes for the platform. -/
def policyOf (sourceType : String) : Policy :=
  match sourceOf sourceType with
  | "APP" => .container
  | "API" => .crashReport
  | "RTR" | "HEALTH" => .ignore
  | _ => .nonContainer

/-! ### Crash reports -/

def crashMarker : List Char := "App instance exited with guid ".toList

def payloadMarker : List Char := "payload:".toList

def valueAfter? (key : String) (payload : List Char) : Option (List Char) :=
  (Text.cutAt? (('"' :: key.toList) ++ ['"', '=', '>']) payload).map fun (_, rest) =>
    Text.trimStart rest

def closes (rest : List Char) : Bool :=
  match Text.trimStart rest with
  | [] => true
  | c :: _ => c = ',' || c = '}'

def untilClosed? : List Char → Option (List Char)
  | [] => none
  | c :: rest =>
    if c = '"' && closes rest then some [] else (untilClosed? rest).map (c :: ·)

def quoted? : List Char → Option (List Char)
  | '"' :: rest => untilClosed? rest
  | _ => none

/-- An integer within 64 bits at the front; what follows its digits does not matter. -/
def integer? (cs : List Char) : Option Int :=
  let (negative, rest) := match cs with
    | '-' :: rest => (true, rest)
    | _ => (false, cs)
  match rest.takeWhile Char.isDigit with
  | [] => none
  | ds =>
    let magnitude : Int := ds.foldl (fun n c => n * 10 + (c.toNat - 48)) (0 : Nat)
    let value := if negative then -magnitude else magnitude
    if -2 ^ 63 ≤ value ∧ value < 2 ^ 63 then some value else none

/-- A two-character spelling of a line break or tab becomes a space. -/
def flattenEscapes : List Char → List Char
  | '\\' :: 'n' :: rest => ' ' :: flattenEscapes rest
  | '\\' :: 't' :: rest => ' ' :: flattenEscapes rest
  | c :: rest => c :: flattenEscapes rest
  | [] => []

/-- Drop a heading such as `2 error(s) occurred:`. -/
def dropHeading : List (List Char) → List (List Char)
  | first :: second :: third :: rest =>
    if first.all Char.isDigit && "error".toList.isPrefixOf second &&
        third = "occurred:".toList then rest
    else first :: second :: third :: rest
  | words => words

/-- An exit description on one line, without list marks and without its heading. -/
def cleanExit (description : List Char) : List Char :=
  Text.unwords (dropHeading ((Text.words (flattenEscapes description)).filter (· ≠ ['*'])))

structure CrashReport where
  appId : String
  crash : Crash
  deriving DecidableEq

/-- The crash a line reports; an exit for another reason is none. -/
def crashReport? (message : String) (time : Instant) : Option CrashReport := do
  let (_, rest) ← Text.cutAt? crashMarker message.toList
  let appId ← (Text.words rest).head?
  let (_, payload) ← Text.cutAt? payloadMarker rest
  let reason ← (valueAfter? "reason" payload).bind quoted?
  if reason ≠ "CRASHED".toList then none else
    let instanceIndex ← (valueAfter? "index" payload).bind integer?
    let description := ((valueAfter? "exit_description" payload).bind quoted?).getD []
    return ⟨String.ofList appId, ⟨instanceIndex, time, String.ofList (cleanExit description)⟩⟩

theorem appId_ne_empty {message : String} {time : Instant} {report : CrashReport}
    (reported : crashReport? message time = some report) : report.appId ≠ "" := by
  simp only [crashReport?, Option.bind_eq_bind, Option.bind_eq_some_iff] at reported
  obtain ⟨⟨_, rest⟩, -, word, first, ⟨_, payload⟩, -, reason, -, crashed⟩ := reported
  have filled : word ≠ [] := Text.ne_nil_of_mem_words (List.mem_of_head? first)
  by_cases other : reason ≠ "CRASHED".toList
  · rw [if_pos other] at crashed
    cases crashed
  · rw [if_neg other, Option.bind_eq_some_iff] at crashed
    obtain ⟨index, -, done⟩ := crashed
    have named := congrArg CrashReport.appId (Option.some.inj done)
    rw [← named]
    simpa using filled

end Telemetry.Log
