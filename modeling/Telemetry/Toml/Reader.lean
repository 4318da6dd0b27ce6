import Telemetry.Toml.Quoted
import Telemetry.Toml.Scalar

/-!
From the text of a document to its statements.
-/

set_option autoImplicit false

namespace Telemetry.Toml

/-- How deep brackets may be nested, and of how many names a key may consist. -/
def nestingLimit : Nat := 79

def isBlank (c : Char) : Bool := c = ' ' || c = '\t'

def skipBlanks (cs : List Char) : List Char := cs.dropWhile isBlank

def skipLines (inComment : Bool) : List Char → List Char
  | '\n' :: rest | '\r' :: '\n' :: rest => skipLines false rest
  | c :: rest =>
    if inComment then if isPlain c then skipLines true rest else c :: rest
    else if c = '#' then skipLines true rest
    else if isBlank c then skipLines false rest
    else c :: rest
  | [] => []

def lineEnd? (cs : List Char) : Option (List Char) :=
  let rest := match skipBlanks cs with
    | '#' :: rest => rest.dropWhile isPlain
    | rest => rest
  match rest with
  | [] => some []
  | '\n' :: rest | '\r' :: '\n' :: rest => some rest
  | _ => none

def isBareKeyChar (c : Char) : Bool := c.isAlphanum || c = '_' || c = '-'

def name? (cs : List Char) : Option (List Char × List Char) :=
  match cs with
  | '"' :: rest => basic? rest
  | '\'' :: rest => literal? rest
  | cs =>
    match cs.span isBareKeyChar with
    | ([], _) => none
    | found => some found

def names? (earlier : List String) (cs : List Char) : Option (List String × List Char) := do
  let (name, rest) ← name? (skipBlanks cs)
  let names := String.ofList name :: earlier
  match skipBlanks rest with
  | '.' :: rest => if rest.length < cs.length then names? names rest else none
  | rest => some (names, rest)
termination_by cs.length

def key? (cs : List Char) : Option (Key × List Char) :=
  match names? [] cs with
  | some (name :: path, rest) =>
    if path.length < nestingLimit then some (⟨path.reverse, name⟩, rest) else none
  | _ => none

def items? (value? : List Char → Option (Value × List Char)) (cs : List Char) :
    Option (List Value × List Char) :=
  match skipLines false cs with
  | ']' :: rest => some ([], rest)
  | start => do
    let (item, rest) ← value? start
    match skipLines false rest with
    | ',' :: rest =>
      if rest.length < cs.length then
        let (items, rest) ← items? value? rest
        some (item :: items, rest)
      else none
    | ']' :: rest => some ([item], rest)
    | _ => none
termination_by cs.length

def pair? (value? : List Char → Option (Value × List Char)) (cs : List Char) :
    Option (Key × Value × List Char) := do
  let (key, '=' :: rest) ← key? cs | none
  let (value, rest) ← value? (skipBlanks rest)
  return (key, value, rest)

def pairs? (value? : List Char → Option (Value × List Char)) (entries : Entries)
    (cs : List Char) : Option (Entries × List Char) := do
  let (key, value, rest) ← pair? value? cs
  let entries ← entries.assign? key.path key.name value
  match skipBlanks rest with
  | ',' :: rest => if rest.length < cs.length then pairs? value? entries rest else none
  | '\x7d' :: rest => some (entries, rest)
  | _ => none
termination_by cs.length

def inline? (value? : List Char → Option (Value × List Char)) (cs : List Char) :
    Option (Entries × List Char) :=
  match skipBlanks cs with
  | '\x7d' :: rest => some ([], rest)
  | _ => pairs? value? [] cs

def value? : Nat → List Char → Option (Value × List Char)
  | depth, '[' :: rest =>
    match depth with
    | 0 => none
    | depth + 1 => (items? (value? depth) rest).map fun (items, rest) => (.array items, rest)
  | depth, '\x7b' :: rest =>
    match depth with
    | 0 => none
    | depth + 1 =>
      (inline? (value? depth) rest).map fun (entries, rest) => (.inline entries, rest)
  | _, '"' :: rest => (string? ('"' :: rest)).map fun (text, rest) => (.text (String.ofList text), rest)
  | _, '\'' :: rest => (string? ('\'' :: rest)).map fun (text, rest) => (.text (String.ofList text), rest)
  | _, cs => bare? cs

/-- A statement and what follows its line; an empty line holds none. -/
def statement? (cs : List Char) : Option (Option Statement × List Char) :=
  match cs with
  | '[' :: '[' :: rest => do
    let (key, ']' :: ']' :: rest) ← key? rest | none
    return (some (.row key), ← lineEnd? rest)
  | '[' :: rest => do
    let (key, ']' :: rest) ← key? rest | none
    return (some (.header key), ← lineEnd? rest)
  | '#' :: _ | '\n' :: _ | '\r' :: _ => (lineEnd? cs).map (none, ·)
  | cs => do
    let (key, value, rest) ← pair? (value? nestingLimit) cs
    return (some (.assign key value), ← lineEnd? rest)

def statements? (cs : List Char) : Option (List Statement) :=
  match skipBlanks cs with
  | [] => some []
  | start => do
    let (statement, rest) ← statement? start
    if rest.length < cs.length then
      let statements ← statements? rest
      some (statement.toList ++ statements)
    else none
termination_by cs.length

/-- The root table of a document; a byte order mark may stand at its front. -/
def ofText? (text : String) : Option Entries :=
  let cs := match text.toList with
    | '\ufeff' :: rest => rest
    | cs => cs
  (statements? cs).bind ofStatements?

end Telemetry.Toml
