import Telemetry.Json.Token

/-!
From tokens to trees.

Reading keeps the containers that are still open, innermost first, and goes over the tokens
once. What is left open at the end is no text.
-/

set_option autoImplicit false

namespace Telemetry.Json

abbrev Raw := Tree Spelling Literal

/-- An open container with what it holds so far, newest first. -/
inductive Frame where
  | array (items : List Raw)
  | object (members : List (Spelling × Raw)) (key : Spelling)

inductive Reading where
  | wantsValue (frames : List Frame)
  | emptyArray (frames : List Frame)
  | emptyObject (frames : List Frame)
  | wantsKey (frames : List Frame) (members : List (Spelling × Raw))
  | wantsColon (frames : List Frame) (members : List (Spelling × Raw)) (key : Spelling)
  | complete (frames : List Frame) (tree : Raw)

namespace Reading

def begin? (frames : List Frame) : Token → Option Reading
  | .null => some (.complete frames .null)
  | .bool value => some (.complete frames (.bool value))
  | .num literal => some (.complete frames (.num literal))
  | .str spelling => some (.complete frames (.str spelling))
  | .openArray => some (.emptyArray frames)
  | .openObject => some (.emptyObject frames)
  | _ => none

def resume? (tree : Raw) : List Frame → Token → Option Reading
  | .array items :: frames, .comma => some (.wantsValue (.array (tree :: items) :: frames))
  | .array items :: frames, .closeArray =>
    some (.complete frames (.arr (tree :: items).reverse))
  | .object members key :: frames, .comma => some (.wantsKey frames ((key, tree) :: members))
  | .object members key :: frames, .closeObject =>
    some (.complete frames (.obj ((key, tree) :: members).reverse))
  | _, _ => none

def step? : Reading → Token → Option Reading
  | .wantsValue frames, token => begin? frames token
  | .emptyArray frames, .closeArray => some (.complete frames (.arr []))
  | .emptyArray frames, token => begin? (.array [] :: frames) token
  | .emptyObject frames, .closeObject => some (.complete frames (.obj []))
  | .emptyObject frames, .str key => some (.wantsColon frames [] key)
  | .emptyObject _, _ => none
  | .wantsKey frames members, .str key => some (.wantsColon frames members key)
  | .wantsKey _ _, _ => none
  | .wantsColon frames members key, .colon => some (.wantsValue (.object members key :: frames))
  | .wantsColon _ _ _, _ => none
  | .complete frames tree, token => resume? tree frames token

def result? : Reading → Option Raw
  | .complete [] tree => some tree
  | _ => none

end Reading

def ofTokens? (tokens : List Token) : Option Raw :=
  (tokens.foldlM Reading.step? (.wantsValue [])).bind Reading.result?

def raw? (text : String) : Option Raw := (Token.all? text.toList).bind ofTokens?

/-- Every leaf must stand for something. -/
def Tree.value? (raw : Raw) : Option Value := raw.elaborate? Spelling.text? Literal.number?

def depthLimit : Nat := 127

def value? (text : String) : Option Value := do
  let raw ← raw? text
  if raw.depth ≤ depthLimit then raw.value? else none

end Telemetry.Json
