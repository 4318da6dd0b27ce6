import Telemetry.Json.Reader
import Telemetry.Table

/-!
Names of applications, spaces and organisations, by their identity.

They are read from a JSON listing. A record is an object, whose unknown members are passed
over, or an array of its fields in order, whose last fields may be missing if they have a
default. Names are used for display only.
-/

set_option autoImplicit false

namespace Telemetry

open Json

namespace Metadata

structure AppName where
  guid : String
  name : String
  spaceGuid : String
  instances : Nat := 0
  desiredInstances : Nat := 0
  deriving DecidableEq

structure SpaceName where
  guid : String
  name : String
  orgGuid : String
  deriving DecidableEq

structure OrgName where
  guid : String
  name : String
  deriving DecidableEq

/-! Reading. A field is none where it is missing. -/

/-- The value of a known key; a known key must not repeat. -/
def member? (members : List (String × Raw)) (key : String) : Option (Option Raw) :=
  match members.filter (·.1 = key) with
  | [] => some none
  | [(_, value)] => some (some value)
  | _ => none

def fields? (keys : List String) : Raw → Option (List (Option Raw))
  | .obj members => do
    let named ← members.mapM fun (key, value) => key.text?.map fun key => (key, value)
    keys.mapM (member? named)
  | .arr items =>
    if items.length ≤ keys.length then
      some (items.map some ++ List.replicate (keys.length - items.length) none)
    else none
  | _ => none

def text? : Option Raw → Option String
  | some (.str spelling) => spelling.text?
  | _ => none

def count? : Option Raw → Option Nat
  | none => some 0
  | some (.num literal) =>
    match literal.number? with
    | some (.int n) => if 0 ≤ n ∧ n < 2 ^ 32 then some n.toNat else none
    | _ => none
  | _ => none

def records? {α : Type} (read : Raw → Option α) : Option Raw → Option (List α)
  | none => some []
  | some (.arr items) => items.mapM read
  | _ => none

def app? (raw : Raw) : Option AppName := do
  let [guid, name, space, instances, desired] ←
    fields? ["guid", "name", "space_guid", "instances", "desired_instances"] raw | none
  return ⟨← text? guid, ← text? name, ← text? space, ← count? instances, ← count? desired⟩

def space? (raw : Raw) : Option SpaceName := do
  let [guid, name, org] ← fields? ["guid", "name", "org_guid"] raw | none
  return ⟨← text? guid, ← text? name, ← text? org⟩

def org? (raw : Raw) : Option OrgName := do
  let [guid, name] ← fields? ["guid", "name"] raw | none
  return ⟨← text? guid, ← text? name⟩

end Metadata

structure Metadata where
  apps : Table String Metadata.AppName := ∅
  spaces : Table String Metadata.SpaceName := ∅
  orgs : Table String Metadata.OrgName := ∅

namespace Metadata

/-- Of two records with one identity the last holds. -/
def byGuid {α : Type} (guid : α → String) (records : List α) : Table String α :=
  records.foldl (fun table record => table.insert (guid record) record) ∅

def ofRaw? (raw : Raw) : Option Metadata := do
  let [apps, spaces, orgs] ← fields? ["apps", "spaces", "orgs"] raw | none
  let apps ← records? app? apps
  let spaces ← records? space? spaces
  let orgs ← records? org? orgs
  return ⟨byGuid (·.guid) apps, byGuid (·.guid) spaces, byGuid (·.guid) orgs⟩

def ofText? (text : String) : Option Metadata := (raw? text).bind ofRaw?

def parseMessage : String := "Error parsing metadata JSON"

def displayName (metadata : Metadata) (guid : String) : String :=
  (((metadata.apps.get? guid).map (·.name)).filter (· ≠ "")).getD guid

def spaceOf? (metadata : Metadata) (guid : String) : Option SpaceName :=
  (metadata.apps.get? guid).bind fun app => metadata.spaces.get? app.spaceGuid

def spaceAndOrg (metadata : Metadata) (guid : String) : String × String :=
  let space := metadata.spaceOf? guid
  let org := space.bind fun space => metadata.orgs.get? space.orgGuid
  ((space.map (·.name)).getD "", (org.map (·.name)).getD "")

end Metadata

end Telemetry
