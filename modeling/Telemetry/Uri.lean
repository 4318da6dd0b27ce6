import Telemetry.Uri.Address
import Telemetry.Uri.Domain
import Telemetry.Uri.Path

/-!
Uniform resource locators, as browsers read them.

Only what routes are told apart by is kept: host, port and path. Blanks and controls around
a locator do not count, nor do tabs and line breaks in it. Locators of the web are special:
they need a host, their hosts are domains or addresses, and a backslash counts as a slash.
-/

set_option autoImplicit false

namespace Telemetry

namespace Uri

inductive Error where
  | relative
  | emptyHost
  | noHost
  | invalidPort
  | invalidDomain
  | invalidDomainCharacter
  | invalidIpv4
  | invalidIpv6
  deriving DecidableEq

def Error.message : Error → String
  | relative => "relative URL without a base"
  | emptyHost => "empty host"
  | noHost => "no host"
  | invalidPort => "invalid port number"
  | invalidDomain => "invalid international domain name"
  | invalidDomainCharacter => "invalid domain character"
  | invalidIpv4 => "invalid IPv4 address"
  | invalidIpv6 => "invalid IPv6 address"

inductive Scheme where
  | web (defaultPort : Nat)
  | file
  | other
  deriving DecidableEq

def Scheme.ofName (name : String) : Scheme :=
  match name with
  | "http" | "ws" => .web 80
  | "https" | "wss" => .web 443
  | "ftp" => .web 21
  | "file" => .file
  | _ => .other

def Scheme.special : Scheme → Bool
  | other => false
  | _ => true

def Scheme.defaultPort? : Scheme → Option Nat
  | web port => some port
  | _ => none

def scheme? (cs : List Char) : Option (Scheme × List Char) :=
  let name := cs.takeWhile fun c => c.isAlphanum || c = '+' || c = '-' || c = '.'
  match name, cs.drop name.length with
  | first :: _, ':' :: rest =>
    if first.isAlpha then some (.ofName (String.ofList (name.map Char.toLower)), rest) else none
  | _, _ => none

def endsAuthority (special : Bool) (c : Char) : Bool :=
  c = '/' || c = '?' || c = '#' || (special && c = '\\')

/-- What follows the last at-sign of the authority, and whether a name or password stands
before it. -/
def withoutUser (special : Bool) (cs : List Char) : Except Error (Bool × List Char) :=
  let authority := cs.takeWhile fun c => !endsAuthority special c
  if authority.contains '@' then
    let host := lastPart authority
    let user := authority.take (authority.length - host.length - 1)
    let rest := host ++ cs.drop authority.length
    match user, rest with
    | [], c :: _ => if endsAuthority special c then .error .emptyHost else .ok (false, rest)
    | user, rest => .ok (user.any (· ≠ ':') || user.length > 1, rest)
  else .ok (false, cs)
where
  lastPart (cs : List Char) : List Char := (cs.reverse.takeWhile (· ≠ '@')).reverse

/-- The text of a host: up to a colon outside brackets or the end of the authority. -/
def hostText (special : Bool) : Bool → List Char → List Char
  | _, [] => []
  | bracketed, c :: rest =>
    if endsAuthority special c || (c = ':' && !bracketed) then []
    else
      c :: hostText special (if c = '[' then true else if c = ']' then false else bracketed) rest

def bracketed (cs : List Char) : Except Error (List Char) :=
  match cs.getLast? with
  | some ']' =>
    match ipv6? (cs.drop 1).dropLast with
    | some pieces => .ok (['['] ++ ipv6Text pieces ++ [']'])
    | none => .error .invalidIpv6
  | _ => .error .invalidIpv6

def specialHost (cs : List Char) : Except Error (List Char) :=
  match cs with
  | '[' :: _ => bracketed cs
  | cs =>
    match (decode? cs).bind asciiDomain? with
    | none => .error .invalidDomain
    | some [] => .error .emptyHost
    | some domain =>
      if endsInNumber domain then
        match ipv4? domain with
        | some address => .ok (ipv4Text address)
        | none => .error .invalidIpv4
      else .ok domain

def forbiddenInHost (c : Char) : Bool :=
  c.toNat = 0 || "\t\n\r #/:<>?@[\\]^|".toList.contains c

/-- The host of a locator that is not special; it may be empty. -/
def opaqueHost (cs : List Char) : Except Error (List Char) :=
  match cs with
  | '[' :: _ => bracketed cs
  | cs =>
    if cs.any forbiddenInHost then .error .invalidDomainCharacter
    else .ok (encode isControl cs)

/-- The port behind a colon, none where it is missing or usual for the scheme, and what
follows it. -/
def readPort (scheme : Scheme) (cs : List Char) : Except Error (Option Nat × List Char) :=
  let ds := cs.takeWhile Char.isDigit
  let rest := cs.drop ds.length
  let n := Text.numberIn 10 ds
  if 65536 ≤ n then .error .invalidPort
  else if rest.head?.any fun c => !endsAuthority true c then .error .invalidPort
  else if ds.isEmpty || scheme.defaultPort? = some n then .ok (none, rest)
  else .ok (some n, rest)

def beforeQuery (cs : List Char) : List Char := cs.takeWhile fun c => c ≠ '?' && c ≠ '#'

end Uri

structure Uri where
  host : String
  port : Option Nat
  path : String
  deriving DecidableEq

namespace Uri

def ofAuthority (scheme : Scheme) (cs : List Char) : Except Error Uri := do
  let special := scheme.special
  let (hasUser, cs) ← withoutUser special cs
  let text := hostText special false cs
  let rest := cs.drop text.length
  if special && text.isEmpty then throw .emptyHost
  let host ← if special then specialHost text else opaqueHost text
  if host.isEmpty && (hasUser || rest.head? = some ':') then throw .emptyHost
  let (port, rest) ← match rest with
    | ':' :: rest => readPort scheme rest
    | rest => pure (none, rest)
  if host.isEmpty then throw .noHost
  return ⟨String.ofList host, port, String.ofList (pathOf special (beforeQuery rest))⟩

/-- The path of a file on a host; a first segment that is a drive letter drops the host. -/
def filePath? (cs : List Char) : Option (List Char) :=
  let segments := match beforeQuery cs with
    | [] => [[]]
    | c :: rest => (if isSlash true c then rest else c :: rest).splitOnP (isSlash true)
  let segments := match segments with
    | (letter :: ':' :: c :: more) :: rest =>
      if letter.isAlpha then [letter, ':'] :: (c :: more) :: rest
      else (letter :: ':' :: c :: more) :: rest
    | segments => if segments.head?.any isDriveLetter then [] else segments
  if segments.isEmpty then none
  else some ('/' :: (addSegments ['/'] segments).dropWhile (· = '/'))

def ofFile (cs : List Char) : Except Error Uri :=
  match cs with
  | a :: b :: rest =>
    let text := rest.takeWhile fun c => !endsAuthority true c
    if !isSlash true a || !isSlash true b || text.isEmpty || isDriveLetter text then
      .error .noHost
    else do
      let host ← specialHost text
      match filePath? (rest.drop text.length) with
      | some path =>
        if host = "localhost".toList then throw .noHost
        return ⟨String.ofList host, none, String.ofList path⟩
      | none => throw .noHost
  | _ => .error .noHost

/-- A text without blanks and controls around it, and without tabs and line breaks. -/
def stripped (text : String) : List Char :=
  let outer (c : Char) : Bool := c.toNat ≤ 0x20
  let inner := ((text.toList.dropWhile outer).reverse.dropWhile outer).reverse
  inner.filter fun c => c ≠ '\t' && c ≠ '\n' && c ≠ '\r'

def ofText (text : String) : Except Error Uri :=
  match scheme? (stripped text) with
  | none => .error .relative
  | some (.file, rest) => ofFile rest
  | some (.web port, rest) => ofAuthority (.web port) (rest.dropWhile (isSlash true))
  | some (.other, '/' :: '/' :: rest) => ofAuthority .other rest
  | some (.other, _) => .error .noHost

end Uri

end Telemetry
