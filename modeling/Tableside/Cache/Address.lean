import Tableside.Host
import Tableside.Text.Percent

/-!
Addresses of shared cache servers.

An address is a scheme, an authority with user, password, host and port, a path and a query. Servers
are reached over the network or through a socket of this machine. `ServerAddress.read` takes an
address apart, `ServerAddress.place` says where it leads or what is wrong with it; of several faults
the one that is found first counts: host, transport, path or database number, user, password,
protocol.
-/

namespace Tableside

/-- An address, taken apart. Of user, password and host an empty one is none. -/
structure ServerAddress where
  scheme : String
  user : List Char
  password : List Char
  host : List Char
  path : List Char
  query : List Char

/-- What is wrong with an address. -/
inductive AddressFault
  | malformed
  | noHost
  | encrypted
  | noPath
  | database
  | user
  | password
  | protocol (text : String)
deriving DecidableEq, Repr

/-- Where an address leads. -/
inductive ServerPlace
  | network
  | socket
deriving DecidableEq, Repr

namespace AddressFault

/-- What is said of a fault. -/
def message (fault : AddressFault) : String :=
  let said := fun (text : String) => text ++ "- InvalidClientConfig"
  match fault with
  | malformed => said "Redis URL did not parse"
  | noHost => said "Missing hostname"
  | encrypted => said "can't connect with TLS, the feature is not enabled"
  | noPath => said "Missing path"
  | database => said "Invalid database number"
  | user => said "Username is not valid UTF-8 string"
  | password => said "Password is not valid UTF-8 string"
  | protocol text => said "Invalid protocol version " ++ ": " ++ text

end AddressFault

/-- What is said of a place where no server answers. -/
def ServerPlace.silence : ServerPlace → String
  | network => "Connection refused (os error 111)"
  | socket => "No such file or directory (os error 2)"

namespace ServerAddress

/-! ## Taking an address apart -/

/-- The characters that count: line breaks and tabs do not, nor do blanks and control characters at
the ends. -/
def significant (s : String) : List Char :=
  let isEdge := fun (c : Char) => c.toNat ≤ 32
  ((s.toList.dropWhile isEdge).reverse.dropWhile isEdge).reverse.filter fun c =>
    c != '\t' && c != '\n' && c != '\r'

/-- The scheme in lower case, and what follows its colon. -/
def splitScheme? (cs : List Char) : Option (String × List Char) :=
  let isName := fun (c : Char) => c.isAlphanum || c == '+' || c == '-' || c == '.'
  match (cs.head?.map Char.isAlpha).getD false, cs.dropWhile isName with
  | true, ':' :: rest => some (String.ofList ((cs.takeWhile isName).map Char.toLower), rest)
  | _, _ => none

/-- The schemes of addresses in a network. -/
def networkSchemes : List String := ["redis", "rediss"]

/-- The schemes of addresses of sockets. -/
def socketSchemes : List String := ["unix", "redis+unix"]

/-- Characters that no host has. -/
def isForbidden (c : Char) : Bool :=
  c == '\x00' || " #/:<>?@[\\]^|".toList.contains c

/-- The host at the head of an authority, and what follows it. Colons in brackets belong to it. -/
def spanHost : (bracketed : Bool) → List Char → List Char × List Char
  | _, [] => ([], [])
  | bracketed, c :: rest =>
    if c = ':' ∧ ¬bracketed then ([], c :: rest)
    else
      let (host, after) := spanHost (c = '[' || (bracketed && c != ']')) rest
      (c :: host, after)

/-- A host is a name, or an address of eight groups in brackets. -/
def isHost (cs : List Char) : Bool :=
  if cs.head? = some '[' then
    cs.getLast? = some ']' && Host.isIPv6 (cs.drop 1).dropLast
  else !cs.any isForbidden

/-- What follows a port; none when it is no port. -/
def afterPort? : List Char → Option (List Char)
  | ':' :: cs =>
    let digits := cs.takeWhile Text.isDigit
    let rest := cs.drop digits.length
    if 65535 < Text.digitsValue digits ∨ ¬(rest.isEmpty ∨ rest.head? = some '\\') then none
    else some rest
  | cs => some cs

/-- User and password, with what follows them. -/
def splitCredentials (authority : List Char) : List Char × List Char × List Char :=
  match Text.splitLast '@' authority with
  | none => ([], [], authority)
  | some (credentials, rest) =>
    match Text.splitOnce ':' credentials with
    | some (user, password) => (user, password, rest)
    | none => (credentials, [], rest)

/-- The path and the query that stand behind an authority, up to a number sign. -/
def splitResource (cs : List Char) : List Char × List Char :=
  let cs := cs.takeWhile (· != '#')
  (cs.takeWhile (· != '?'), (cs.dropWhile (· != '?')).drop 1)

/-- An address with an authority, and what follows that; none when the authority is not well formed.
Only one that names nothing may lack a host. -/
def ofAuthority? (scheme : String) (authority after : List Char) : Option ServerAddress :=
  let (user, password, rest) := splitCredentials authority
  let (host, rest) := spanHost false rest
  let mayLackHost := user.isEmpty && password.isEmpty && rest.isEmpty &&
    (after.isEmpty || authority.head? != some '@')
  let (path, query) := splitResource after
  match isHost host, afterPort? rest with
  | true, some more =>
    if host.isEmpty ∧ ¬mayLackHost then none
    else some ⟨scheme, user, password, host, more ++ path, query⟩
  | _, _ => none

/-- An address, taken apart. -/
def read? (s : String) : Option ServerAddress := do
  let (scheme, rest) ← splitScheme? (significant s)
  if (networkSchemes ++ socketSchemes).contains scheme then
    match rest with
    | '/' :: '/' :: rest =>
      let authority := rest.takeWhile fun c => !"/?#".toList.contains c
      ofAuthority? scheme authority (rest.drop authority.length)
    | rest =>
      let (path, query) := splitResource rest
      some ⟨scheme, [], [], [], path, query⟩
  else none

/-! ## Where an address leads -/

/-- The last value of a name in the query. -/
def parameter? (a : ServerAddress) (name : String) : Option String :=
  (Text.Percent.formPairs (String.ofList a.query)).reverse.lookup name

/-- Whether a text is a whole number of 64 bits. -/
def isDatabase (cs : List Char) : Bool :=
  match Text.int? cs with
  | some n => Int64.minValue.toInt ≤ n && n ≤ Int64.maxValue.toInt
  | none => false

/-- A text without the slashes at its ends. -/
def withoutSlashes (cs : List Char) : List Char :=
  ((cs.dropWhile (· == '/')).reverse.dropWhile (· == '/')).reverse

/-- Whether the protocol is known, if one is asked for. -/
def checkProtocol (a : ServerAddress) (place : ServerPlace) : Except AddressFault ServerPlace :=
  match a.parameter? "protocol" with
  | some text =>
    if ["2", "resp2", "3", "resp3"].contains text then .ok place else .error (.protocol text)
  | none => .ok place

/-- Where an address in a network leads: its path is the number of a database. -/
def networkPlace (a : ServerAddress) : Except AddressFault ServerPlace :=
  let isText := fun (cs : List Char) => (Text.Percent.segment? (String.ofList cs)).isSome
  let number := withoutSlashes a.path
  if a.host.isEmpty then .error .noHost
  else if a.scheme = "rediss" then .error .encrypted
  else if !number.isEmpty && !isDatabase number then .error .database
  else if !isText a.user then .error .user
  else if !isText a.password then .error .password
  else a.checkProtocol .network

/-- Where the address of a socket leads: its path is that of a file on this machine. -/
def socketPlace (a : ServerAddress) : Except AddressFault ServerPlace :=
  if a.path.head? ≠ some '/' ∨ ¬(a.host.isEmpty ∨ a.host = "localhost".toList) then
    .error .noPath
  else if (a.parameter? "db").any fun s => !isDatabase s.toList then .error .database
  else a.checkProtocol .socket

/-- Where a text leads that is to be an address. -/
def place (s : String) : Except AddressFault ServerPlace :=
  match read? s with
  | none => .error .malformed
  | some a => if networkSchemes.contains a.scheme then a.networkPlace else a.socketPlace

/-- What is said when no server can be used at an address. -/
def refusal (s : String) : String :=
  match place s with
  | .ok place => place.silence
  | .error fault => fault.message

end ServerAddress

end Tableside
