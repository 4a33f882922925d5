/-
**Where a remote store is.**

A remote store is named by a URL.  Behind a host it is a scheme, optional credentials, the host
with an optional port, and an optional database number as the path.  Behind a socket the path is
that of the socket, and the query may give the database number and how to log in.  The URL is read
by the general rules for URLs: blanks around it and line breaks inside it do not count, a host in
brackets is an IPv6 address, any other host is kept as it stands, and `.` and `..` in the path are
resolved, where `..` never leaves a drive.

Main definitions:

* `Endpoint`, `Location` — where a store listens and how to log in;
* `Url`, `Url.read?` — the parts of a URL;
* `Location.ofUrl` — the location that a URL names, or why it names none.
-/

import Turnstile.Admission.Caller
import Turnstile.Remote.Reply

set_option relaxedAutoImplicit false
set_option autoImplicit false

namespace Turnstile

/-- Where a store listens: behind a host and a port, or at a path, which is a byte sequence. -/
inductive Endpoint
  | tcp (host : String) (port : Nat)
  | socket (path : List Nat)
  deriving DecidableEq

/-- The descriptive text of an endpoint. -/
def Endpoint.describe : Endpoint → String
  | .tcp host port => Text.variant "Tcp" [Quoted.quote host, toString port]
  | .socket path => Text.variant "Unix" [Quoted.quoteBytes path]

/-- Where a store listens and how to log in. -/
structure Location where
  endpoint : Endpoint
  database : Int
  user : Option String
  password : Option String
  deriving DecidableEq

/-- The parts of a URL: the credentials as they stand, the host and the port if there are any, the
segments of the path, none if the path is no list of segments, and the query. -/
structure Url where
  scheme : String
  user : List Char
  password : List Char
  host : Option String
  port : Option Nat
  path : Option (List (List Char))
  query : List Char
  deriving DecidableEq

namespace Url

/-! ### Cleaning and cutting -/

/-- The characters that do not count at the ends of a URL. -/
def isPadding (c : Char) : Bool := c.toNat ≤ 0x20

/-- The characters that do not count anywhere in a URL. -/
def isBreak (c : Char) : Bool := c == '\t' || c == '\n' || c == '\r'

/-- A URL without what does not count. -/
def cleaned (cs : List Char) : List Char :=
  (((cs.dropWhile isPadding).reverse.dropWhile isPadding).reverse).filter fun c => !isBreak c

/-- The characters of a scheme after its first letter. -/
def isSchemeChar (c : Char) : Bool := c.isAlphanum || c == '+' || c == '-' || c == '.'

/-- The scheme in lower case, and what follows its colon. -/
def scheme? (cs : List Char) : Option (String × List Char) :=
  match cs.head?, cs.dropWhile isSchemeChar with
  | some c, ':' :: rest =>
      if c.isAlpha then
        some (String.ofList ((cs.takeWhile isSchemeChar).map Char.toLower), rest)
      else none
  | _, _ => none

/-- The characters at which the authority ends. -/
def endsAuthority (c : Char) : Bool := c == '/' || c == '?' || c == '#'

/-- The characters before the last `@`, and those after it, if there is one. -/
def cutAtLastSign (cs : List Char) : Option (List Char × List Char) :=
  let after := cs.reverse.takeWhile (· != '@')
  if after.length = cs.length then none
  else some (cs.take (cs.length - after.length - 1), after.reverse)

/-! ### Hosts and ports -/

/-- The characters that may not stand in a host. -/
def isForbidden (c : Char) : Bool :=
  ['\x00', '\t', '\n', '\r', ' ', '#', '/', ':', '<', '>', '?', '@', '[', '\\', ']', '^', '|'].contains c

/-- A byte as `%` and two digits. -/
def percent (b : UInt8) : List Char :=
  ['%', (Nat.digitChar (b.toNat / 16)).toUpper, (Nat.digitChar (b.toNat % 16)).toUpper]

/-- A character of a host: control characters and those beyond ASCII are written byte by byte. -/
def hostChar (c : Char) : List Char :=
  if c.toNat < 0x20 || 0x7F ≤ c.toNat then c.toString.toUTF8.toList.flatMap percent else [c]

/-- The end of a host: a colon outside brackets. -/
def cutHost : Bool → List Char → List Char × List Char
  | _, [] => ([], [])
  | inside, c :: rest =>
      if c = ':' && !inside then ([], c :: rest)
      else
        let inside := if c = '[' then true else if c = ']' then false else inside
        let (host, after) := cutHost inside rest
        (c :: host, after)

/-- A host: an address in brackets, or any text without forbidden characters. -/
def host? (cs : List Char) : Option String :=
  match cs with
  | '[' :: rest =>
      if rest.getLast? = some ']' then do
        let address ← Address.ofGroups? (← Address.eight? rest.dropLast)
        some address.text
      else none
  | _ => if cs.any isForbidden then none else some (String.ofList (cs.flatMap hostChar))

/-- The port after a host, none if it is left out, and what follows it: nothing, or a path that
begins with a backslash. -/
def port? (cs : List Char) : Option (Option Nat × List Char) :=
  match cs with
  | ':' :: rest =>
      let digits := rest.takeWhile Char.isDigit
      let after := rest.dropWhile Char.isDigit
      let ends := match after.head? with
        | none => true
        | some c => c == '\\'
      if !ends then none
      else if digits.isEmpty then some (none, after)
      else (Address.bounded? 65535 digits).map fun p => (some p, after)
  | _ => some (none, cs)

/-! ### Paths -/

/-- Whether a segment stands for the place itself. -/
def isDot (s : List Char) : Bool :=
  s == ['.'] || s.map Char.toLower == "%2e".toList

/-- Whether a segment stands for the place above. -/
def isDoubleDot (s : List Char) : Bool :=
  ["..", ".%2e", "%2e.", "%2e%2e"].any fun t => s.map Char.toLower == t.toList

/-- Whether a segment names a drive: a letter with a colon or a bar, and nothing after it but what
follows a backslash. -/
def isDrive : List Char → Bool
  | letter :: mark :: rest =>
      letter.isAlpha && (mark == ':' || mark == '|') &&
        match rest.head? with
        | none => true
        | some c => c == '\\'
  | _ => false

/-- The segments of the place above, last first.  There is none above a drive. -/
def above : List (List Char) → List (List Char)
  | s :: rest => if isDrive s then s :: rest else rest
  | [] => []

/-- The segments of a path with `.` and `..` resolved; `before` holds those found, last first. -/
def resolve (before : List (List Char)) : List (List Char) → List (List Char)
  | [] => before.reverse
  | [last] =>
      if isDoubleDot last then ([] :: above before).reverse
      else if isDot last then ([] :: before).reverse
      else (last :: before).reverse
  | s :: rest =>
      if isDoubleDot s then resolve (above before) rest
      else if isDot s then resolve before rest
      else resolve (s :: before) rest

/-- The query after a path: what stands between a question mark and a fragment. -/
def queryOf (cs : List Char) : List Char :=
  ((cs.takeWhile (· != '#')).dropWhile (· != '?')).tail

/-- The segments of a path up to a query or a fragment; an empty path has none. -/
def segments (cs : List Char) : List (List Char) :=
  match cs.takeWhile fun c => c != '?' && c != '#' with
  | [] => []
  | '/' :: rest => resolve [] (Address.pieces '/' rest)
  | other => resolve [] (Address.pieces '/' other)

/-! ### The whole -/

/-- The user and the password in front of a host. -/
def credentials (cs : List Char) : List Char × List Char :=
  (cs.takeWhile (· != ':'), (cs.dropWhile (· != ':')).tail)

/-- Reads what follows the two slashes. -/
def authority? (scheme : String) (cs : List Char) : Option Url := do
  let front := cs.takeWhile fun c => !endsAuthority c
  let after := cs.dropWhile fun c => !endsAuthority c
  let (login, place) := (cutAtLastSign front).getD ([], front)
  if front == ['@'] && !after.isEmpty then none
  else
    let (user, password) := credentials login
    let (hostText, rest) := cutHost false place
    let host ← host? hostText
    if hostText.isEmpty && !(rest.isEmpty && user.isEmpty && password.isEmpty) then none
    else
      let (port, rest) ← port? rest
      some ⟨scheme, user, password, if hostText.isEmpty then none else some host, port,
        some (segments (rest ++ after)), queryOf after⟩

/-- The parts of a URL. -/
def read? (s : String) : Option Url := do
  let (scheme, rest) ← scheme? (cleaned s.toList)
  match rest with
  | '/' :: '/' :: rest => authority? scheme rest
  | '/' :: _ => some ⟨scheme, [], [], none, none, some (segments rest), queryOf rest⟩
  | _ => some ⟨scheme, [], [], none, none, none, queryOf rest⟩

/-- The value of two hexadecimal digits. -/
def byte? (a b : Char) : Option Nat := do
  some ((← Address.hexValue? a) * 16 + (← Address.hexValue? b))

/-- The bytes of a text in which `%` and two digits stand for a byte. -/
def bytes : List Char → List Nat
  | '%' :: a :: b :: rest =>
      match byte? a b with
      | some n => n :: bytes rest
      | none => 37 :: bytes (a :: b :: rest)
  | c :: rest => c.toString.toUTF8.toList.map UInt8.toNat ++ bytes rest
  | [] => []

/-- A part of a query as text: a plus stands for a space. -/
def queryText (cs : List Char) : String :=
  Utf8.repair (bytes (cs.map fun c => if c = '+' then ' ' else c))

/-- The names and values of a query. -/
def parameters (u : Url) : List (String × String) :=
  ((Address.pieces '&' u.query).filter fun cs => !cs.isEmpty).map fun cs =>
    (queryText (cs.takeWhile (· != '=')), queryText (cs.dropWhile (· != '=')).tail)

/-- The value of a name in a query; the last one counts. -/
def parameter? (u : Url) (name : String) : Option String := u.parameters.reverse.lookup name

end Url

namespace Location

/-- The port of a store unless another one is given. -/
def defaultPort : Nat := 6379

/-- The failure of a location that cannot be used. -/
def fault (summary : String) : RemoteError := .known .clientConfig summary none

/-- The text of credentials, none if they are left out. -/
def login (cs : List Char) (summary : String) : Except RemoteError (Option String) :=
  if cs.isEmpty then .ok none
  else match Reply.text? (Url.bytes cs) with
    | some s => .ok (some s)
    | none => .error (fault summary)

/-- The database number that a text denotes. -/
def databaseNumber (text : String) : Except RemoteError Int :=
  match Reply.integerOf? text with
  | some n => .ok n
  | none => .error (fault "Invalid database number")

/-- The database number of a path: nothing is number zero. -/
def databaseOf (segments : List (List Char)) : Except RemoteError Int :=
  let isSlash := fun (c : Char) => c == '/'
  let path := Address.joined ['/'] segments
  let inner := ((path.dropWhile isSlash).reverse.dropWhile isSlash).reverse
  if inner.isEmpty then .ok 0 else databaseNumber (String.ofList inner)

/-- The location of a store behind a host. -/
def ofHost (u : Url) (host : String) : Except RemoteError Location :=
  if u.scheme = "rediss" then .error (fault "can't connect with TLS, the feature is not enabled")
  else do
    let number ← databaseOf (u.path.getD [])
    let user ← login u.user "Username is not valid UTF-8 string"
    let password ← login u.password "Password is not valid UTF-8 string"
    .ok ⟨.tcp host (u.port.getD defaultPort), number, user, password⟩

/-- Whether a path ends like the name of a drive: with a letter and a colon or a bar. -/
def endsLikeDrive (path : List Nat) : Bool :=
  match path.reverse with
  | mark :: letter :: _ :: _ => (mark == 58 || mark == 124) && (Char.ofNat letter).isAlpha
  | _ => false

/-- The bytes of the path with some segments; one that ends like a drive gets a slash. -/
def socketPath (segments : List (List Char)) : List Nat :=
  let path := segments.flatMap fun s => 47 :: Url.bytes s
  if endsLikeDrive path then path ++ [47] else path

/-- The location of a store behind a socket. -/
def ofSocket (u : Url) : Except RemoteError Location :=
  match u.path, u.host.getD "localhost" with
  | some (first :: rest), "localhost" => do
      let number ← match u.parameter? "db" with
        | some text => databaseNumber text
        | none => .ok 0
      .ok ⟨.socket (socketPath (first :: rest)), number, u.parameter? "user", u.parameter? "pass"⟩
  | _, _ => .error (fault "Missing path")

/-- The location that a URL names. -/
def ofUrl (s : String) : Except RemoteError Location :=
  match Url.read? s with
  | none => .error (fault "Redis URL did not parse")
  | some u =>
      if u.scheme = "redis" ∨ u.scheme = "rediss" then
        match u.host with
        | some host => ofHost u host
        | none => .error (fault "Missing hostname")
      else if u.scheme = "redis+unix" ∨ u.scheme = "unix" then ofSocket u
      else .error (fault "Redis URL did not parse")

end Location

end Turnstile
