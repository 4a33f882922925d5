/-
**A server that follows a script.**

The server does one thing per command that it receives, from a list: it replies, answers with an
error line, closes the connection, or says nothing.  When the list is used up it answers every
command with the number one.  It notes down the connections and the commands that it receives.  A
server that does not listen receives nothing.

A server knows a script by the SHA-1 digest of its source: twenty bytes, computed block by block
from the bytes of the text, in hexadecimal.

Main definitions:

* `Digest.padded` — the bytes of a message filled up to whole blocks;
* `Digest.schedule` — the eighty words of a block;
* `Digest.absorb` — what a block does to the state;
* `Digest.sha1` — the digest of a text;
* `ServerAction`, `Server` — the server;
* `Exchange` — what comes of a command;
* `Server.exchange` — one command;
* `Server.connect` — opens a connection and logs in;
* `Server.invoke`, `Server.delete` — the commands of the two calls.
-/

import Turnstile.Remote.Location

set_option relaxedAutoImplicit false
set_option autoImplicit false

namespace Turnstile

/-! ### Digests of scripts -/

namespace Digest

/-- A word rotated to the left by `n` bits. -/
def rotate (n : UInt32) (x : UInt32) : UInt32 := (x <<< n) ||| (x >>> (32 - n))

/-- The eight bytes of a 64-bit number, highest first. -/
def lengthBytes (n : Nat) : List Nat :=
  [56, 48, 40, 32, 24, 16, 8, 0].map fun shift => (n >>> shift) % 256

/-- The bytes of a message, a marker, zeros, and the length in bits: whole blocks of 64. -/
def padded (bytes : List Nat) : List Nat :=
  let n := bytes.length
  bytes ++ [0x80] ++ List.replicate ((119 - n % 64) % 64) 0 ++ lengthBytes (8 * n)

/-- The words of bytes, four by four, highest first. -/
def words : List Nat → List UInt32
  | a :: b :: c :: d :: rest =>
      (a * 16777216 + b * 65536 + c * 256 + d).toUInt32 :: words rest
  | _ => []

/-- The words of a message cut into blocks of sixteen; `fuel` bounds their number. -/
def blocks : Nat → List UInt32 → List (List UInt32)
  | 0, _ => []
  | _, [] => []
  | fuel + 1, ws => ws.take 16 :: blocks fuel (ws.drop 16)

/-- The eighty words of a block: its own sixteen, and each later one from four earlier ones. -/
def schedule (block : List UInt32) : Array UInt32 :=
  (List.range 64).foldl (fun ws i =>
    let at_ := fun (k : Nat) => ws.getD k 0
    ws.push (rotate 1 (at_ (i + 13) ^^^ at_ (i + 8) ^^^ at_ (i + 2) ^^^ at_ i))) block.toArray

/-- The five words of the state. -/
structure State where
  a : UInt32
  b : UInt32
  c : UInt32
  d : UInt32
  e : UInt32
  deriving DecidableEq

/-- The state before the first block. -/
def State.initial : State := ⟨0x67452301, 0xEFCDAB89, 0x98BADCFE, 0x10325476, 0xC3D2E1F0⟩

/-- The mixing function and the constant of a round. -/
def mix (round : Nat) (b c d : UInt32) : UInt32 × UInt32 :=
  if round < 20 then ((b &&& c) ||| ((~~~b) &&& d), 0x5A827999)
  else if round < 40 then (b ^^^ c ^^^ d, 0x6ED9EBA1)
  else if round < 60 then ((b &&& c) ||| (b &&& d) ||| (c &&& d), 0x8F1BBCDC)
  else (b ^^^ c ^^^ d, 0xCA62C1D6)

/-- One round. -/
def State.turn (s : State) (round : Nat) (w : UInt32) : State :=
  let (f, k) := mix round s.b s.c s.d
  ⟨rotate 5 s.a + f + s.e + k + w, s.a, rotate 30 s.b, s.c, s.d⟩

/-- What a block does to the state. -/
def absorb (s : State) (block : List UInt32) : State :=
  let ws := schedule block
  let t := (List.range 80).foldl (fun t i => t.turn i (ws.getD i 0)) s
  ⟨s.a + t.a, s.b + t.b, s.c + t.c, s.d + t.d, s.e + t.e⟩

/-- A word as eight hexadecimal digits. -/
def hex (w : UInt32) : String :=
  let digits := Nat.toDigits 16 w.toNat
  String.ofList (List.replicate (8 - digits.length) '0' ++ digits)

/-- The digest of a text in hexadecimal. -/
def sha1 (text : String) : String :=
  let ws := words (padded (text.toUTF8.toList.map UInt8.toNat))
  let s := (blocks ws.length ws).foldl absorb .initial
  String.join ([s.a, s.b, s.c, s.d, s.e].map hex)

end Digest

/-! ### The server -/

/-- What a server does with a command. -/
inductive ServerAction
  | reply (r : Reply)
  | errorLine (line : String)
  | close
  | silence

/-- A server: whether it listens, what it does with the commands to come, and what it received. -/
structure Server where
  listening : Bool
  actions : List ServerAction
  received : Array (List String)

/-- What comes of a command. -/
inductive Exchange
  | answered (r : Reply)
  | failed (e : RemoteError)
  /-- There is no answer for as long as the caller waits. -/
  | silent

namespace Server

/-- A reply as a client takes it: the status `OK` is plain consent. -/
def taken : Reply → Reply
  | .status "OK" => .okay
  | r => r

/-- One command. -/
def exchange (s : Server) (command : List String) : Exchange × Server :=
  let s := { s with received := s.received.push command }
  match s.actions with
  | [] => (.answered (.int 1), s)
  | .reply r :: rest => (.answered (taken r), { s with actions := rest })
  | .errorLine line :: rest => (.failed (.ofLine line), { s with actions := rest })
  | .close :: rest => (.failed (.broken "broken pipe"), { s with actions := rest })
  | .silence :: rest => (.silent, { s with actions := rest })

/-- The failure of a connection that nobody accepts. -/
def unreachable : RemoteError := .broken "Connection refused (os error 111)"

/-- The failure of a login that is not accepted. -/
def loginRefused : RemoteError := .known .authentication "Password authentication failed" none

/-- The failure of a login that is answered by something other than consent. -/
def loginUnclear : RemoteError :=
  .known .response "Redis server refused to authenticate, returns Ok() != Value::Okay" none

/-- What a server remarks on a login with more words than it knows. -/
def tooManyWords : List Char := "wrong number of arguments for 'auth' command".toList

/-- Whether a text occurs in another one. -/
def occursIn (text : List Char) : List Char → Bool
  | [] => text.isEmpty
  | c :: rest => text.isPrefixOf (c :: rest) || occursIn text rest

/-- Whether a failure says that a login has more words than the server knows. -/
def isTooManyWords : RemoteError → Bool
  | .known _ _ (some detail) | .foreign _ detail =>
      occursIn tooManyWords detail.toList
  | _ => false

/-- What a login comes to. -/
def loginResult : Exchange → Exchange
  | .answered .okay => .answered .okay
  | .answered _ => .failed loginUnclear
  | .failed _ => .failed loginRefused
  | .silent => .silent

/-- Logs in; a server that knows no users is asked again with the password alone. -/
def login (s : Server) (user : Option String) (password : String) : Exchange × Server :=
  let (answer, s) := s.exchange (["AUTH"] ++ user.toList ++ [password])
  match answer with
  | .failed e =>
      if isTooManyWords e then
        let (answer, s) := s.exchange ["AUTH", password]
        match loginResult answer with
        | .failed _ => (.failed loginRefused, s)
        | other => (other, s)
      else (.failed loginRefused, s)
  | other => (loginResult other, s)

/-- Opens a connection and logs in if there is a password. -/
def connect (s : Server) (user password : Option String) : Exchange × Server :=
  if !s.listening then (.failed unreachable, s)
  else
    let s := { s with received := s.received.push ["connected"] }
    match password with
    | some password => s.login user password
    | none => (.answered .okay, s)

/-- The command that runs a script by its digest. -/
def runCommand (source : String) (keys : List String) (args : List ScriptArg) : List String :=
  ["EVALSHA", Digest.sha1 source, toString keys.length] ++ keys ++ args.map ScriptArg.text

/-- Whether a failure says that the server does not know a script. -/
def isNoScript : RemoteError → Bool
  | .known .noScript _ _ => true
  | _ => false

/-- Runs a script by its digest; a server that does not know it is given the source first. -/
def invoke (s : Server) (source : String) (keys : List String) (args : List ScriptArg) :
    Exchange × Server :=
  let command := runCommand source keys args
  let (answer, s) := s.exchange command
  match answer with
  | .failed e =>
      if isNoScript e then
        let (loaded, s) := s.exchange ["SCRIPT", "LOAD", source]
        match loaded with
        | .answered _ => s.exchange command
        | other => (other, s)
      else (.failed e, s)
  | other => (other, s)

/-- Deletes keys. -/
def delete (s : Server) (keys : List String) : Exchange × Server := s.exchange ("DEL" :: keys)

end Server

end Turnstile
