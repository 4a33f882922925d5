/-
**Replies and failures of a remote store.**

A server answers nothing, an integer, bytes, a list of answers, a status text, or a plain consent.
A script's reply is read as a value, with bytes as repaired text; a deletion wants a number.

A call on a remote store fails in one of three ways: the connection breaks, the client or the server
signals a failure of a known kind, or the server answers with an error code that is not known.  Only
a broken connection makes the connection unusable.

Main definitions:

* `RemoteErrorKind` — the known kinds;
* `RemoteError`, `RemoteError.message` — the failures and their wording;
* `RemoteError.ofLine` — the failure that an error line of a server means;
* `RemoteError.storeError` — the store error of a failure;
* `Reply`, `Reply.scriptValue` — a reply and the value it stands for;
* `Reply.describe` — its descriptive text;
* `Reply.integer` — the number that a reply stands for, or why it stands for none.

Main results:

* `RemoteError.isBroken_iff` — the store error is one of the connection exactly when the connection
  broke.
-/

import Turnstile.Error
import Turnstile.Store.Backend
import Turnstile.Text.Descriptive
import Turnstile.Text.Reading

set_option relaxedAutoImplicit false
set_option autoImplicit false

namespace Turnstile

/-! ### Failures -/

/-- The known kinds of failures. -/
inductive RemoteErrorKind
  | response
  | authentication
  | type
  | execAbort
  | busyLoading
  | noScript
  | clientConfig
  | moved
  | ask
  | tryAgain
  | clusterDown
  | crossSlot
  | masterDown
  | io
  | client
  | extension
  | readOnly
  | masterNameNotFound
  | noValidReplicas
  | emptySentinelList
  | notBusy
  deriving DecidableEq

namespace RemoteErrorKind

/-- The known kinds by name. -/
def all : List (String × RemoteErrorKind) :=
  [("ResponseError", .response), ("AuthenticationFailed", .authentication), ("TypeError", .type),
    ("ExecAbortError", .execAbort), ("BusyLoadingError", .busyLoading),
    ("NoScriptError", .noScript), ("InvalidClientConfig", .clientConfig), ("Moved", .moved),
    ("Ask", .ask), ("TryAgain", .tryAgain), ("ClusterDown", .clusterDown),
    ("CrossSlot", .crossSlot), ("MasterDown", .masterDown), ("IoError", .io),
    ("ClientError", .client), ("ExtensionError", .extension), ("ReadOnly", .readOnly),
    ("MasterNameNotFoundBySentinel", .masterNameNotFound),
    ("NoValidReplicasFoundBySentinel", .noValidReplicas),
    ("EmptySentinelList", .emptySentinelList), ("NotBusy", .notBusy)]

/-- The name of a kind. -/
def name : RemoteErrorKind → String
  | .response => "ResponseError"
  | .authentication => "AuthenticationFailed"
  | .type => "TypeError"
  | .execAbort => "ExecAbortError"
  | .busyLoading => "BusyLoadingError"
  | .noScript => "NoScriptError"
  | .clientConfig => "InvalidClientConfig"
  | .moved => "Moved"
  | .ask => "Ask"
  | .tryAgain => "TryAgain"
  | .clusterDown => "ClusterDown"
  | .crossSlot => "CrossSlot"
  | .masterDown => "MasterDown"
  | .io => "IoError"
  | .client => "ClientError"
  | .extension => "ExtensionError"
  | .readOnly => "ReadOnly"
  | .masterNameNotFound => "MasterNameNotFoundBySentinel"
  | .noValidReplicas => "NoValidReplicasFoundBySentinel"
  | .emptySentinelList => "EmptySentinelList"
  | .notBusy => "NotBusy"

/-- The kind of a name. -/
def ofName? (name : String) : Option RemoteErrorKind := all.lookup name

theorem ofName?_name (k : RemoteErrorKind) : ofName? k.name = some k := by
  cases k <;> decide

/-- The kinds that a server signals by a code at the beginning of its error line. -/
def ofCode? : String → Option RemoteErrorKind
  | "ERR" => some .response
  | "EXECABORT" => some .execAbort
  | "LOADING" => some .busyLoading
  | "NOSCRIPT" => some .noScript
  | "MOVED" => some .moved
  | "ASK" => some .ask
  | "TRYAGAIN" => some .tryAgain
  | "CLUSTERDOWN" => some .clusterDown
  | "CROSSSLOT" => some .crossSlot
  | "MASTERDOWN" => some .masterDown
  | "READONLY" => some .readOnly
  | "NOTBUSY" => some .notBusy
  | _ => none

end RemoteErrorKind

/-- Why a call on a remote store failed. -/
inductive RemoteError
  /-- The connection broke, or there is none. -/
  | broken (text : String)
  /-- A failure of a known kind. -/
  | known (kind : RemoteErrorKind) (summary : String) (detail : Option String)
  /-- A code of the server that is not known. -/
  | foreign (code detail : String)
  deriving DecidableEq

namespace RemoteError

/-- The wording of a failure. -/
def message : RemoteError → String
  | .broken text => text
  | .known kind summary none => summary ++ "- " ++ kind.name
  | .known kind summary (some detail) => summary ++ " - " ++ kind.name ++ ": " ++ detail
  | .foreign code detail => code ++ ": " ++ detail

/-- What the client remarks on every failure that a server signals by a known code. -/
def signalled : String := "An error was signalled by the server"

/-- A text up to its first blank, and what follows that blank. -/
def cutAtBlank : List Char → List Char × Option (List Char)
  | [] => ([], none)
  | ' ' :: rest => ([], some rest)
  | c :: rest =>
      let (word, after) := cutAtBlank rest
      (c :: word, after)

/-- The failure that an error line of a server means. -/
def ofLine (line : String) : RemoteError :=
  let (word, rest) := cutAtBlank line.toList
  let code := String.ofList word
  let detail := rest.map String.ofList
  match RemoteErrorKind.ofCode? code with
  | some kind => .known kind signalled detail
  | none => .foreign code (detail.getD "Unknown extension error encountered")

/-- The store error of a failure. -/
def storeError (e : RemoteError) : StoreError :=
  match e with
  | .broken _ => .connection e.message
  | .known .response _ _ | .known .noScript _ _ => .script e.message
  | _ => .other e.message

/-- Whether the connection broke. -/
def isBroken : RemoteError → Bool
  | .broken _ => true
  | _ => false

theorem isBroken_iff {e : RemoteError} :
    e.isBroken = true ↔ ∃ text, e.storeError = .connection text := by
  cases e with
  | broken text => simp [isBroken, storeError]
  | known kind summary detail => cases kind <;> simp [isBroken, storeError]
  | foreign code detail => simp [isBroken, storeError]

end RemoteError

/-! ### Replies -/

/-- A reply of a server. -/
inductive Reply
  | nil
  | int (v : Int)
  | data (bytes : List Nat)
  | bulk (items : List Reply)
  | status (text : String)
  | okay

namespace Reply

mutual

/-- The value that a reply stands for. -/
def scriptValue : Reply → ScriptValue
  | .nil => .nil
  | .int v => .int v
  | .data bytes => .str (Utf8.repair bytes)
  | .bulk items => .array (scriptValues items)
  | .status text => .str text
  | .okay => .str "OK"

/-- The values that replies stand for. -/
def scriptValues : List Reply → List ScriptValue
  | [] => []
  | r :: rest => r.scriptValue :: scriptValues rest

end

/-- The text of bytes, if they are one. -/
def text? (bytes : List Nat) : Option String :=
  String.fromUTF8? (ByteArray.mk (bytes.map Nat.toUInt8).toArray)

/-- The descriptive text of bytes. -/
def describeData (bytes : List Nat) : String :=
  match text? bytes with
  | some s => "string-data('" ++ Quoted.quote s ++ "')"
  | none => "binary-data(" ++ Text.listed (bytes.map toString) ++ ")"

mutual

/-- The descriptive text of a reply. -/
def describe : Reply → String
  | .nil => "nil"
  | .int v => "int(" ++ toString v ++ ")"
  | .data bytes => describeData bytes
  | .bulk items => "bulk(" ++ String.intercalate ", " (describeAll items) ++ ")"
  | .status text => "status(" ++ Quoted.quote text ++ ")"
  | .okay => "ok"

/-- The descriptive texts of replies. -/
def describeAll : List Reply → List String
  | [] => []
  | r :: rest => r.describe :: describeAll rest

end

/-- The failure of a reply that does not stand for what is wanted. -/
def mismatch (reason : String) (r : Reply) : RemoteError :=
  .known .type "Response was of incompatible type"
    (some (Quoted.quote reason ++ " (response was " ++ r.describe ++ ")"))

/-- The integer that a text denotes, without blanks. -/
def integerOf? (s : String) : Option Int :=
  match Text.signed? s.toList with
  | some v => if Text.fitsWord v then some v else none
  | none => none

/-- The number that a reply stands for: an integer, or a text that denotes one. -/
def integer (r : Reply) : Except RemoteError Int :=
  let ofText := fun (s : String) => match integerOf? s with
    | some v => Except.ok v
    | none => .error (mismatch "Could not convert from string." r)
  match r with
  | .int v => .ok v
  | .status s => ofText s
  | .data bytes =>
      match text? bytes with
      | some s => ofText s
      | none => .error (.known .type "Invalid UTF-8" none)
  | _ => .error (mismatch "Response type not convertible to numeric." r)

end Reply

end Turnstile
