/-
**What a limiter needs of a store.**

A store does two things: it runs a named script on some keys as one indivisible step, and it
deletes keys.  A script takes integers and texts, and answers nothing, an integer, a text or a list
of answers; integers are signed 64-bit words, and larger numbers of a caller are clamped on the way
in.  Each call comes with its circumstances: whether its context is already finished, and what the
store's clock reads.

Main definitions:

* `ScriptArg`, `ScriptArg.ofNat`, `ScriptArg.integer?`, `ScriptArg.text` — arguments;
* `ScriptValue`, `ScriptValue.integer?`, `ScriptValue.text` — replies;
* `Script` — a name and a source;
* `Call` — the circumstances of a call;
* `Backend` — the stores.
-/

import Turnstile.Error
import Turnstile.Text.Descriptive
import Turnstile.Text.Reading

set_option relaxedAutoImplicit false
set_option autoImplicit false

namespace Turnstile

/-! ### Arguments and replies -/

/-- An argument of a script. -/
inductive ScriptArg
  | int (v : Int)
  | str (s : String)
  deriving DecidableEq

namespace ScriptArg

/-- The argument for an unsigned number: clamped to the greatest signed word. -/
def ofNat (n : Nat) : ScriptArg := .int (min (n : Int) Text.maxInt)

/-- The integer that an argument stands for: a text is read as one, blanks at its ends aside. -/
def integer? : ScriptArg → Option Int
  | .int v => some v
  | .str s => Text.readInteger? s

/-- An argument in the form in which it travels. -/
def text : ScriptArg → String
  | .int v => toString v
  | .str s => s

@[simp] theorem integer?_ofNat (n : Nat) : (ofNat n).integer? = some (min (n : Int) Text.maxInt) :=
  rfl

end ScriptArg

/-- The reply of a script. -/
inductive ScriptValue
  | nil
  | int (v : Int)
  | str (s : String)
  | array (items : List ScriptValue)

namespace ScriptValue

/-- The integer of an integer reply. -/
def integer? : ScriptValue → Option Int
  | .int v => some v
  | _ => none

/-- The descriptive text of a reply. -/
def text : ScriptValue → String
  | .nil => "nil"
  | .int v => "(integer) " ++ toString v
  | .str s => Quoted.quote s
  | .array items => "(array of " ++ toString items.length ++ ")"

end ScriptValue

/-! ### Stores -/

/-- A script: a stable name, and the source that a remote store runs. -/
structure Script where
  name : String
  source : String
  deriving DecidableEq

/-- The circumstances of a store call: why its context is finished, if it is, and the reading of
the store's clock in milliseconds. -/
structure Call where
  status : Option ContextError
  now : Nat
  deriving DecidableEq

/-- The stores whose state is a `σ`. -/
class Backend (σ : Type) where
  /-- Runs a script on keys and arguments. -/
  eval : Call → Script → List String → List ScriptArg → σ → Except StoreError ScriptValue × σ
  /-- Deletes keys; absent ones are no error. -/
  delete : Call → List String → σ → Except StoreError Unit × σ

end Turnstile
