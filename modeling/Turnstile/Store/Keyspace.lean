/-
**The keyspace of a store.**

A key holds an integer or a sorted set, and may carry an expiry.  An entry whose expiry has come is
dropped when its key is next used; a set that loses its last member is dropped at once.  Every
operation takes the time at which it runs, in milliseconds.  As data, an operation is a command with
its arguments, and answers one cell.

Main definitions:

* `Value`, `Entry`, `Keyspace` — what is stored;
* `Keyspace.purge` — drops the entry of a key if it has expired;
* `Keyspace.int?`, `Keyspace.incrBy`, `Keyspace.addMember`, `Keyspace.removeByScore`,
  `Keyspace.cardinality`, `Keyspace.expire`, `Keyspace.ttl?`, `Keyspace.delete` — the operations;
* `KeyspaceM` — computations on a keyspace that may fail, keeping what they did before;
* `KeyCommand`, `KeyCommand.run` — the commands, and what one does at a time;
* `Cell` — what a command answers;
* `KeyCommand.rows` — commands one after the other, as one computation that never fails.
-/

import Turnstile.Error
import Turnstile.Store.Table
import Turnstile.Text.Reading

set_option relaxedAutoImplicit false
set_option autoImplicit false

namespace Turnstile

/-- What a key holds: an integer, or members with their scores. -/
inductive Value
  | int (v : Int)
  | set (members : Table Int)

/-- A value with its expiry, if it has one. -/
structure Entry where
  value : Value
  expiresAt : Option Nat

/-- The entries of a store. -/
structure Keyspace where
  entries : Table Entry

/-- Whether an entry has expired at a time. -/
def Entry.expired (e : Entry) (now : Nat) : Bool :=
  match e.expiresAt with
  | some t => t ≤ now
  | none => false

namespace Keyspace

/-- The keyspace without entries. -/
def empty : Keyspace := ⟨Table.empty⟩

instance : Inhabited Keyspace := ⟨empty⟩

/-- The entry of a key, expired or not. -/
def get? (ks : Keyspace) (key : String) : Option Entry := ks.entries.get? key

/-- Stores an entry. -/
def put (ks : Keyspace) (key : String) (e : Entry) : Keyspace := ⟨ks.entries.set key e⟩

/-- Drops the entry of a key. -/
def drop (ks : Keyspace) (key : String) : Keyspace := ⟨ks.entries.erase key⟩

/-- Drops the entry of a key if it has expired. -/
def purge (ks : Keyspace) (now : Nat) (key : String) : Keyspace :=
  match ks.get? key with
  | some e => if e.expired now then ks.drop key else ks
  | none => ks

/-- Whether a key holds a value. -/
def contains (ks : Keyspace) (now : Nat) (key : String) : Bool × Keyspace :=
  let ks := ks.purge now key
  ((ks.get? key).isSome, ks)

/-- The integer that a key holds, if it holds anything. -/
def int? (ks : Keyspace) (now : Nat) (key : String) :
    Except StoreError (Option Int) × Keyspace :=
  let ks := ks.purge now key
  match ks.get? key with
  | none => (.ok none, ks)
  | some ⟨.int v, _⟩ => (.ok (some v), ks)
  | some ⟨.set _, _⟩ => (.error (.wrongType key), ks)

/-- The failure of an increment that leaves the signed 64-bit range. -/
def overflow : StoreError := .script "increment or decrement would overflow"

/-- Adds to the integer of a key and answers the sum.  A key that holds nothing counts as zero;
an expiry stays. -/
def incrBy (ks : Keyspace) (now : Nat) (key : String) (by_ : Int) :
    Except StoreError Int × Keyspace :=
  let ks := ks.purge now key
  match ks.get? key with
  | none => (.ok by_, ks.put key ⟨.int by_, none⟩)
  | some ⟨.int v, expiry⟩ =>
      if Text.fitsWord (v + by_) then (.ok (v + by_), ks.put key ⟨.int (v + by_), expiry⟩)
      else (.error overflow, ks)
  | some ⟨.set _, _⟩ => (.error (.wrongType key), ks)

/-- Gives a score to a member of the set of a key; answers whether the member is new. -/
def addMember (ks : Keyspace) (now : Nat) (key : String) (score : Int) (member : String) :
    Except StoreError Bool × Keyspace :=
  let ks := ks.purge now key
  match ks.get? key with
  | none => (.ok true, ks.put key ⟨.set (Table.empty.set member score), none⟩)
  | some ⟨.set members, expiry⟩ =>
      (.ok (!members.contains member), ks.put key ⟨.set (members.set member score), expiry⟩)
  | some ⟨.int _, _⟩ => (.error (.wrongType key), ks)

/-- Removes the members with scores from `low` to `high` from the set of a key; answers how many
there were. -/
def removeByScore (ks : Keyspace) (now : Nat) (key : String) (low high : Int) :
    Except StoreError Nat × Keyspace :=
  let ks := ks.purge now key
  match ks.get? key with
  | none => (.ok 0, ks)
  | some ⟨.set members, expiry⟩ =>
      let kept := members.filter fun _ score => score < low || high < score
      let ks := if kept.isEmpty then ks.drop key else ks.put key ⟨.set kept, expiry⟩
      (.ok (members.size - kept.size), ks)
  | some ⟨.int _, _⟩ => (.error (.wrongType key), ks)

/-- The number of members of the set of a key. -/
def cardinality (ks : Keyspace) (now : Nat) (key : String) : Except StoreError Nat × Keyspace :=
  let ks := ks.purge now key
  match ks.get? key with
  | none => (.ok 0, ks)
  | some ⟨.set members, _⟩ => (.ok members.size, ks)
  | some ⟨.int _, _⟩ => (.error (.wrongType key), ks)

/-- The time `ttl` after `now`, at most the largest 64-bit word. -/
def expiryAfter (now : Nat) (ttl : Duration) : Nat := min (now + ttl.clampedMillis) maxWord

/-- Sets the expiry of a key; answers whether the key holds anything. -/
def expire (ks : Keyspace) (now : Nat) (key : String) (ttl : Duration) : Bool × Keyspace :=
  let ks := ks.purge now key
  match ks.get? key with
  | some e => (true, ks.put key { e with expiresAt := some (expiryAfter now ttl) })
  | none => (false, ks)

/-- The time until the entry of a key expires, if it does. -/
def ttl? (ks : Keyspace) (now : Nat) (key : String) : Option Duration × Keyspace :=
  let ks := ks.purge now key
  (((ks.get? key).bind Entry.expiresAt).map fun t => Duration.ofMillis (t - now), ks)

/-- Drops what a key holds; answers whether it held anything. -/
def delete (ks : Keyspace) (now : Nat) (key : String) : Bool × Keyspace :=
  let ks := ks.purge now key
  ((ks.get? key).isSome, ks.drop key)

end Keyspace

/-! ### Computations -/

/-- A computation on a keyspace that may fail; what it did before the failure stays. -/
abbrev KeyspaceM := ExceptT StoreError (StateM Keyspace)

namespace KeyspaceM

/-- An operation that may fail, as a computation. -/
def attempt {α : Type} (f : Keyspace → Except StoreError α × Keyspace) : KeyspaceM α :=
  ExceptT.mk f

/-- An operation that cannot fail, as a computation. -/
def always {α : Type} (f : Keyspace → α × Keyspace) : KeyspaceM α :=
  ExceptT.mk fun ks => ((Except.ok (f ks).1), (f ks).2)

/-- Runs a computation: its answer and the keyspace after it. -/
def runOn {α : Type} (m : KeyspaceM α) (ks : Keyspace) : Except StoreError α × Keyspace :=
  (ExceptT.run m) ks

end KeyspaceM

/-! ### Commands -/

/-- An operation on a keyspace with its arguments. -/
inductive KeyCommand
  | now
  | contains (key : String)
  | int (key : String)
  | incrBy (key : String) (by_ : Int)
  | addMember (key : String) (score : Int) (member : String)
  | removeByScore (key : String) (low high : Int)
  | cardinality (key : String)
  | expire (key : String) (lifetime : Duration)
  | ttl (key : String)
  | delete (key : String)
  deriving DecidableEq

/-- What a command answers. -/
inductive Cell
  | absent
  | number (v : Int)
  | truth (b : Bool)
  | span (d : Duration)
  deriving DecidableEq

/-- The cell of a value that may be absent. -/
def Cell.ofOption {α : Type} (f : α → Cell) : Option α → Cell
  | some a => f a
  | none => .absent

/-- Changes the answer of an operation. -/
def KeyCommand.answering {α β : Type} (f : α → β) : α × Keyspace → β × Keyspace
  | (a, ks) => (f a, ks)

/-- What a command does at a time. -/
def KeyCommand.run (time : Nat) (ks : Keyspace) : KeyCommand → Except StoreError Cell × Keyspace
  | .now => (.ok (.number time), ks)
  | .contains key => answering (fun b => .ok (.truth b)) (ks.contains time key)
  | .int key => answering (Except.map (Cell.ofOption .number)) (ks.int? time key)
  | .incrBy key by_ => answering (Except.map .number) (ks.incrBy time key by_)
  | .addMember key score member =>
      answering (Except.map .truth) (ks.addMember time key score member)
  | .removeByScore key low high =>
      answering (Except.map fun n => .number (Int.ofNat n)) (ks.removeByScore time key low high)
  | .cardinality key =>
      answering (Except.map fun n => .number (Int.ofNat n)) (ks.cardinality time key)
  | .expire key lifetime => answering (fun b => .ok (.truth b)) (ks.expire time key lifetime)
  | .ttl key => answering (fun d => .ok (Cell.ofOption .span d)) (ks.ttl? time key)
  | .delete key => answering (fun b => .ok (.truth b)) (ks.delete time key)

/-- Commands one after the other; a command that fails does not stop the others. -/
def KeyCommand.runAll (time : Nat) (commands : List KeyCommand) (ks : Keyspace) :
    List (Except StoreError Cell) × Keyspace :=
  match commands with
  | [] => ([], ks)
  | c :: rest =>
      let (row, ks) := c.run time ks
      let (rows, ks) := runAll time rest ks
      (row :: rows, ks)

/-- Commands one after the other, as one computation that never fails. -/
def KeyCommand.rows (time : Nat) (commands : List KeyCommand) :
    KeyspaceM (List (Except StoreError Cell)) :=
  KeyspaceM.always (runAll time commands)

end Turnstile
