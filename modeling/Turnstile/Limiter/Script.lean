/-
**The sliding-window script.**

A limiter key has two physical keys: a sorted set with a marker per admitted event, and a counter.
The script drops the markers that have left the window, adds the events to the counter, takes them
back if that exceeds the limit, and otherwise adds their markers and renews the expiry of both
keys.  It answers `1` for an admission and `0` for a denial.  To take the events back it negates
their number, and the least integer, which has no negation, aborts it there.

Main definitions:

* `SlidingScript.script` — the name and the source that a remote store runs;
* `SlidingScript.native` — the same as a computation on a keyspace;
* `SlidingScript.keys` — the two physical keys of a limiter key;
* `SlidingScript.keyTtl` — how long they live after an admission.
-/

import Turnstile.Store.Memory

set_option relaxedAutoImplicit false
set_option autoImplicit false

namespace Turnstile

namespace SlidingScript

/-- The source that a remote store runs. -/
def source : String := "
local event_key = KEYS[1]
local counter_key = KEYS[2]
local now = tonumber(ARGV[1])
local window = tonumber(ARGV[2])
local limit = tonumber(ARGV[3])
local n = tonumber(ARGV[4])

redis.call('ZREMRANGEBYSCORE', event_key, '-inf', now - window)

local count = redis.call('INCRBY', counter_key, n)
if count > limit then
    redis.call('DECRBY', counter_key, n)
    return 0
end

for i = 1, n do
    redis.call('ZADD', event_key, now, now .. ':' .. i)
end

local ttl = math.ceil(window / 1000) + 1
redis.call('EXPIRE', event_key, ttl)
redis.call('EXPIRE', counter_key, ttl)
return 1
"

/-- The script: its name is part of the agreement with remote stores. -/
def script : Script := ⟨"windowgate.sliding_window.v1", source⟩

/-- What tells the counter of a limiter key from its markers. -/
def counterSuffix : String := ":counter"

/-- The counter key of a limiter key. -/
def counterKey (key : String) : String := key ++ counterSuffix

/-- The two physical keys of a limiter key: markers, then counter. -/
def keys (key : String) : List String := [key, counterKey key]

/-- How long the two keys live after an admission: the window in whole seconds, rounded up, and one
second more. -/
def keyTtl (windowMs : Int) : Duration :=
  Duration.ofSecs (((max windowMs 0).toNat + 999) / 1000 + 1)

/-- The failure of a script whose argument is missing or no integer. -/
def badArgument (name : String) : StoreError :=
  .script ("ERR argument `" ++ name ++ "` is missing or not an integer")

/-- The failure of a script that got fewer than two keys. -/
def missingKeys : StoreError := .script "ERR sliding window script needs two keys"

/-- The integer argument at a place. -/
def integerAt (args : List ScriptArg) (i : Nat) (name : String) : Except StoreError Int :=
  match args[i]?.bind ScriptArg.integer? with
  | some v => .ok v
  | none => .error (badArgument name)

/-- The marker of the `i`-th event admitted at a time. -/
def marker (now : Int) (i : Nat) : String := toString now ++ ":" ++ toString i

/-- Adds the markers of `n` events. -/
def addMarkers (clock : Nat) (eventKey : String) (now : Int) (n : Nat) : KeyspaceM Unit :=
  (List.range n).forM fun i => do
    let _ ← KeyspaceM.attempt fun ks => ks.addMember clock eventKey now (marker now (i + 1))

/-- One decision on two physical keys. -/
def decide (clock : Nat) (eventKey counterKey : String) (now window limit n : Int) :
    KeyspaceM ScriptEnd := do
  let _ ← KeyspaceM.attempt fun ks =>
    ks.removeByScore clock eventKey Text.minInt (Text.clampWord (now - window))
  let count ← KeyspaceM.attempt fun ks => ks.incrBy clock counterKey n
  if limit < count then
    match Text.negation? n with
    | none => return .aborted
    | some back =>
        let _ ← KeyspaceM.attempt fun ks => ks.incrBy clock counterKey back
        return .replied (.int 0)
  else
    addMarkers clock eventKey now n.toNat
    let ttl := keyTtl window
    let _ ← KeyspaceM.always fun ks => ks.expire clock eventKey ttl
    let _ ← KeyspaceM.always fun ks => ks.expire clock counterKey ttl
    return .replied (.int 1)

/-- The script as a computation. -/
def native : Native := fun clock keys args =>
  match keys with
  | eventKey :: counterKey :: _ => do
      let now ← ExceptT.mk (pure (integerAt args 0 "now"))
      let window ← ExceptT.mk (pure (integerAt args 1 "window"))
      let limit ← ExceptT.mk (pure (integerAt args 2 "limit"))
      let n ← ExceptT.mk (pure (integerAt args 3 "n"))
      decide clock eventKey counterKey now window limit n
  | _ => ExceptT.mk (pure (.error missingKeys))

end SlidingScript

/-- An empty store with the sliding-window script. -/
def MemoryStore.initial : MemoryStore :=
  .ofScripts [(SlidingScript.script.name, SlidingScript.native)]

end Turnstile
