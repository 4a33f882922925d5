/-
**Delays between attempts.**

Attempt `0` is the first call and has no delay; the delay of attempt `k` comes before the `k`-th
further call.  A constant schedule has the same delay every time; an exponential one doubles it
each time, up to its cap if it has one.  No delay is longer than a day.  The doubling is computed in
unsigned 128-bit numbers that stop at the largest one, with a 32-bit exponent, and its result is
read as a 64-bit number of nanoseconds.

A jittered delay is a whole number of milliseconds drawn evenly from a range: from nothing to the
delay, or from half the delay to the delay.  The draw turns one 64-bit word, or two where one
leaves a doubt, into a number of the range by a widening multiplication.

Main definitions:

* `Backoff` — a schedule;
* `Backoff.withCap` — the schedule with a cap, if that makes sense;
* `Backoff.powerOfTwo`, `Backoff.times` — the numbers that the doubling is computed in;
* `Backoff.delay` — the delay of an attempt;
* `WordSource` — an endless supply of 64-bit words;
* `WordSource.between` — a number of a range, drawn from a source;
* `Jitter`, `Jitter.apply` — a way to spread a delay, and the delay it gives.
-/

import Turnstile.Duration
import Turnstile.Error
import Turnstile.Text.Descriptive

set_option relaxedAutoImplicit false
set_option autoImplicit false

namespace Turnstile

/-! ### Schedules -/

/-- A schedule of delays. -/
inductive Backoff
  | constant (delay : Duration)
  | exponential (base : Duration) (cap : Option Duration)
  deriving DecidableEq

namespace Backoff

/-- The longest delay of any schedule: one day. -/
def longest : Duration := ⟨86400000000000, by omega⟩

/-- The schedule with its delays capped.  A cap needs an exponential schedule, is not zero, and is
not below the base. -/
def withCap (b : Backoff) (cap : Duration) : Except BackoffError Backoff :=
  if cap.isZero then .error .zeroCap
  else match b with
    | .exponential base _ =>
        if cap < base then .error (.capBelowBase base cap) else .ok (.exponential base (some cap))
    | .constant _ => .error .capOnConstant

/-- The largest unsigned 128-bit number. -/
def maxWide : Nat := 340282366920938463463374607431768211455

/-- The largest exponent, a 32-bit number. -/
def maxExponent : Nat := 4294967295

/-- A power of two, or the largest 128-bit number if that is less. -/
def powerOfTwo (exponent : Nat) : Nat := if exponent < 128 then Nat.pow 2 exponent else maxWide

/-- A product, or the largest 128-bit number if that is less. -/
def times (a b : Nat) : Nat := min (a * b) maxWide

/-- The delay of an attempt. -/
def delay (b : Backoff) (attempt : Nat) : Duration :=
  match attempt, b with
  | 0, _ => .zero
  | _ + 1, .constant d => min d longest
  | k + 1, .exponential base cap =>
      let nanos := times base.nanos (powerOfTwo (min k maxExponent))
      let doubled := Duration.ofNanos (min nanos longest.nanos % (maxWord + 1))
      let capped := match cap with
        | some c => min doubled c
        | none => doubled
      min capped longest

/-- The descriptive text of a schedule. -/
def describe (b : Backoff) : String :=
  let kind := match b with
    | .constant d => Text.record "Constant" [("delay", d.text)]
    | .exponential base cap =>
        let capText := match cap with
          | some c => Text.variant "Some" [c.text]
          | none => "None"
        Text.record "Exponential" [("base", base.text), ("max", capText)]
  Text.record "Backoff" [("kind", kind)]

end Backoff

/-! ### Spreading delays at random -/

/-- An endless supply of 64-bit words: the word at each position, and how many are taken. -/
structure WordSource where
  words : Nat → Nat
  taken : Nat

namespace WordSource

/-- The source that gives the words of a list over and over. -/
def cycle (words : List Nat) : WordSource :=
  ⟨fun i => (words[i % words.length]?).getD 0, 0⟩

/-- The number of 64-bit words. -/
def wordCount : Nat := 18446744073709551616

/-- The next word of a source. -/
def next (s : WordSource) : Nat × WordSource :=
  (s.words s.taken % wordCount, { s with taken := s.taken + 1 })

/-- A number from `low` to `high`.  The word times the size of the range, divided by `2 ^ 64`, is
the offset; if the remainder is so large that a second word could carry into it, that word
decides. -/
def between (low high : Nat) (s : WordSource) : Nat × WordSource :=
  let size := (high - low + 1) % wordCount
  let (w, s) := s.next
  if size = 0 then (w, s)
  else
    let offset := w * size / wordCount
    let rest := w * size % wordCount
    if rest > (wordCount - size) % wordCount then
      let (v, s) := s.next
      if wordCount ≤ rest + v * size / wordCount then (low + offset + 1, s) else (low + offset, s)
    else (low + offset, s)

end WordSource

/-- How a delay is spread: not at all, over the whole of it, or over its second half. -/
inductive Jitter
  | none
  | full
  | equal
  deriving DecidableEq

namespace Jitter

/-- The delay after jitter, in whole milliseconds of the range. -/
def apply (j : Jitter) (d : Duration) (s : WordSource) : Duration × WordSource :=
  let ms := d.clampedMillis
  match j with
  | .none => (d, s)
  | .full =>
      if ms = 0 then (.zero, s)
      else
        let (drawn, s) := s.between 0 ms
        (.ofMillis drawn, s)
  | .equal =>
      if ms = 0 then (.zero, s)
      else
        let (drawn, s) := s.between (ms / 2) ms
        (.ofMillis drawn, s)

/-- The name of a jitter. -/
def describe : Jitter → String
  | .none => "None"
  | .full => "Full"
  | .equal => "Equal"

end Jitter

end Turnstile
