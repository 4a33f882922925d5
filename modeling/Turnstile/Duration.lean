/-
**Spans and points of time.**

A duration is a whole number of nanoseconds below `2 ^ 64` seconds.  The bound is part of the type,
so every duration can be taken apart into 64-bit seconds and a nanosecond remainder, and every
computation that could leave the range says where it is clamped.

An instant is a natural number: the nanoseconds since the start of a run.  Timers fire on whole
milliseconds, and an instant can only be named up to a far horizon.

Main definitions:

* `Duration` — a span, in nanoseconds;
* `Duration.ofNanos`, `Duration.ofMillis`, `Duration.ofParts` — the ways to make one, all clamped;
* `Duration.secs`, `Duration.subsecNanos`, `Duration.millis`, `Duration.clampedMillis` — the ways
  to read one;
* `Duration.text` — the short form with a unit, such as `1.5s`, `250ms` or `1.001µs`;
* `Instant.after?` — the instant a duration later, if it can be named;
* `Instant.tick` — the whole millisecond at which a timer set for an instant fires;
* `Instant.since` — the time between two instants.

Main results:

* `Duration.nanos_ofNanos` — making a duration keeps the nanoseconds up to the clamp;
* `Duration.secs_add_subsecNanos` — the two parts of a duration give it back;
* `Instant.le_tick`, `Instant.tick_lt` — a timer fires within the millisecond, and never early;
* `Instant.tick_of_dvd` — one that is set for a whole millisecond fires on time.
-/

set_option relaxedAutoImplicit false
set_option autoImplicit false

namespace Turnstile

/-- A span of time: nanoseconds, fewer than `2 ^ 64` seconds of them. -/
structure Duration where
  nanos : Nat
  nanos_lt : nanos < 18446744073709551616000000000
  deriving DecidableEq

/-- The largest 64-bit word. -/
def maxWord : Nat := 18446744073709551615

namespace Duration

/-- The longest duration, in nanoseconds. -/
def maxNanos : Nat := 18446744073709551615999999999

/-- The duration of `n` nanoseconds, or the longest one if that is shorter. -/
def ofNanos (n : Nat) : Duration :=
  ⟨min n maxNanos, by unfold maxNanos; omega⟩

/-- The duration of `ms` milliseconds. -/
def ofMillis (ms : Nat) : Duration := ofNanos (ms * 1000000)

/-- The duration of `s` seconds. -/
def ofSecs (s : Nat) : Duration := ofNanos (s * 1000000000)

/-- The duration of `s` seconds and `n` nanoseconds. -/
def ofParts (s n : Nat) : Duration := ofNanos (s * 1000000000 + n)

/-- The empty span. -/
def zero : Duration := ⟨0, by omega⟩

instance : Inhabited Duration := ⟨zero⟩

instance : LE Duration := ⟨fun a b => a.nanos ≤ b.nanos⟩

instance : LT Duration := ⟨fun a b => a.nanos < b.nanos⟩

instance (a b : Duration) : Decidable (a ≤ b) := inferInstanceAs (Decidable (a.nanos ≤ b.nanos))

instance (a b : Duration) : Decidable (a < b) := inferInstanceAs (Decidable (a.nanos < b.nanos))

instance : Min Duration := ⟨fun a b => if a ≤ b then a else b⟩

/-- Whether the span is empty. -/
def isZero (d : Duration) : Bool := d.nanos == 0

/-- The whole seconds of a duration. -/
def secs (d : Duration) : Nat := d.nanos / 1000000000

/-- The nanoseconds beyond the whole seconds. -/
def subsecNanos (d : Duration) : Nat := d.nanos % 1000000000

/-- The whole milliseconds of a duration. -/
def millis (d : Duration) : Nat := d.nanos / 1000000

/-- The whole milliseconds of a duration, at most the largest 64-bit word. -/
def clampedMillis (d : Duration) : Nat := min d.millis maxWord

/-! ### Reading back -/

theorem ext_nanos {a b : Duration} (h : a.nanos = b.nanos) : a = b := by
  cases a; cases b; simp only [mk.injEq]; exact h

@[simp] theorem nanos_ofNanos (n : Nat) : (ofNanos n).nanos = min n maxNanos := rfl

@[simp] theorem nanos_zero : zero.nanos = 0 := rfl

theorem nanos_le_max (d : Duration) : d.nanos ≤ maxNanos := by
  have := d.nanos_lt
  unfold maxNanos
  omega

/-- Making a duration from the nanoseconds of one gives it back. -/
theorem ofNanos_nanos (d : Duration) : ofNanos d.nanos = d :=
  ext_nanos (Nat.min_eq_left d.nanos_le_max)

theorem secs_add_subsecNanos (d : Duration) : d.secs * 1000000000 + d.subsecNanos = d.nanos := by
  unfold secs subsecNanos
  omega

/-! ### Text -/

/-- `n` as decimal digits, filled up on the left with zeros to `width` digits. -/
def paddedDigits (width n : Nat) : List Char :=
  let digits := Nat.toDigits 10 n
  List.replicate (width - digits.length) '0' ++ digits

/-- A whole part and a fraction of `width` decimal places, without the zeros at its end. -/
def fractionText (whole fraction width : Nat) : String :=
  let places := ((paddedDigits width fraction).reverse.dropWhile (· == '0')).reverse
  toString whole ++ (if places.isEmpty then "" else "." ++ String.ofList places)

/-- The short text of a duration: in seconds from one second on, else in the largest of the units
`ms`, `µs` and `ns` that it reaches. -/
def text (d : Duration) : String :=
  let n := d.nanos
  if 1000000000 ≤ n then fractionText (n / 1000000000) (n % 1000000000) 9 ++ "s"
  else if 1000000 ≤ n then fractionText (n / 1000000) (n % 1000000) 6 ++ "ms"
  else if 1000 ≤ n then fractionText (n / 1000) (n % 1000) 3 ++ "µs"
  else toString n ++ "ns"

end Duration

/-! ### Instants -/

namespace Instant

/-- The first instant that can not be named: `2 ^ 63 - 1` seconds after the start. -/
def horizon : Nat := 9223372036854775807000000000

/-- The instant `d` after `now`, if it can be named. -/
def after? (now : Nat) (d : Duration) : Option Nat :=
  if now + d.nanos < horizon then some (now + d.nanos) else none

/-- The instant `ms` milliseconds after the start. -/
def ofMillis (ms : Nat) : Nat := ms * 1000000

/-- The first whole millisecond at or after an instant. -/
def tick (t : Nat) : Nat := (t + 999999) / 1000000 * 1000000

/-- The time from `earlier` to `later`, nothing if they are the other way round. -/
def since (later earlier : Nat) : Duration := Duration.ofNanos (later - earlier)

theorem le_tick (t : Nat) : t ≤ tick t := by
  unfold tick
  omega

theorem tick_lt (t : Nat) : tick t < t + 1000000 := by
  unfold tick
  omega

theorem tick_of_dvd {t : Nat} (h : 1000000 ∣ t) : tick t = t := by
  unfold tick
  omega

end Instant

end Turnstile
