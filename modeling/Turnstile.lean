import Turnstile.Metrics.Bench
import Turnstile.Remote.Session
import Turnstile.Scenario.Run
import Turnstile.Settings.Basic
import Turnstile.Proofs.Store.Slot
import Turnstile.Proofs.Store.Sweep
import Turnstile.Proofs.Limiter.Settlement
import Turnstile.Proofs.Limiter.Account
import Turnstile.Proofs.Limiter.Visit
import Turnstile.Proofs.Limiter.Booking
import Turnstile.Proofs.Limiter.Markers
import Turnstile.Proofs.Limiter.Stretch
import Turnstile.Proofs.Limiter.PostState
import Turnstile.Proofs.Limiter.Ledger
import Turnstile.Proofs.World.Setting
import Turnstile.Proofs.World.Meanwhile
import Turnstile.Proofs.World.Story
import Turnstile.Proofs.Retry.Delays
import Turnstile.Proofs.Retry.Spread
import Turnstile.Proofs.Retry.Stretch
import Turnstile.Proofs.Admission.Stretch
import Turnstile.Proofs.Admission.Attempt
import Turnstile.Proofs.Admission.Draft
import Turnstile.Proofs.Admission.AddressText
import Turnstile.Proofs.Admission.Outcome
import Turnstile.Proofs.Admission.Pauses
import Turnstile.Proofs.Admission.Deadline
import Turnstile.Proofs.Admission.PollSchedule
import Turnstile.Proofs.Scenario.Prompt
import Turnstile.Proofs.Retry.Attempts
import Turnstile.Proofs.Traffic.Run
import Turnstile.Proofs.Traffic.Guarantee
import Turnstile.Proofs.Traffic.Charges
import Turnstile.Proofs.Limiter.EventSet
import Turnstile.Proofs.Traffic.Isolation
import Turnstile.Proofs.Traffic.Quota
import Turnstile.Proofs.Traffic.Expiry
import Turnstile.Proofs.Traffic.RetryAfter
import Turnstile.Proofs.Traffic.Burst
import Turnstile.Proofs.Traffic.Callers
import Turnstile.Proofs.Remote.Connections
import Turnstile.Proofs.Remote.Discards
import Turnstile.Proofs.Context.Lineage
import Turnstile.Proofs.Context.History
import Turnstile.Proofs.World.Aloof
import Turnstile.Proofs.Admission.Calls
import Turnstile.Proofs.Settings.RoundTrip
import Turnstile.Proofs.Limiter.Reports
import Turnstile.Proofs.Traffic.Sights
import Turnstile.Proofs.Metrics.Counts
import Turnstile.Proofs.Traffic.Observations
import Turnstile.Proofs.Traffic.Reset
import Turnstile.Proofs.Admission.Overlay
import Turnstile.Proofs.Store.Words
import Turnstile.Proofs.Limiter.Arithmetic
import Turnstile.Proofs.Json.Grammar
import Turnstile.Proofs.Json.Skipping
import Turnstile.Proofs.Json.Meaning
import Turnstile.Proofs.Json.Numerals
import Turnstile.Proofs.Settings.Records
import Turnstile.Proofs.Settings.Members
import Turnstile.Proofs.Remote.Scripts
import Turnstile.Proofs.Metrics.Registration
import Turnstile.Proofs.Metrics.Series
import Turnstile.Proofs.Metrics.Agreement
import Turnstile.Proofs.Metrics.Alive
import Turnstile.Proofs.Metrics.Retention
import Turnstile.Proofs.Limiter.ArgumentText
import Turnstile.Proofs.Admission.Sockets
