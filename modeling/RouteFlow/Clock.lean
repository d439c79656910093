/-!
# Durations and moments

Durations are counted in nanoseconds. A moment of wall time is the duration since the start of the
year 1970.
-/

namespace RouteFlow

/-- A duration in nanoseconds. -/
abbrev Nanos := Nat

namespace Nanos

/-- So many seconds. -/
def ofSeconds (n : Nat) : Nanos := n * 1000000000

/-- So many milliseconds. -/
def ofMillis (n : Nat) : Nanos := n * 1000000

/-- The whole milliseconds of a duration. -/
def millis (d : Nanos) : Nat := d / 1000000

/-- The whole seconds of a duration. -/
def seconds (d : Nanos) : Nat := d / 1000000000

/-- The number of seconds from the start of 1970 at which the clock ends. -/
def clockSeconds : Nat := UInt64.size / 2

end Nanos
end RouteFlow
