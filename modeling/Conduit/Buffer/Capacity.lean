/-!
# Buffer Capacities

How much room a buffer takes when it has to grow. Small buffers double, starting
from a floor; from a threshold on, capacity advances in steps of the threshold,
because doubling a large buffer wastes more than it saves. The answer never
passes the buffer's own ceiling, even where that leaves the request unmet.

## Main definitions

* `Capacity.grown`: The capacity to grow to.
-/

namespace Conduit.Capacity

/-- The smallest capacity that growth chooses. -/
def floor : Nat := 64

/-- From this size on, capacity advances in steps of this size. -/
def threshold : Nat := 4 * 1024 * 1024

/-- Sizes are words of 64 bits. -/
def wordLimit : Nat := UInt64.size

/-- The ceiling of a buffer for which none is given. -/
def defaultMax : Nat := wordLimit / 2 - 1

/-- The first of `start`, `2 * start`, `4 * start`, … that reaches `target`. -/
def doubled (target start : Nat) (h : 0 < start) : Nat :=
  if start < target then doubled target (2 * start) (by omega) else start
termination_by target - start

/-- The least multiple of the threshold that reaches `target`. -/
def stepped (target : Nat) : Nat :=
  (target + threshold - 1) / threshold * threshold

/-- The capacity to grow to so that `target` bytes fit, as far as `max` allows.
    A multiple of the threshold too large for a word gives way to `max`. -/
def grown (target max : Nat) : Nat :=
  if threshold ≤ target then
    if stepped target < wordLimit then min (stepped target) max else max
  else
    min (doubled target floor (by decide)) max

end Conduit.Capacity
