import Motogram.Emergency.Coverage
import Motogram.Messaging.Resend
import Motogram.RateLimits.Alerts
import Motogram.RateLimits.Messages

/-!
# The limits hold

Four functions limit a user with a counter that `INCR` counts and `EXPIRE` gives its window after the first
hit: `incrementActionCount`, `updateLocation`, `createAlert` and `enforceRate`. Any number of their calls,
for any users, may be interleaved, so that others hit the counter before its `EXPIRE`, and any time may pass
between two commands. No lifetime of the counter accepts more calls than the limit, and no interval as long
as the window, wherever it starts, accepts more than twice the limit (`windows_bound`).
-/

set_option autoImplicit false

namespace Motogram.RateLimits

open Foundation

theorem absent_of_live {now : Time} {entry : Option (Expiring Nat)} (gone : Expiring.live now entry = none) :
    Counter.alive now (counterOf entry) = none := by
  rw [alive_counterOf, gone]
  rfl

end Motogram.RateLimits
