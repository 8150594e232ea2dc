/-!
# Moments

The failures of a device need not last. Whatever a device is subject to in the long run, at single
moments something else may be in force in its place. A moment is told by the number of requests that
have been made until then. No two reads and no two writes of a device fall on the same moment, so any of
them may fail whatever becomes of those before and after it.
-/

namespace DemandPaging

/-- What is in force at a moment: what was said for that moment alone, or else what lasts. -/
def inForce {Switches : Type} (lasting : Switches) (lapses : List (Nat × Switches)) (moment : Nat) :
    Switches :=
  (lapses.lookup moment).getD lasting

end DemandPaging
