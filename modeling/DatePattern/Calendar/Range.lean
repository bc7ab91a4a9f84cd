import DatePattern.Calendar.Clock

/-! # The range of representable dates

Dates reach 100,000,000 days either side of the epoch, both ends included. -/

namespace DatePattern

/-- Largest distance from the epoch, in milliseconds. -/
def maxMillis : Nat := 8640000000000000

/-- A year further from year 0 holds no representable date. -/
def maxYear : Nat := 300000

/-- The instant so many milliseconds after the epoch lies in the range. -/
def Representable (millis : Int) : Prop := -maxMillis ≤ millis ∧ millis ≤ maxMillis

instance (millis : Int) : Decidable (Representable millis) := by
  unfold Representable; infer_instance

end DatePattern
