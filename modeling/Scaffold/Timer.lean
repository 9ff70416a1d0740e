/-!
# Timers

A timer has a label and shows the seconds that it measured with four places.  Measuring itself is
no part of this library: every measured time is zero here.
-/

namespace Scaffold

structure Timer where
  label : String := "operation"
  deriving DecidableEq, Repr

namespace Timer

/-- Seconds with four places. -/
def seconds : String := "0.0000"

def describe (t : Timer) : String := s!"<Timer {t.label}: {seconds}s>"

/-- What the log says when the timer stops. -/
def message (t : Timer) : String := s!"Timer [{t.label}]: {seconds} seconds"

end Timer

end Scaffold
