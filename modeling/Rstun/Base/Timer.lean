import Mathlib.Algebra.Order.Group.Nat
import Mathlib.Order.Lattice

/-!
# Timers

The times of a system of tasks are numbers on one clock. A task that waits for a timer goes on when the
timer is due or at most `lag` later. An interval that skips the ticks it has missed keeps to the multiples
of its period, unless it is only `slack` late.
-/

namespace Timer

variable {slack period deadline now : Nat}

/-- The last moment of a wait that began at `since` for a timer that is due at `deadline`. -/
def latest (lag since deadline : Nat) : Nat := max since deadline + lag

/-- When the tick after the one at `deadline` is due, which is taken at `now`. -/
def skip (slack period deadline now : Nat) : Nat :=
  if deadline + slack < now then now + period - (now - deadline) % period else deadline + period

theorem le_skip (due : deadline ≤ now) : deadline + period ≤ skip slack period deadline now := by
  have past : (now - deadline) % period ≤ now - deadline := Nat.mod_le ..
  unfold skip
  split <;> omega

theorem skip_le (due : deadline ≤ now) : skip slack period deadline now ≤ now + period := by
  unfold skip
  split <;> omega

end Timer
