import Rstun.Base.Select

/-!
# Waiting for a connection to close

`wait_for_connection_close` from `client.rs` races the end of the connection against the tunnel's own
task. It is used at two levels, one inside the other, over the same connection. The connection may
close at any time, also in the middle of a poll, so each poll says whether it has closed by the time
`conn_closed` is polled.
-/

namespace Rstun.Tunnel
open Async

/-- What the tunnel's tasks share, with the connection they run over. -/
structure Conn (σ : Type) where
  closed : Bool
  state : σ

def Conn.close {σ : Type} (c : Conn σ) : Conn σ := { c with closed := true }

/-- What `select!` and the connection do in one poll: which branch is polled first, and whether the
connection closes before `conn_closed` is. -/
structure Race where
  closedFirst : Bool
  closes : Bool
  deriving DecidableEq

variable {σ φ : Type} {I : Conn σ → φ → Prop} {Q : Conn σ → Prop}

def connClosed (race : Race) (c : Conn σ) : Option (Conn σ) :=
  if c.closed || race.closes then some c.close else none

/-- When the task has ended, the connection is closed unless it already is, so that the `conn_closed`
which is awaited next is ready at once. -/
def waitForConnectionClose (race : Race) (task : Poll (Conn σ) φ) : Poll (Conn σ) φ :=
  select race.closedFirst (connClosed race) Conn.close task

/-- The task is polled on the closed connection before the end of the connection is noticed. -/
def Race.Patient (race : Race) (closed : Bool) : Prop :=
  if closed then race.closedFirst = false else race.closes = false

instance (race : Race) (closed : Bool) : Decidable (race.Patient closed) :=
  inferInstanceAs (Decidable (ite _ _ _))

theorem connClosed_eq_some {race : Race} {c d : Conn σ} :
    connClosed race c = some d ↔ (c.closed = true ∨ race.closes = true) ∧ c.close = d := by
  simp [connClosed]

theorem waitForConnectionClose_eq (race : Race) (task : Poll (Conn σ) φ) (c : Conn σ) (f : φ) :
    waitForConnectionClose race task c f =
      if race.closedFirst && (c.closed || race.closes) then (c.close, none)
      else match task c f with
        | (d, none) => (d.close, none)
        | (d, some g) =>
          if !race.closedFirst && (d.closed || race.closes) then (d.close, none) else (d, some g) := by
  unfold waitForConnectionClose select
  cases race.closedFirst <;> rcases task c f with ⟨d, _ | g⟩ <;> simp only [connClosed]
  all_goals split <;> simp_all

/-- The rule for a poll in which the race is patient, or in which it does no harm to drop the task. -/
theorem waitForConnectionClose_leaves {race : Race} {task : Poll (Conn σ) φ} {c : Conn σ} {f : φ}
    {harmless : Prop} (safe : race.Patient c.closed ∨ harmless) (unpolled : harmless → Q c.close)
    (polled : Leaves (fun d g => I d g ∧ (c.closed = true ∨ d.closed = true ∨ harmless → Q d.close))
      (fun d => Q d.close) (task c f)) :
    Leaves I Q (waitForConnectionClose race task c f) := by
  refine select_leaves (fun first d noticed => ?_) fun _ => ?_
  · obtain ⟨seen, rfl⟩ := connClosed_eq_some.mp noticed
    refine unpolled (safe.resolve_left fun patient => ?_)
    cases closed : c.closed <;> simp_all [Race.Patient]
  · refine polled.mono (fun d g ⟨suspended, dropped⟩ => ⟨suspended, fun _ e noticed => ?_⟩) fun _ => id
    obtain ⟨seen, rfl⟩ := connClosed_eq_some.mp noticed
    apply dropped
    rcases safe with patient | harmless
    -- a patient race only notices what had happened before it polled its task
    · cases closed : c.closed with
      | true => exact Or.inl rfl
      | false => exact Or.inr (Or.inl (seen.resolve_right (by simpa [Race.Patient, closed] using patient)))
    · exact Or.inr (Or.inr harmless)

end Rstun.Tunnel
