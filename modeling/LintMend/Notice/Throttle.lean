/-! # Throttling

At most one notification in a while (§3.8). Times may be of any type with a difference and an order.
* `Throttle.attempt`: whether a notification may be shown now, and the throttle afterwards.
* `Throttle.reset`: the throttle that has forgotten the last notification. -/

namespace LintMend

/-- What keeps notifications apart (`NotificationThrottle`). -/
structure Throttle (Time : Type) where
  /-- How far they are to be apart. -/
  window : Time
  /-- When the last one was shown. -/
  last : Option Time
  deriving Repr

namespace Throttle

variable {Time : Type} [Sub Time] [LT Time] [DecidableLT Time]

/-- The throttle before any notification. -/
def new (window : Time) : Throttle Time := ⟨window, none⟩

/-- Whether a notification may be shown now: the first one always, any other if the last one is at
least a window ago. -/
def permits (throttle : Throttle Time) (now : Time) : Bool :=
  match throttle.last with
  | none => true
  | some last => !decide (now - last < throttle.window)

@[simp] theorem permits_new (window now : Time) : (new window).permits now = true := rfl

/-- Whether a notification is shown now, and the throttle afterwards (`should_notify`). -/
def attempt (throttle : Throttle Time) (now : Time) : Bool × Throttle Time :=
  if throttle.permits now then (true, { throttle with last := some now }) else (false, throttle)

/-- The throttle that has forgotten the last notification (`NotificationThrottle.reset`). -/
def reset (throttle : Throttle Time) : Throttle Time := { throttle with last := none }

@[simp] theorem permits_reset (throttle : Throttle Time) (now : Time) :
    throttle.reset.permits now = true := rfl

/-- A notification that is not shown leaves no trace. -/
theorem attempt_of_not_permits {throttle : Throttle Time} {now : Time}
    (h : throttle.permits now = false) : throttle.attempt now = (false, throttle) := by
  simp [attempt, h]

/-- A notification that is shown is remembered. -/
theorem attempt_of_permits {throttle : Throttle Time} {now : Time}
    (h : throttle.permits now = true) :
    throttle.attempt now = (true, { throttle with last := some now }) := by
  simp [attempt, h]

end Throttle

end LintMend
