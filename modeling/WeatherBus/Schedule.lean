/-! # When a device sends on its own

Times and intervals are in milliseconds.

* **`Schedule.nextDue`**, **`Schedule.isDue`** — when the next message of a continuous output is
  due;
* **`Schedule.setMode`** — change the mode; `Schedule.lastSent_setMode` says when this forgets the
  last message, so that the next one is due at once. -/

namespace WeatherBus

/-- When a device sends measurements. -/
inductive OutputMode where
  /-- Not at all, direct replies aside. -/
  | stopped
  /-- Once in every interval. -/
  | continuous
  /-- When it is asked to. -/
  | polled
deriving DecidableEq, Repr

/-- Mode, interval and last transmission of one device. -/
structure Schedule where
  mode : OutputMode := .stopped
  /-- The time between two messages. Without an interval nothing is ever due. -/
  interval : Nat := 1000
  /-- When the last message was sent. -/
  lastSent : Option Nat := none
deriving DecidableEq, Repr

namespace Schedule

/-- Change the mode. Entering the continuous mode forgets the last message. -/
def setMode (mode : OutputMode) (s : Schedule) : Schedule :=
  { s with
    mode
    lastSent := if mode = .continuous ∧ s.mode ≠ .continuous then none else s.lastSent }

/-- Enter the continuous mode. -/
def start (s : Schedule) : Schedule := s.setMode .continuous

/-- Leave the continuous mode. -/
def stop (s : Schedule) : Schedule := s.setMode .stopped

/-- Change the interval. -/
def setInterval (interval : Nat) (s : Schedule) : Schedule := { s with interval }

/-- Record a message sent at a time. -/
def markSent (time : Nat) (s : Schedule) : Schedule := { s with lastSent := some time }

/-- When the next message is due, seen from `now`. -/
def nextDue (now : Nat) (s : Schedule) : Option Nat :=
  if s.mode = .continuous ∧ s.interval ≠ 0 then
    some (match s.lastSent with
      | some last => last + s.interval
      | none => now)
  else none

/-- Whether a message is due at `now`. -/
def isDue (now : Nat) (s : Schedule) : Bool :=
  match s.nextDue now with
  | some due => due ≤ now
  | none => false

/-- The mode is the one that was chosen. -/
@[simp] theorem mode_setMode (mode : OutputMode) (s : Schedule) :
    (s.setMode mode).mode = mode := rfl

/-- A change of the mode leaves the interval alone. -/
@[simp] theorem interval_setMode (mode : OutputMode) (s : Schedule) :
    (s.setMode mode).interval = s.interval := rfl

/-- Only entering the continuous mode forgets the last message. -/
theorem lastSent_setMode (mode : OutputMode) (s : Schedule) :
    (s.setMode mode).lastSent =
      if mode = .continuous ∧ s.mode ≠ .continuous then none else s.lastSent := rfl

/-- When a message is due. -/
theorem isDue_iff {s : Schedule} {now : Nat} : s.isDue now = true ↔ s.mode = .continuous ∧
    s.interval ≠ 0 ∧ ∀ last, s.lastSent = some last → last + s.interval ≤ now := by
  rw [isDue, nextDue]
  by_cases h : s.mode = .continuous ∧ s.interval ≠ 0
  · rw [if_pos h]
    cases hlast : s.lastSent with
    | none => simp [h]
    | some last => simp [h]
  · rw [if_neg h]
    exact ⟨fun hfalse => absurd hfalse (by simp), fun hall => absurd ⟨hall.1, hall.2.1⟩ h⟩

/-- In the continuous mode with an interval, a device that has not sent yet is due at once. -/
theorem isDue_of_lastSent_eq_none {s : Schedule} (hm : s.mode = .continuous) (hi : s.interval ≠ 0)
    (hl : s.lastSent = none) (now : Nat) : s.isDue now = true := by
  simp [isDue, nextDue, hm, hi, hl]

end Schedule

end WeatherBus
