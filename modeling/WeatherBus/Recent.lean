/-! # The newest values of a series

A device keeps a limited number of samples, the newest one first.

* **`Recent.push`** — take in a sample; `Recent.push_take` says that what is kept is the front of
  the whole history. -/

namespace WeatherBus

namespace Recent

/-- Take in a value and drop the oldest one if there are more than `capacity`. -/
def push {α : Type} (capacity : Nat) (x : α) (kept : List α) : List α := (x :: kept).take capacity

/-- If the newest `capacity` values of a history are kept, then so they are after the next value. -/
theorem push_take {α : Type} (capacity : Nat) (x : α) (history : List α) :
    push capacity x (history.take capacity) = (x :: history).take capacity := by
  cases capacity with
  | zero => rfl
  | succ n => simp [push, List.take_take]

end Recent

end WeatherBus
