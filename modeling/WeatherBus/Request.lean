import WeatherBus.Checksum

/-! # Requests and what they lead to

* **`Request`** — a frame that was understood: whom it is for, and a command of type `C`;
* **`Outcome`** — what a device does about a command, its registers aside. -/

namespace WeatherBus

/-- Whom a request is for. -/
inductive Target where
  /-- The device at an address. -/
  | address (a : Nat)
  /-- All devices, in the order of their addresses. -/
  | all
  /-- The device with the smallest address. -/
  | first
deriving DecidableEq, Repr

/-- A frame that was understood. -/
structure Request (C : Type) where
  target : Target
  checksum : ChecksumStatus
  command : C
  /-- The frame as text, without what delimits it. -/
  text : Text
deriving DecidableEq, Repr

/-- What a device answers to a command. -/
inductive Reply where
  /-- Nothing. -/
  | silent
  /-- A text. -/
  | text (body : Text)
  /-- A measurement, after a new sample has been taken. -/
  | measurement
deriving DecidableEq, Repr

/-- What a device does about a command, its registers aside. -/
structure Outcome where
  reply : Reply := .silent
  /-- The address to which the device is to be moved. -/
  moveTo : Option Nat := none
  /-- Whether the schedule may have changed, so that the sender has to look at it again. -/
  wake : Bool := false
deriving DecidableEq, Repr

namespace Outcome

/-- Answer with a text. -/
def say (body : Text) : Outcome := { reply := .text body }

/-- Answer with a text after a change of the schedule. -/
def sayAndWake (body : Text) : Outcome := { reply := .text body, wake := true }

/-- Answer with a text after moving to an address. -/
def sayFrom (address : Nat) (body : Text) : Outcome :=
  { reply := .text body, moveTo := some address }

/-- Answer with a measurement. -/
def measure : Outcome := { reply := .measurement }

/-- Do nothing visible. -/
def silent : Outcome := {}

/-- Change the schedule without an answer. -/
def silentWake : Outcome := { wake := true }

end Outcome

end WeatherBus
