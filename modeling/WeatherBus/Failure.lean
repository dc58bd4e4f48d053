import WeatherBus.Fault
import WeatherBus.Files
import WeatherBus.Text.Quoted

/-! # Why an emulator does not start, or stops

* **`Failure`** — the cause, **`Failure.message`** — its wording. -/

namespace WeatherBus

/-- The cause for which an emulator does not start, or stops. -/
inductive Failure where
  /-- The line cannot be used. -/
  | line (reason : String)
  /-- The measurement feed cannot be opened. -/
  | feedUnavailable (path : Text) (problem : FileProblem)
  /-- The configuration contradicts itself. -/
  | invalidConfig (reason : String)
  /-- The devices cannot be put on a bus. -/
  | devices (fault : Fault)
  /-- The other end of the line has gone away. -/
  | closed
  /-- A path of a running emulator has broken off. -/
  | threadPanicked (thread : String)
deriving DecidableEq, Repr

/-- The wording of a failure. -/
def Failure.message : Failure → String
  | .line reason => reason
  | .feedUnavailable path problem =>
    let quoted := String.ofList (Quoted.encode path)
    let reason := problem.message
    s!"Measurement feed {quoted} is not available: {reason}"
  | .invalidConfig reason => s!"Invalid configuration: {reason}"
  | .devices fault => fault.message
  | .closed => "Transport was closed"
  | .threadPanicked thread => s!"Emulator thread '{thread}' panicked"

end WeatherBus
