import Std.Async.DNS
import Std.Async.TCP
import Std.Async.Timer
import Std.Sync.Channel
import WeatherBus.Cli.Help
import WeatherBus.Cli.Launch

/-! # The program

It opens the feed and the line, and drives an emulator by what the line and the clock bring. All
that it decides is decided by the definitions that it calls; here is only what touches the outside
world.

* **`Program.drive`** — run an emulator on an open line;
* **`Program.call`** — carry out a call. -/

namespace WeatherBus

namespace Program

open Std.Async

/-! ## Clock -/

/-- A date and a time of day. -/
def ofClock (t : Std.Time.PlainDateTime) : Timestamp where
  year := t.date.year.toInt
  month := t.date.month.toNat
  day := t.date.day.toNat
  hour := t.time.hour.toNat
  minute := t.time.minute.toNat
  second := t.time.second.toNat

/-- The time at the zero meridian. -/
def universalTime : IO Timestamp := do
  let now ← Std.Time.Timestamp.now
  return ofClock (.ofWallTime (now.toWallTime .zero))

/-- The time in the local time zone. -/
def localTime : IO Timestamp := do
  try return ofClock (← Std.Time.PlainDateTime.now)
  catch _ => universalTime

/-! ## Line -/

/-- What has come in, `none` at the end of the stream. -/
abbrev Arrivals := List (Option Link.Event)

/-- An open line to the host. -/
structure Line where
  /-- Wait for what comes in, at most for some milliseconds. -/
  receive : Option Nat → Async Arrivals
  /-- Send bytes. -/
  send : ByteArray → Async Unit

/-- The bytes that have come in, or the end of the stream. -/
def arrivalsOf : Option ByteArray → Arrivals
  | some data => data.toList.map fun b => some (.byte b)
  | none => [none]

/-- Wait for bytes, at most for some milliseconds. -/
def receiveFrom (source : Selector (Option ByteArray)) (limit : Option Nat) : Async Arrivals := do
  let arrival := Selectable.case source fun data => return arrivalsOf data
  match limit with
  | none => Selectable.one #[arrival]
  | some limit =>
    let alarm ← Selector.sleep (.ofNat limit)
    Selectable.one #[arrival, .case alarm fun _ => return [some .timedOut]]

/-- The line to a host that has connected itself. -/
def Line.ofClient (client : TCP.Socket.Client) : Line where
  receive := receiveFrom (client.recvSelector 512)
  send := client.send

/-- Hand on what comes in at a device, byte by byte, up to its end. -/
partial def pump (device : IO.FS.Handle) (arrivals : Std.CloseableChannel ByteArray) : IO Unit := do
  let data ← device.read 1
  if data.isEmpty then EIO.toIO (fun _ => "channel closed") arrivals.close
  else
    discard <| arrivals.send data
    pump device arrivals

/-- The line at a serial port. The settings of the port are left as they are. -/
def Line.ofPort (name : String) : IO Line := do
  let input ← IO.FS.Handle.mk name .read
  let output ← IO.FS.Handle.mk name .append
  let arrivals ← Std.CloseableChannel.new
  discard <| IO.asTask (pump input arrivals) .dedicated
  return {
    receive := receiveFrom arrivals.recvSelector
    send := fun data => do
      output.write data
      output.flush }

/-- The address of a socket. -/
def socketAddress (port : UInt16) : Std.Net.IPAddr → Std.Net.SocketAddress
  | .v4 addr => .v4 ⟨addr, port⟩
  | .v6 addr => .v6 ⟨addr, port⟩

/-- Wait for one host at one of some addresses, the first that can be used. -/
def accept (port : UInt16) : List Std.Net.IPAddr → Async TCP.Socket.Client
  | [] => throw (.userError "could not resolve to any addresses")
  | address :: rest => do
    let server ← TCP.Socket.Server.mk
    let isBound ←
      try
        server.bind (socketAddress port address)
        server.listen 128
        pure true
      catch e => if rest.isEmpty then throw e else pure false
    if isBound then server.accept else accept port rest

/-- The name of a host without the brackets around an address of many digits. -/
def bareHost (host : Text) : String :=
  String.ofList (host.filter fun c => c ≠ '[' && c ≠ ']')

/-! ## Surroundings -/

/-- The problem with a path that an error of the operating system tells. -/
def problemOf (path : Text) : IO.Error → FileProblem
  | .noFileOrDirectory _ _ _ => .missing
  | .inappropriateType (some _) _ _ => .notDirectory
  | .invalidArgument (some _) _ _ =>
    if path.contains '\x00' then .nullCharacter else .nameTooLong
  | e => .other (toString e)

/-- The wording of an error of the operating system. -/
def wording (e : IO.Error) : String := (problemOf [] e).reason

/-- Open the feed of a file. A directory can be opened, but nothing can be read from it. -/
def openFeed (path : Text) : Async (Except Failure Feed) := do
  try
    let content ← IO.FS.readBinFile (String.ofList path)
    return .ok (.ofFile content.toList)
  catch
    | .inappropriateType none _ _ => return .ok (.ofFile [])
    | e => return .error (.feedUnavailable path (problemOf path e))

/-- Open a line. -/
def openLine (endpoint : Cli.Endpoint) : Async (Except Failure Line) := do
  try match endpoint with
    | .serialPort name => return .ok (← Line.ofPort (String.ofList name))
    | .network host port =>
      let addresses ← DNS.getAddrInfo (bareHost host) (toString port)
      return .ok (.ofClient (← accept port.toUInt16 addresses.toList))
  catch e => return .error (.line (wording e))

/-- The surroundings of the program. -/
def surroundings : Cli.Surroundings Async Line := { openFeed, openLine }

/-! ## Run -/

/-- Run an emulator that was started at `since` up to its end. -/
partial def drive {R C : Type} [Instrument R C] (line : Line) (stopAt : Option Nat) (since : Nat)
    (e : Emulator R) : Async (Option Failure) := do
  let now := (← IO.monoMsNow) - since
  match e.elapse (← localTime) stopAt now with
  | .error path => return some (.threadPanicked path.thread)
  | .ok elapsed =>
    let (data, e) := elapsed.takeWritten
    let arrivals : Arrivals ←
      try
        unless data.isEmpty do line.send ⟨data.toArray⟩
        if e.hasEnded then pure [] else line.receive (e.quiet? stopAt now)
      catch problem => pure [some (.failed (wording problem))]
    let timestamp ← localTime
    match arrivals.foldlM (fun e event => e.hear timestamp event) e with
    | .error path => return some (.threadPanicked path.thread)
    | .ok e =>
      if e.hasEnded && e.written.isEmpty then return e.failure?
      drive line stopAt since e

/-- Prepare and run what is asked for. -/
def launch (options : Cli.Options) : Async (Option Failure) := do
  match ← options.prepare surroundings with
  | .error failure => return some failure
  | .ok (feed, line) =>
    let since ← IO.monoMsNow
    let stopAt := options.runFor.map (· * 1000)
    match options.start feed fun e => drive line stopAt since e with
    | .ok run => run
    | .error failure => return some failure

/-- The environment variables that matter. -/
def environment : IO Cli.Environment := do
  let value (name : String) : IO (Option Text) := return (← IO.getEnv name).map String.toList
  return {
    port := ← value "WXEMU_PORT"
    feed := ← value "WXEMU_FEED"
    logFilter := ← value "RUST_LOG" }

/-- Carry out a call that was understood. -/
def carryOut (environment : Cli.Environment) (options : Cli.Options) : IO Cli.Exit := do
  match options.logFilter? environment with
  | none => return .breakdown
  | some filter =>
    let exit := Cli.Exit.ofFailure? filter (← (launch options).block)
    if let some failure := exit.failure then
      IO.println (Cli.Exit.logLine (← universalTime) failure)
    return exit

/-- Carry out the call of some words. The result is the exit code. -/
def call (words : List Text) : IO UInt32 := do
  let environment ← environment
  let exit : Cli.Exit ←
    match Cli.Call.read environment words with
    | .ok .help => do
      IO.print Cli.help
      pure .success
    | .ok .version => do
      IO.println Cli.versionLine
      pure .success
    | .ok (.run options) => carryOut environment options
    | .error error => do
      let reason := error.message
      IO.eprintln s!"error: {reason}\n\nFor more information, try '--help'."
      pure .usage
  return exit.code.toUInt32

end Program

end WeatherBus

/-- The entry of the program. -/
def main (args : List String) : IO UInt32 := WeatherBus.Program.call (args.map String.toList)
