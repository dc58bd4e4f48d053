import WeatherBus.Proofs.Bus.Address
import WeatherBus.Proofs.Bus.Visit
import WeatherBus.Proofs.BusBarometer.Effect
import WeatherBus.Proofs.BusBarometer.Language

/-! # A line for all barometers and lines for each of them

A line without an address is for all barometers. It does what the same line does that is sent with
the address of each barometer in front, one after the other, even if barometers are moved by it.

* **`Bus.dispatchEach`** — frames that are sent one after the other;
* **`Bus.AsksOne`** — a frame that asks one device for what a request asks several devices for;
  `Bus.dispatchAll_eq_dispatchEach` says that the request does what such frames do;
* **`BusBarometer.addressed`** — a line with an address in front of it, and how it is read
  (`BusBarometer.Command.read_addressed`);
* **`BusBarometer.broadcast_eq_addressed`** — a line for all barometers does what the lines for each
  of them do. -/

namespace WeatherBus

namespace Bus

variable {R C : Type} [Instrument R C] {request : Request C} {bus : Bus R} {a : Nat}
  {frame : Bytes}

/-! ## Frames that are sent one after the other -/

/-- Carry out some frames, one after the other, and collect the answers. -/
def dispatchEach : List Bytes → Bus R → Bus R × Answer
  | [], bus => (bus, .none)
  | frame :: rest, bus =>
    let (bus, first) := bus.dispatch frame
    let (bus, others) := dispatchEach rest bus
    (bus, first ++ others)

/-- A frame that asks the device at an address for what a request asks it for. -/
def AsksOne (R : Type) {C : Type} [Instrument R C] (request : Request C) (a : Nat)
    (frame : Bytes) : Prop :=
  ∃ single : Request C, Instrument.read R frame = .ok single ∧ single.target = .address a ∧
    ∀ bus : Bus R, bus.dispatchTo single a = bus.dispatchTo request a

/-- Such a frame does what the turn of the device does. -/
theorem AsksOne.dispatch_eq (h : AsksOne R request a frame) (ha : bus.contains a = true) :
    bus.dispatch frame = bus.dispatchTo request a := by
  obtain ⟨single, hread, htarget, hsame⟩ := h
  rw [dispatch_of_address hread htarget ha, hsame]

/-- A request for some devices does what frames for each of them do, one after the other. -/
theorem dispatchAll_eq_dispatchEach
    (haddress : ∀ (request : Request C) (d : Device R),
      (Instrument.apply request d).1.address = d.address)
    {frameFor : Nat → Bytes} {addresses : List Nat}
    (hasks : ∀ a ∈ addresses, AsksOne R request a (frameFor a)) (hk : bus.Keyed)
    (hn : addresses.Nodup) (hthere : ∀ a ∈ addresses, bus.contains a = true) :
    bus.dispatchAll request addresses = bus.dispatchEach (addresses.map frameFor) := by
  induction addresses generalizing bus with
  | nil => rfl
  | cons a rest ih =>
    rw [List.nodup_cons] at hn
    rw [List.forall_mem_cons] at hasks hthere
    -- The devices behind are still at their addresses when this one has had its turn.
    have hstill : ∀ b ∈ rest, (bus.dispatchTo request a).1.contains b = true := by
      intro b hb
      obtain ⟨d, hd⟩ := contains_iff.1 (hthere.2 b hb)
      have hne : b ≠ a := fun heq => hn.1 (heq ▸ hb)
      exact contains_iff.2 ⟨d, get?_dispatchTo_of_keyed haddress hk hne hd⟩
    have hrest := ih hasks.2 (hk.dispatchTo haddress request a) hn.2 hstill
    simp only [List.map_cons, dispatchAll, dispatchEach, hasks.1.dispatch_eq hthere.1, hrest]

end Bus

namespace BusBarometer

variable {line : Text} {a : Nat} {request : Request Command}

/-! ## Lines with an address -/

/-- A line with an address in front of it, in at least as many digits as `width`. -/
def addressed (width a : Nat) (line : Text) : Text := Numeral.zeroPadded width a ++ ':' :: line

namespace Command

/-- A line for all barometers has no address, and without `*` it has no checksum either. -/
theorem eq_of_read (hstar : '*' ∉ line) (hread : read (Utf8.encode line) = .ok request)
    (hall : request.target = .all) :
    request = ⟨.all, .absent, ofText (Text.trimEnd line), Text.trim line⟩ := by
  have hsplit : Line.splitChecksum '*' (Text.trim line) = (Text.trim line, none) :=
    Line.splitChecksum_of_notMem fun hmem => hstar (Text.trim_subset line hmem)
  have hcommand : ofText (Text.trim line) = ofText (Text.trimEnd line) := by
    refine ofText_of_trimStart_eq ?_
    rw [Text.trimStart_trim, Text.trimStart_trimEnd]
  rw [read, Utf8.decode?_encode] at hread
  simp only [hsplit, status, bind, Except.bind] at hread
  have haddress := Line.addressSplit (Text.trim line)
  generalize Text.trim line = text at haddress hread hcommand ⊢
  generalize Line.splitAddress text = result at haddress hread
  cases haddress with
  | absent =>
    rw [← Except.ok.inj hread, hcommand]
  | @found digits address =>
    -- A line with an address is not for all.
    simp only [targetOf] at hread
    by_cases hle : address ≤ maxAddress
    · rw [if_pos hle] at hread
      obtain rfl := Except.ok.inj hread
      cases hall
    · rw [if_neg hle] at hread
      cases hread
  | tooLong => cases hread

/-- The same line with an address is for the barometer there. -/
theorem read_addressed (hstar : '*' ∉ line) (ha : a ≤ maxAddress) (width : Nat) :
    read (Utf8.encode (addressed width a line)) =
      .ok ⟨.address a, .absent, ofText (Text.trimEnd line),
        addressed width a (Text.trimEnd line)⟩ :=
  read_plain (writesAddress_zeroPadded width ha) ha hstar

end Command

/-! ## Broadcasts -/

/-- A line with the address of a barometer asks it for what the line asks all of them for. -/
theorem asksOne_addressed (hstar : '*' ∉ line)
    (hread : Command.read (Utf8.encode line) = .ok request) (hall : request.target = .all)
    (ha : a ≤ maxAddress) (width : Nat) :
    Bus.AsksOne BusBarometer request a (Utf8.encode (addressed width a line)) := by
  refine ⟨_, Command.read_addressed hstar ha width, rfl, fun bus => ?_⟩
  -- The requests have command and checksum in common, and a turn looks at nothing else.
  rw [Command.eq_of_read hstar hread hall]
  rfl

/-- In every run, a line for all barometers does what the lines with the address of each of them do
that are sent one after the other: the same devices are at the same addresses in the same state, and
reply, measurements, faults and wake of the answers are the same. -/
theorem broadcast_eq_addressed {count : Nat} {start : Bus BusBarometer}
    (hbus : BusBarometer.bus count = .ok start) (operations : List Bus.Operation)
    (hstar : '*' ∉ line) (hread : Command.read (Utf8.encode line) = .ok request)
    (hall : request.target = .all) (width : Nat) :
    (start.run operations).dispatch (Utf8.encode line) =
      (start.run operations).dispatchEach
        ((start.run operations).addresses.map fun a => Utf8.encode (addressed width a line)) := by
  obtain ⟨hplaced, hmax, -⟩ := inRange_run hbus operations
  generalize start.run operations = bus at hplaced hmax ⊢
  have hasks : ∀ a ∈ bus.addresses,
      Bus.AsksOne BusBarometer request a (Utf8.encode (addressed width a line)) := by
    intro a ha
    obtain ⟨d, hd⟩ := Bus.mem_addresses_iff.1 ha
    exact asksOne_addressed hstar hread hall (hmax ▸ hplaced.le_maxAddress hd) width
  have hresolve : bus.resolve request.target = .ok bus.addresses := by
    rw [hall]
    rfl
  rw [Bus.dispatch_of_read hread hresolve]
  exact Bus.dispatchAll_eq_dispatchEach
    (fun request d => (Conducted.conduct request d).retains.address) hasks hplaced.keyed
    bus.nodup_addresses fun a ha => Bus.contains_iff.2 (Bus.mem_addresses_iff.1 ha)

/-- Three barometers are told to take an address behind the last one. The first is moved there, the
second asks for a checksum, and the third finds the address taken. -/
theorem broadcast_eq_addressed_moved :
    ∃ start : Bus BusBarometer, BusBarometer.bus 3 = .ok start ∧
      let bus := start.run [.dispatch (Utf8.encode "02:C,1".toList)]
      bus.dispatch (Utf8.encode " n , 4 ".toList) = bus.dispatchEach
        [Utf8.encode "1: n , 4 ".toList, Utf8.encode "2: n , 4 ".toList,
          Utf8.encode "3: n , 4 ".toList] ∧
      (bus.dispatch (Utf8.encode " n , 4 ".toList)).1.addresses = [2, 3, 4] ∧
      (bus.dispatch (Utf8.encode " n , 4 ".toList)).2.faults =
        [.checksumMismatch none none, .addressInUse 4] := by
  have hbus : BusBarometer.bus 3 = .ok _ := rfl
  have hread : Command.read (Utf8.encode " n , 4 ".toList) =
      .ok ⟨.all, .absent, .setAddress 4, "n , 4".toList⟩ := by decide +kernel
  have hsame := broadcast_eq_addressed hbus [.dispatch (Utf8.encode "02:C,1".toList)]
    (by decide) hread rfl 1
  exact ⟨_, hbus, hsame, by decide, by decide⟩

end BusBarometer

end WeatherBus
