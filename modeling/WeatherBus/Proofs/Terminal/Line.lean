import WeatherBus.Proofs.Bus.Broadcast
import WeatherBus.Proofs.Terminal.Conduct
import WeatherBus.Proofs.Text.Field

/-! # Instruments on a shared line

Every line of an operator goes to all instruments on it, and each of them decides on its own whether
to answer. That no two answer at once rests on the line being open to one of them at most.

* **`Terminal.Operated`** — an instrument that is operated by a terminal, whatever its kind;
* **`Terminal.Command.callee?`** — the instrument that a command calls by its address;
* **`Terminal.IsClosed`** — an instrument that keeps silent up to its address is called;
  `apply_of_closed` says that it does;
* **`Terminal.staysPut_of_read`** — all commands but those for the address leave every instrument
  where it is;
* **`Terminal.OneOpen`** — the line is open to at most one instrument; `oneOpen_dispatch` and
  `oneOpen_run` say that it stays so. -/

namespace WeatherBus

namespace Terminal

/-- The instrument that a command calls by its address. -/
def Command.callee? {X : Type} : Command X → Option Int
  | .send callee => callee
  | .openLine callee => some callee
  | _ => none

/-- Whether a command may move an instrument to another address. Of the common ones only that for
the address does. -/
def Command.mayMove {X : Type} : Command X → Bool
  | .address _ => true
  | .own _ => true
  | _ => false

/-- A command after which the instrument stays at its address. -/
inductive Stays : Except Fault Outcome → Prop where
  | ok {outcome : Outcome} (h : outcome.moveTo = none) : Stays (.ok outcome)
  | error {fault : Fault} : Stays (.error fault)

/-- An instrument that is operated by a terminal. The commands of its own leave the settings of the
terminal alone. -/
class Operated (V R : Type) {X : outParam Type} [Instrument (Terminal V R) (Command X)] where
  /-- What its measurements show. -/
  S : Type
  kind : Kind V S R X
  read_eq : Instrument.read (Terminal V R) = kind.read
  needsChecksum_eq : ∀ d : Device (Terminal V R), Instrument.needsChecksum d = false
  requestedAddress_eq : ∀ (request : Request (Command X)) (d : Device (Terminal V R)),
    Instrument.requestedAddress request d = none
  apply_eq : ∀ (request : Request (Command X)) (d : Device (Terminal V R)),
    Instrument.apply request d = kind.apply request d
  observe_eq : ∀ (sample : Sample) (t : Terminal V R),
    Instrument.observe sample t = mapOwn (kind.observe sample) t
  encodeReply_eq : ∀ (request : Request (Command X)) (d : Device (Terminal V R)) (body : Text),
    Instrument.encodeReply request d body = kind.encodeReply request d body
  encodeFault_eq : ∀ (request : Request (Command X)) (d : Device (Terminal V R)) (fault : Fault),
    Instrument.encodeFault request d fault = kind.encodeFault request d fault
  own_eq : ∀ (command : X) (d : Device (Terminal V R)),
    ∃ f, (kind.applyOwn command d).1 = changeOwn f d
  isToken_keyword : ∀ entry ∈ kind.keywords, entry.1.IsToken
  /-- There are words for a parameter that cannot be understood. -/
  isSome_refusal : ∀ parameter, (kind.refusal? (.invalidParameter parameter)).isSome = true

/-- The address of an opening without one. -/
def Operated.missing (V R : Type) {X : Type} [Instrument (Terminal V R) (Command X)]
    [Operated V R] : Int := (Operated.kind (V := V) (R := R)).addressRule.missing

/-! ## One instrument -/

section Kind

variable {V S R X : Type} {kind : Kind V S R X} {request : Request (Command X)}
  {d : Device (Terminal V R)}

/-- What is known of a frame that was read. -/
theorem exists_line_of_read {frame : Bytes} (h : kind.read frame = .ok request) :
    ∃ line, Utf8.decode? frame = some line ∧ Text.trim line ≠ [] ∧ request = {
      target := .all
      checksum := .absent
      command := kind.commandOf (Text.trim line)
      text := Text.trim line } := by
  cases hline : Utf8.decode? frame with
  | none =>
    simp only [Kind.read, hline] at h
    exact absurd h (by simp)
  | some line =>
    simp only [Kind.read, hline] at h
    split at h
    · exact absurd h (by simp)
    · rename_i hempty
      exact ⟨line, rfl, mt List.isEmpty_iff.2 hempty, (Except.ok.inj h).symm⟩

/-- An instrument that keeps silent up to its address is called. -/
structure IsClosed (d : Device (Terminal V R)) : Prop where
  mode_eq : d.registers.mode = .poll
  isOpen_eq : d.registers.isOpen = false

/-- A closed device does not listen. -/
theorem IsClosed.isListening_eq (h : IsClosed d) : d.registers.isListening = false := by
  simp [isListening, h.mode_eq, h.isOpen_eq]

/-- A line that is set to what it is stays. -/
theorem setOpen_self (d : Device (Terminal V R)) : setOpen d.registers.isOpen d = d := rfl

/-- An instrument that is not the one that a command calls is silent. -/
theorem apply_of_other {address : Int} (h : request.command.callee? = some address)
    (hother : address ≠ d.address) : (kind.apply request d).2 = .ok .silent := by
  obtain ⟨target, checksum, command, text⟩ := request
  cases command with
  | send called =>
    obtain rfl : called = some address := h
    simp only [Kind.apply, if_neg hother]
  | openLine called =>
    obtain rfl : called = address := Option.some.inj h
    simp only [Kind.apply, Kind.openLine, if_neg hother]
  | _ => exact absurd h (by simp [Command.callee?])

/-- An instrument to which the line is closed does nothing unless its address is called. -/
theorem apply_of_closed (hclosed : IsClosed d)
    (hother : request.command.callee? ≠ some (d.address : Int)) :
    kind.apply request d = (d, .ok .silent) := by
  have hlistening := hclosed.isListening_eq
  obtain ⟨target, checksum, command, text⟩ := request
  cases command with
  | send called =>
    cases called with
    | none => simp only [Kind.apply, hlistening, Bool.false_eq_true, if_false]
    | some address =>
      have hne : address ≠ (d.address : Int) := fun heq => hother (congrArg some heq)
      simp only [Kind.apply, if_neg hne]
  | openLine address =>
    have hne : address ≠ (d.address : Int) := fun heq => hother (congrArg some heq)
    -- The line is closed to it once more.
    have hsame : setOpen false d = d := by
      rw [← hclosed.isOpen_eq, setOpen_self]
    simp only [Kind.apply, Kind.openLine, if_neg hne, hsame]
  | _ => simp only [Kind.apply, hlistening, Bool.false_eq_true, if_false]

/-- A measurement that an instrument is called for changes nothing. -/
theorem apply_of_send (h : request.command = .send (some (d.address : Int))) :
    kind.apply request d = (d, .ok .measure) := by
  obtain ⟨target, checksum, command, text⟩ := request
  obtain rfl : command = .send (some (d.address : Int)) := h
  simp only [Kind.apply, if_true]

/-- Only an opening opens the line. -/
theorem isOpen_obey (hown : ∀ (command : X) (d : Device (Terminal V R)),
      ∃ f, (kind.applyOwn command d).1 = changeOwn f d) {command : Command X}
    (h : ∀ address, command ≠ .openLine address)
    (hafter : (kind.obey command d).1.registers.isOpen = true) : d.registers.isOpen = true := by
  cases command with
  | mode setting =>
    cases setting with
    | query => exact hafter
    | set mode => exact absurd hafter (by simp [Kind.obey, enter])
    | invalid text => exact hafter
  | interval setting =>
    cases setting with
    | query => exact hafter
    | set interval =>
      obtain ⟨value, unit⟩ := interval
      simp only [Kind.obey, Kind.chooseInterval] at hafter
      split at hafter
      · exact hafter
      · exact hafter
    | invalid text => exact hafter
  | format setting =>
    cases setting with
    | query => exact hafter
    | set source =>
      simp only [Kind.obey, Kind.chooseFormat] at hafter
      split at hafter
      · exact hafter
      · exact hafter
    | invalid text => exact hafter
  | address setting => cases setting <;> exact hafter
  | openLine address => exact absurd rfl (h address)
  | closeLine => exact absurd hafter (by simp [Kind.obey, setOpen, Device.mapRegisters])
  | restart => exact absurd hafter (by simp [Kind.obey, enter])
  | own command =>
    obtain ⟨f, hf⟩ := hown command d
    simp only [Kind.obey, hf] at hafter
    exact hafter
  | run => exact hafter
  | stop => exact hafter
  | send address => exact hafter
  | resetFormat => exact hafter
  | serialNumber => exact hafter
  | version => exact hafter
  | info => exact hafter
  | unknown word => exact hafter

/-- No command but the opening opens the line to a device. -/
theorem isOpen_apply (hown : ∀ (command : X) (d : Device (Terminal V R)),
      ∃ f, (kind.applyOwn command d).1 = changeOwn f d)
    (h : ∀ address, request.command ≠ .openLine address)
    (hafter : (kind.apply request d).1.registers.isOpen = true) : d.registers.isOpen = true := by
  rw [Kind.apply] at hafter
  split at hafter
  · exact hafter
  · rename_i address hcommand
    exact absurd hcommand (h address)
  · split at hafter
    · exact isOpen_obey hown h hafter
    · exact hafter

/-- An opening opens the line to the instrument that it calls, and closes it to all others. -/
theorem isOpen_openLine (address : Int) (d : Device (Terminal V R)) :
    (kind.openLine address d).1.registers.isOpen = true ↔ address = d.address := by
  rw [Kind.openLine]
  split
  · rename_i hself
    simp [setOpen, Device.mapRegisters, hself]
  · rename_i hother
    simp [setOpen, Device.mapRegisters, hother]

/-- The opening of the line does not move the device. -/
theorem stays_openLine (address : Int) : Stays (kind.openLine address d).2 := by
  rw [Kind.openLine]
  split
  · exact .ok rfl
  · exact .ok rfl

/-- A command that has nothing to do with the address moves no instrument. -/
theorem stays_obey {command : Command X} (h : command.mayMove = false) :
    Stays (kind.obey command d).2 := by
  cases command with
  | mode setting =>
    cases setting with
    | query => exact .ok rfl
    | set mode => exact .ok rfl
    | invalid text => exact .error
  | interval setting =>
    cases setting with
    | query => exact .ok rfl
    | set interval =>
      rw [Kind.obey, Kind.chooseInterval]
      split
      · exact .ok rfl
      · exact .error
    | invalid text => exact .error
  | format setting =>
    cases setting with
    | query => exact .ok rfl
    | set source =>
      rw [Kind.obey, Kind.chooseFormat]
      split
      · exact .ok rfl
      · exact .error
    | invalid text => exact .error
  | address setting => exact absurd h (by simp [Command.mayMove])
  | own command => exact absurd h (by simp [Command.mayMove])
  | openLine address => exact stays_openLine address
  | unknown word => exact .error
  | run => exact .ok rfl
  | stop => exact .ok rfl
  | send address => exact .ok rfl
  | resetFormat => exact .ok rfl
  | closeLine => exact .ok rfl
  | serialNumber => exact .ok rfl
  | version => exact .ok rfl
  | info => exact .ok rfl
  | restart => exact .ok rfl

/-- Neither does any command that may not move it. -/
theorem stays_apply (h : request.command.mayMove = false) :
    Stays (kind.apply request d).2 := by
  rw [Kind.apply]
  split
  · split
    · exact .ok rfl
    · exact .ok rfl
  · exact stays_openLine _
  · split
    · exact stays_obey h
    · exact .ok rfl

end Kind

/-! ## All instruments on a line -/

/-- An answer that the host notices: bytes, or a measurement to come. -/
def Speaks (ans : Answer) : Prop := ans.reply ≠ [] ∨ ans.measurements ≠ []

/-- No answer is no text. -/
theorem not_speaks_none : ¬ Speaks .none := by
  rintro (h | h)
  · exact h rfl
  · exact h rfl

section Operated

variable {V R X : Type} [Instrument (Terminal V R) (Command X)] [Operated V R]
  {request : Request (Command X)} {frame : Bytes} {bus : Bus (Terminal V R)} {a b : Nat}
  {d : Device (Terminal V R)} {ans : Answer}

/-- A line is for all instruments. -/
theorem resolve_of_read (h : Instrument.read (Terminal V R) frame = .ok request)
    (bus : Bus (Terminal V R)) : bus.resolve request.target = .ok bus.addresses := by
  rw [Operated.read_eq] at h
  obtain ⟨line, -, -, rfl⟩ := exists_line_of_read h
  rfl

/-- There is no checksum to look at, and no address to be checked. -/
theorem permit_of_read (h : Instrument.read (Terminal V R) frame = .ok request)
    (bus : Bus (Terminal V R)) (d : Device (Terminal V R)) : bus.permit request d = .ok () := by
  have habsent : request.checksum = .absent := by
    rw [Operated.read_eq] at h
    obtain ⟨line, -, -, rfl⟩ := exists_line_of_read h
    rfl
  simp only [Bus.permit, habsent, Operated.needsChecksum_eq, Operated.requestedAddress_eq]
  rfl

/-- Every instrument has its turn, and is as before when it comes. -/
theorem mem_contributions_iff (hread : Instrument.read (Terminal V R) frame = .ok request) :
    (a, ans) ∈ bus.contributions frame ↔ a ∈ bus.addresses ∧
      ans = ((bus.ahead request a bus.addresses).dispatchTo request a).2 := by
  rw [Bus.contributions_of_read hread (resolve_of_read hread bus),
    Bus.mem_turns_iff bus.nodup_addresses]

/-- A command that has nothing to do with the address leaves every instrument where it is. -/
theorem staysPut_of_read (hread : Instrument.read (Terminal V R) frame = .ok request)
    (h : request.command.mayMove = false) : Bus.StaysPut (R := Terminal V R) request where
  permit_eq := permit_of_read hread
  moveTo_eq {d changed outcome} happly := by
    have hstays : Stays (Operated.kind.apply request d).2 := stays_apply h
    rw [← Operated.apply_eq, happly] at hstays
    cases hstays with
    | ok hnone => exact hnone

/-- The turn of an instrument that leaves itself as it is. -/
theorem dispatchTo_of_unchanged (hread : Instrument.read (Terminal V R) frame = .ok request)
    {outcome : Outcome} (hd : bus.get? a = some d)
    (happly : Operated.kind.apply request d = (d, .ok outcome)) (hm : outcome.moveTo = none) :
    bus.dispatchTo request a = (bus, Bus.answer request d outcome) := by
  rw [← Operated.apply_eq] at happly
  simp only [Bus.dispatchTo, hd, permit_of_read hread, happly, Bus.settle, hm, Bus.replace_self hd]

/-- An instrument that is not the one that is called does not speak. -/
theorem not_speaks_dispatchTo (hread : Instrument.read (Terminal V R) frame = .ok request)
    (hp : bus.WellPlaced) {callee : Int} (hcallee : request.command.callee? = some callee)
    (hother : callee ≠ a) : ¬ Speaks (bus.dispatchTo request a).2 := by
  cases hd : bus.get? a with
  | none =>
    simp only [Bus.dispatchTo, hd]
    exact not_speaks_none
  | some d =>
    have hsilent : (Operated.kind.apply request d).2 = .ok .silent :=
      apply_of_other hcallee (by rwa [hp.address_eq hd])
    rw [← Operated.apply_eq] at hsilent
    simp only [Bus.dispatchTo, hd, permit_of_read hread]
    cases happly : Instrument.apply request d with
    | mk changed result =>
      rw [happly] at hsilent
      obtain rfl : result = .ok .silent := hsilent
      exact not_speaks_none

variable [Conducted (Terminal V R)]

/-- An instrument that leaves itself as it is in its turn is found as before after the frame. -/
theorem get?_dispatch_of_unchanged (hp : bus.WellPlaced)
    (hread : Instrument.read (Terminal V R) frame = .ok request) (hd : bus.get? a = some d)
    {outcome : Outcome} (happly : Operated.kind.apply request d = (d, .ok outcome))
    (hm : outcome.moveTo = none) : (bus.dispatch frame).1.get? a = some d := by
  have hnow : (bus.ahead request a bus.addresses).get? a = some d := Bus.get?_ahead hp hd
  rw [Bus.dispatch_of_read hread (resolve_of_read hread bus)]
  refine Bus.get?_dispatchAll_of_mem hp bus.nodup_addresses (Bus.mem_addresses_iff.2 ⟨d, hd⟩)
    (fun hb => Bus.contains_iff.2 (Bus.mem_addresses_iff.1 hb)) hd (.inl rfl) ?_
  rw [dispatchTo_of_unchanged hread hnow happly hm, hnow]

/-- In its turn, an instrument to which the line is closed does not answer unless it is called. -/
theorem contribution_of_closed (hp : bus.WellPlaced)
    (hread : Instrument.read (Terminal V R) frame = .ok request) (hd : bus.get? a = some d)
    (hclosed : IsClosed d) (hother : request.command.callee? ≠ some (a : Int))
    (hmem : (a, ans) ∈ bus.contributions frame) : ans = .none := by
  obtain ⟨-, rfl⟩ := (mem_contributions_iff hread).1 hmem
  have hnow : (bus.ahead request a bus.addresses).get? a = some d := Bus.get?_ahead hp hd
  rw [← hp.address_eq hd] at hother
  rw [dispatchTo_of_unchanged hread hnow (apply_of_closed hclosed hother) rfl]
  rfl

/-- Among instruments in POLL mode only the one that is called speaks, or, if none is called, one to
which the line is open. -/
theorem of_speaks (hp : bus.WellPlaced)
    (hread : Instrument.read (Terminal V R) frame = .ok request)
    (hpoll : ∀ {a d}, bus.get? a = some d → d.registers.mode = .poll)
    (hmem : (a, ans) ∈ bus.contributions frame) (hspeaks : Speaks ans) :
    match request.command.callee? with
    | some callee => callee = a
    | none => ∃ d, bus.get? a = some d ∧ d.registers.isOpen = true := by
  obtain ⟨ha, hans⟩ := (mem_contributions_iff hread).1 hmem
  obtain ⟨d, hd⟩ := Bus.mem_addresses_iff.1 ha
  split
  · rename_i callee hcallee
    by_contra hother
    rw [hans] at hspeaks
    exact not_speaks_dispatchTo hread (Bus.invariant_wellPlaced.toDispatchInvariant.ahead _ _ _ hp)
      hcallee hother hspeaks
  · rename_i hnone
    refine ⟨d, hd, ?_⟩
    by_contra hclosed
    rw [Bool.not_eq_true] at hclosed
    have hother : request.command.callee? ≠ some (a : Int) := by
      rw [hnone]
      exact Option.some_ne_none _ |>.symm
    obtain rfl := contribution_of_closed hp hread hd ⟨hpoll hd, hclosed⟩ hother hmem
    exact not_speaks_none hspeaks

/-! ## The line is open to at most one -/

/-- The line is open to at most one instrument. -/
def OneOpen (bus : Bus (Terminal V R)) : Prop :=
  ∀ {a b : Nat} {d e : Device (Terminal V R)}, bus.get? a = some d → bus.get? b = some e →
    d.registers.isOpen = true → e.registers.isOpen = true → a = b

/-- After an opening the line is open to the instrument that was called, if there is one. -/
theorem oneOpen_of_openLine (hp : bus.WellPlaced)
    (hread : Instrument.read (Terminal V R) frame = .ok request) {address : Int}
    (h : request.command = .openLine address) : OneOpen (bus.dispatch frame).1 := by
  have hstays : request.command.mayMove = false := congrArg Command.mayMove h
  have hall {k : Nat} {e : Device (Terminal V R)}
      (he : (bus.dispatch frame).1.get? k = some e) (hopen : e.registers.isOpen = true) :
      address = k := by
    rw [Bus.dispatch_of_read hread (resolve_of_read hread bus),
      (staysPut_of_read hread hstays).get?_broadcast hp] at he
    obtain ⟨d, hd, rfl⟩ := Option.map_eq_some_iff.1 he
    have happly : Instrument.apply request d = Operated.kind.openLine address d := by
      rw [Operated.apply_eq, Kind.apply, h]
    rw [happly, isOpen_openLine, hp.address_eq hd] at hopen
    exact hopen
  intro a b d e hd he hopen hopen'
  exact Int.ofNat.inj ((hall hd hopen).symm.trans (hall he hopen'))

/-- All other requests keep it so: they open no line, and a move does not matter. -/
theorem requestInvariant_oneOpen (h : ∀ address, request.command ≠ .openLine address) :
    Bus.RequestInvariant request fun bus : Bus (Terminal V R) =>
      bus.WellPlaced ∧ OneOpen bus where
  replace {bus k d} hd hq := by
    refine ⟨Bus.invariant_wellPlaced.replace request hd hq.1, ?_⟩
    -- Whoever has an open line afterwards has had one before.
    have hbefore {j : Nat} {e : Device (Terminal V R)}
        (he : (bus.replace k (Instrument.apply request d).1).get? j = some e)
        (hopen : e.registers.isOpen = true) :
        ∃ e', bus.get? j = some e' ∧ e'.registers.isOpen = true := by
      rw [Bus.get?_replace] at he
      split at he
      · rename_i hj
        obtain ⟨-, -, rfl⟩ := Option.map_eq_some_iff.1 he
        rw [Operated.apply_eq] at hopen
        exact ⟨d, hj ▸ hd, isOpen_apply Operated.own_eq h hopen⟩
      · exact ⟨e, he, hopen⟩
    intro a b x y hx hy hopen hopen'
    obtain ⟨x', hx', hxopen⟩ := hbefore hx hopen
    obtain ⟨y', hy', hyopen⟩ := hbefore hy hopen'
    exact hq.2 hx' hy' hxopen hyopen
  move {bus after old new} hr hq := by
    refine ⟨hq.1.reassign hr, ?_⟩
    obtain ⟨-, d, hd, -⟩ := Bus.reassign_eq_ok_iff.1 hr
    have hget := Bus.get?_reassign hr hd (hq.1.address_eq hd)
    -- Where an open line has come from: the new address stands for the old one.
    have hbefore {j : Nat} {e : Device (Terminal V R)} (he : after.get? j = some e)
        (hopen : e.registers.isOpen = true) : ∃ i e', bus.get? i = some e' ∧
          e'.registers.isOpen = true ∧ (i = old → j = new) ∧ (i ≠ old → j = i) := by
      rw [hget] at he
      split at he
      · rename_i hj
        obtain rfl := Option.some.inj he
        exact ⟨old, d, hd, hopen, fun _ => hj, fun hne => absurd rfl hne⟩
      · split at he
        · exact absurd he (by simp)
        · rename_i hold
          exact ⟨j, e, he, hopen, fun heq => absurd heq hold, fun _ => rfl⟩
    intro a b x y hx hy hopen hopen'
    obtain ⟨i, x', hx', hxopen, hmoved, hstayed⟩ := hbefore hx hopen
    obtain ⟨j, y', hy', hyopen, hmoved', hstayed'⟩ := hbefore hy hopen'
    obtain rfl := hq.2 hx' hy' hxopen hyopen
    by_cases hi : i = old
    · rw [hmoved hi, hmoved' hi]
    · rw [hstayed hi, hstayed' hi]

/-- Every frame keeps the line open to at most one instrument. -/
theorem oneOpen_dispatch (hq : bus.WellPlaced ∧ OneOpen bus) (frame : Bytes) :
    (bus.dispatch frame).1.WellPlaced ∧ OneOpen (bus.dispatch frame).1 := by
  cases hread : Instrument.read (Terminal V R) frame with
  | error fault =>
    have hsame : (bus.dispatch frame).1 = bus := by simp only [Bus.dispatch, hread]
    rwa [hsame]
  | ok request =>
    by_cases hopening : ∃ address, request.command = .openLine address
    · obtain ⟨address, hopening⟩ := hopening
      exact ⟨Bus.invariant_wellPlaced.dispatch frame hq.1,
        oneOpen_of_openLine hq.1 hread hopening⟩
    · rw [Bus.dispatch_of_read hread (resolve_of_read hread bus)]
      exact (requestInvariant_oneOpen (not_exists.1 hopening)).dispatchAll _ hq

/-- Every operation keeps the line open to at most one instrument. -/
theorem oneOpen_operate (hq : bus.WellPlaced ∧ OneOpen bus) (operation : Bus.Operation) :
    (bus.operate operation).WellPlaced ∧ OneOpen (bus.operate operation) := by
  refine ⟨Bus.invariant_wellPlaced.operate operation hq.1, ?_⟩
  cases operation with
  | dispatch frame => exact (oneOpen_dispatch hq frame).2
  | observe sample =>
    intro a b x y hx hy hopen hopen'
    rw [Bus.operate, Bus.observe, Bus.get?_map] at hx hy
    obtain ⟨x', hx', rfl⟩ := Option.map_eq_some_iff.1 hx
    obtain ⟨y', hy', rfl⟩ := Option.map_eq_some_iff.1 hy
    simp only [Device.mapRegisters, Operated.observe_eq] at hopen hopen'
    exact hq.2 hx' hy' hopen hopen'
  | markSent time addresses =>
    intro a b x y hx hy hopen hopen'
    rw [Bus.operate, Bus.get?_markSent] at hx hy
    obtain ⟨x', hx', rfl⟩ := Option.map_eq_some_iff.1 hx
    obtain ⟨y', hy', rfl⟩ := Option.map_eq_some_iff.1 hy
    have hsame (k : Nat) (d : Device (Terminal V R)) : (if k ∈ addresses then
        d.mapSchedule (·.markSent time) else d).registers = d.registers := by
      split
      · rfl
      · rfl
    rw [hsame] at hopen hopen'
    exact hq.2 hx' hy' hopen hopen'

/-- In every run the line is open to at most one instrument, if it is so at first. -/
theorem oneOpen_run (hq : bus.WellPlaced ∧ OneOpen bus) (operations : List Bus.Operation) :
    (bus.run operations).WellPlaced ∧ OneOpen (bus.run operations) :=
  Bus.run_induction (Q := fun bus : Bus (Terminal V R) => bus.WellPlaced ∧ OneOpen bus)
    (fun operation _ _ hq => oneOpen_operate hq operation) hq

end Operated

end Terminal

end WeatherBus
