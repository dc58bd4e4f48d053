import WeatherBus.Proofs.Kinds
import WeatherBus.Proofs.Terminal.Line

/-! # Barometers and probes on a shared line

* **`Terminal.Kind.exists_bus`** — the bus with a number of new instruments;
* **`Terminal.SharesLine`** — what makes it possible to talk to many instruments on one line;
* **`Terminal.sharesLine_run`** — it holds of digital barometers and humidity probes after every
  run. -/

namespace WeatherBus

/-! ## The two kinds -/

namespace DigitalBarometer

instance : Terminal.Operated Variable DigitalBarometer where
  S := Reading
  kind := kind
  read_eq := rfl
  needsChecksum_eq _ := rfl
  requestedAddress_eq _ _ := rfl
  apply_eq _ _ := rfl
  observe_eq _ _ := rfl
  encodeReply_eq _ _ _ := rfl
  encodeFault_eq _ _ _ := rfl
  own_eq := changeOwn_apply
  isToken_keyword := by decide
  isSome_refusal _ := rfl

end DigitalBarometer

namespace HumidityProbe

instance : Terminal.Operated Variable HumidityProbe where
  S := Reading
  kind := kind
  read_eq := rfl
  needsChecksum_eq _ := rfl
  requestedAddress_eq _ _ := rfl
  apply_eq _ _ := rfl
  observe_eq _ _ := rfl
  encodeReply_eq _ _ _ := rfl
  encodeFault_eq _ _ _ := rfl
  own_eq := changeOwn_apply
  isToken_keyword := by decide
  isSome_refusal _ := rfl

end HumidityProbe

namespace Terminal

/-! ## The start -/

section Start

variable {V S R X : Type} {kind : Kind V S R X} {count : Nat} {start : Bus (Terminal V R)}

/-- The mode in which a number of new instruments starts. -/
def startMode (count : Nat) : SerialMode := if count = 1 then .stop else .poll

/-- The bus with a number of new instruments, which have the first addresses. -/
theorem Kind.exists_bus (hsome : 0 < count) (hmany : count ≤ kind.maxCount)
    (hroom : kind.maxCount ≤ kind.maxAddress + 1) :
    ∃ start, kind.bus count = .ok start ∧
      ∀ a, start.get? a = if a < count then some (kind.new (startMode count) a) else none := by
  have hnew : ∀ address, (kind.new (startMode count) address).address = address := fun _ => rfl
  obtain ⟨start, hstart, -, hget⟩ := Bus.insertAll_range hnew (hmany.trans hroom)
  refine ⟨start, ?_, hget⟩
  rw [Kind.bus, if_neg (by omega)]
  exact hstart

/-- The line is closed to all instruments at the start. -/
theorem Kind.oneOpen_bus (h : kind.bus count = .ok start) : start.WellPlaced ∧ OneOpen start := by
  refine ⟨wellPlaced_bus h, fun {a b d e} hd _ hopen _ => ?_⟩
  rw [Kind.bus] at h
  split at h
  · exact absurd h (by simp)
  · have hclosed : start.Throughout kind.maxAddress fun d => d.registers.isOpen = false := by
      refine Bus.throughout_of_insertAll (fun d hd => ?_) h
      obtain ⟨address, -, rfl⟩ := List.mem_map.1 hd
      rfl
    rw [hclosed.2.2 hd] at hopen
    exact absurd hopen Bool.false_ne_true

end Start

/-! ## Every run -/

section SharesLine

variable {V R X : Type} [Instrument (Terminal V R) (Command X)]

/-- Instruments that share a line. What is sent in answer to a frame is what they contribute one by
one. -/
structure SharesLine (bus : Bus (Terminal V R)) : Prop where
  reply_eq : ∀ frame, (bus.dispatch frame).2.reply =
    (bus.contributions frame).flatMap fun turn => turn.2.reply
  measurements_eq : ∀ frame, (bus.dispatch frame).2.measurements =
    (bus.contributions frame).flatMap fun turn => turn.2.measurements
  /-- The line is open to at most one of them. -/
  oneOpen : OneOpen bus
  /-- One that is closed takes no part in anything, up to it is called. -/
  closed : ∀ {a : Nat} {d : Device (Terminal V R)}, bus.get? a = some d → IsClosed d →
    ∀ frame, (∀ request, Instrument.read (Terminal V R) frame = .ok request →
        request.command.callee? ≠ some (a : Int)) →
      (bus.dispatch frame).1.get? a = some d ∧
        ∀ ans, (a, ans) ∈ bus.contributions frame → ans = .none
  /-- To be called for a measurement changes nothing. -/
  called : ∀ {a : Nat} {d : Device (Terminal V R)}, bus.get? a = some d →
    ∀ frame request, Instrument.read (Terminal V R) frame = .ok request →
      request.command = .send (some (a : Int)) → (bus.dispatch frame).1.get? a = some d
  /-- When all of them are in POLL mode, no two answer one frame. -/
  oneSpeaks : (∀ {a d}, bus.get? a = some d → d.registers.mode = .poll) →
    ∀ frame, (bus.contributions frame).Pairwise fun first second =>
      ¬ (Speaks first.2 ∧ Speaks second.2)

variable [Operated V R] [Conducted (Terminal V R)] {bus : Bus (Terminal V R)}

/-- When all instruments are in POLL mode, no two answer one frame. -/
theorem pairwise_contributions (hq : bus.WellPlaced ∧ OneOpen bus)
    (hpoll : ∀ {a d}, bus.get? a = some d → d.registers.mode = .poll) (frame : Bytes) :
    (bus.contributions frame).Pairwise fun first second =>
      ¬ (Speaks first.2 ∧ Speaks second.2) := by
  cases hread : Instrument.read (Terminal V R) frame with
  | error fault => simp only [Bus.contributions, hread, List.Pairwise.nil]
  | ok request =>
    -- Every instrument is asked once.
    have hdistinct : (bus.contributions frame).Pairwise fun first second =>
        first.1 ≠ second.1 := by
      rw [Bus.contributions_of_read hread (resolve_of_read hread bus), ← List.pairwise_map,
        Bus.map_fst_turns]
      exact bus.nodup_addresses
    refine hdistinct.imp_of_mem ?_
    rintro ⟨a, x⟩ ⟨b, y⟩ hx hy hne ⟨hxspeaks, hyspeaks⟩
    have hax := of_speaks hq.1 hread hpoll hx hxspeaks
    have hby := of_speaks hq.1 hread hpoll hy hyspeaks
    cases hcallee : request.command.callee? with
    | some callee =>
      simp only [hcallee] at hax hby
      exact hne (Int.ofNat.inj (hax.symm.trans hby))
    | none =>
      simp only [hcallee] at hax hby
      obtain ⟨d, hd, hdopen⟩ := hax
      obtain ⟨e, he, heopen⟩ := hby
      exact hne (hq.2 hd he hdopen heopen)

/-- If one device at most is open, the line is shared. -/
theorem sharesLine_of_oneOpen (hq : bus.WellPlaced ∧ OneOpen bus) : SharesLine bus where
  reply_eq frame := Bus.reply_dispatch frame bus
  measurements_eq frame := Bus.measurements_dispatch frame bus
  oneOpen := hq.2
  closed {a d} hd hclosed frame hother := by
    cases hread : Instrument.read (Terminal V R) frame with
    | error fault =>
      simp only [Bus.dispatch, Bus.contributions, hread, List.not_mem_nil, false_implies,
        implies_true, and_true]
      exact hd
    | ok request =>
      have hnot := hother request hread
      refine ⟨?_, fun ans => contribution_of_closed hq.1 hread hd hclosed hnot⟩
      rw [← hq.1.address_eq hd] at hnot
      exact get?_dispatch_of_unchanged hq.1 hread hd (apply_of_closed hclosed hnot) rfl
  called {a d} hd frame request hread hsend := by
    rw [← hq.1.address_eq hd] at hsend
    exact get?_dispatch_of_unchanged hq.1 hread hd (apply_of_send hsend) rfl
  oneSpeaks := pairwise_contributions hq

end SharesLine

/-- Digital barometers share a line, as many as there are and whatever has happened, and so do
humidity probes. -/
theorem sharesLine_run :
    (∀ {count start}, DigitalBarometer.kind.bus count = .ok start →
      ∀ operations, SharesLine (start.run operations)) ∧
    ∀ {count start}, HumidityProbe.kind.bus count = .ok start →
      ∀ operations, SharesLine (start.run operations) :=
  ⟨fun h operations => sharesLine_of_oneOpen (oneOpen_run (Kind.oneOpen_bus h) operations),
    fun h operations => sharesLine_of_oneOpen (oneOpen_run (Kind.oneOpen_bus h) operations)⟩

/-- Of three instruments the second one has an open line and answers, up to the operator calls the
third one. -/
theorem sharesLine_run_opened :
    let opening := Bus.Operation.dispatch (Utf8.encode "OPEN 1".toList)
    (∃ start, DigitalBarometer.kind.bus 3 = .ok start ∧ SharesLine (start.run [opening]) ∧
      ((start.run [opening]).dispatch (Utf8.encode "SEND".toList)).2.measurements = [1] ∧
      ((start.run [opening]).dispatch (Utf8.encode "SEND 2".toList)).2.measurements = [2]) ∧
    ∃ start, HumidityProbe.kind.bus 3 = .ok start ∧ SharesLine (start.run [opening]) ∧
      ((start.run [opening]).dispatch (Utf8.encode "SEND".toList)).2.measurements = [1] ∧
      ((start.run [opening]).dispatch (Utf8.encode "SEND 2".toList)).2.measurements = [2] := by
  intro opening
  constructor
  · refine ⟨_, rfl, sharesLine_run.1 (show DigitalBarometer.kind.bus 3 = .ok _ from rfl) [opening],
      ?_, ?_⟩
    · decide +kernel
    · decide +kernel
  · refine ⟨_, rfl, sharesLine_run.2 (show HumidityProbe.kind.bus 3 = .ok _ from rfl) [opening],
      ?_, ?_⟩
    · decide +kernel
    · decide +kernel

end Terminal

end WeatherBus
