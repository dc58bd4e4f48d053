import WeatherBus.Proofs.DigitalBarometer.Range
import WeatherBus.Proofs.Terminal.Report

/-! # Reported settings can be sent back

A barometer or a probe that is alone on its line answers the keyword of a setting with its value.
The value can be sent back as it is, whatever the setting is and however it was chosen.

* **`DigitalBarometer.reports`** — the settings that a barometer reports; `takesBack_line` and
  `takesBack_echo` are about those that only a barometer has;
* **`Terminal.reports_sent_back`** — the settings of both kinds of instruments can be sent back. -/

namespace WeatherBus

namespace DigitalBarometer

/-! ## The settings of a barometer -/

section Line

variable {s : LineSettings}

/-- The settings of a serial line as an update of all of them. -/
def LineSettings.asUpdate (s : LineSettings) : LineUpdate where
  baud := some s.baud
  parity := some (some s.parity)
  dataBits := some s.dataBits
  stopBits := some s.stopBits

/-- Settings that can be chosen are not changed by themselves. -/
theorem LineSettings.InRange.update_asUpdate (h : s.InRange) : s.update s.asUpdate = (s, none) := by
  have hbaud : chooseBaud (some s.baud) s = (s, none) := by
    have hall : ∀ baud ∈ [300, 600, 1200, 2400, 4800, 9600, 19200, 38400, 57600, 115200],
        baudRates.contains ((baud : Nat) : Int) = true := by decide
    rw [chooseBaud]
    simp only [hall _ h.baud, if_true, Int.toNat_natCast]
  have hdata : chooseDataBits (some s.dataBits) s = (s, none) := by
    have hbits : (s.dataBits : Int) = 7 ∨ (s.dataBits : Int) = 8 := by
      have := h.dataBits
      omega
    rw [chooseDataBits]
    simp only [if_pos hbits, Int.toNat_natCast]
  have hstop : chooseStopBits (some s.stopBits) s = (s, none) := by
    have hbits : (s.stopBits : Int) = 1 ∨ (s.stopBits : Int) = 2 := by
      have := h.stopBits
      omega
    rw [chooseStopBits]
    simp only [if_pos hbits, Int.toNat_natCast]
  rw [LineSettings.update]
  simp only [LineSettings.asUpdate, hbaud, chooseParity, hdata, hstop]
  rfl

/-- The letter of a parity is read from it. -/
theorem Parity.ofLabel?_letter (parity : Parity) :
    Parity.ofLabel? [parity.letter] = some parity := by
  cases parity <;> rfl

/-- The letter of a parity is a word. -/
theorem Parity.isWord_letter (parity : Parity) : Text.IsWord [parity.letter] := by
  cases parity with
  | none => exact Text.IsToken.isWord (by decide) (by decide)
  | even => exact Text.IsToken.isWord (by decide) (by decide)
  | odd => exact Text.IsToken.isWord (by decide) (by decide)

/-- The words of the settings as they are reported. -/
def LineSettings.fields (s : LineSettings) : List Text :=
  [Numeral.ofNat s.baud, [s.parity.letter], Numeral.ofNat s.dataBits, Numeral.ofNat s.stopBits]

/-- The report is these words with single blanks between them. -/
theorem LineSettings.render_eq (s : LineSettings) : s.render =
    Numeral.ofNat s.baud ++ ' ' :: ([s.parity.letter] ++ ' ' ::
      (Numeral.ofNat s.dataBits ++ ' ' :: Numeral.ofNat s.stopBits)) := by
  rw [LineSettings.render, List.append_assoc]
  rfl

/-- Line settings are written without blanks at the ends. -/
theorem LineSettings.trim_render (s : LineSettings) : Text.trim s.render = s.render := by
  have hstop := Terminal.isWord_ofNat s.stopBits
  have hdata := (Terminal.isWord_ofNat s.dataBits).trim_append_cons (c := ' ') hstop.ne_nil
    hstop.trim_eq
  have hparity := s.parity.isWord_letter.trim_append_cons (c := ' ')
    (List.append_ne_nil_of_left_ne_nil (Numeral.ofNat_ne_nil _) _) hdata
  rw [LineSettings.render_eq]
  exact (Terminal.isWord_ofNat s.baud).trim_append_cons
    (List.append_ne_nil_of_left_ne_nil (List.cons_ne_nil _ _) _) hparity

/-- The words of line settings are their fields. -/
theorem LineSettings.words_render (s : LineSettings) : Text.words s.render = s.fields := by
  have hblank : Text.isBlank ' ' = true := by decide
  rw [LineSettings.render_eq, (Terminal.isWord_ofNat _).words_append_cons hblank,
    s.parity.isWord_letter.words_append_cons hblank,
    (Terminal.isWord_ofNat _).words_append_cons hblank, (Terminal.isWord_ofNat _).words_eq]
  rfl

/-- The words are read as an update of all settings. -/
theorem LineSettings.InRange.line?_fields (h : s.InRange) :
    Command.line? s.fields = some s.asUpdate := by
  have hbaud : s.baud < 2 ^ 63 := by
    have hall : ∀ baud ∈ [300, 600, 1200, 2400, 4800, 9600, 19200, 38400, 57600, 115200],
        baud < 2 ^ 63 := by decide
    exact hall _ h.baud
  have hdata : s.dataBits < 2 ^ 63 := by
    have := h.dataBits
    omega
  have hstop : s.stopBits < 2 ^ 63 := by
    have := h.stopBits
    omega
  have hfirst : Parameter.word? s.fields 0 = some (s.baud : Int) :=
    Terminal.word?_of_ofNat rfl hbaud
  have hthird : Parameter.word? s.fields 2 = some (s.dataBits : Int) :=
    Terminal.word?_of_ofNat rfl hdata
  have hfourth : Parameter.word? s.fields 3 = some (s.stopBits : Int) :=
    Terminal.word?_of_ofNat rfl hstop
  rw [Command.line?, Command.field?, Command.field?, Command.field?, hfirst, hthird, hfourth]
  simp only [LineSettings.fields, LineSettings.asUpdate, List.getElem?_cons_zero,
    List.getElem?_cons_succ, Option.map_some, Parity.ofLabel?_letter, Option.getD_some]

end Line

section Reports

variable {d : Device Registers}

/-- The settings of the serial line. -/
def lineSettings : Terminal.Report Variable DigitalBarometer where
  keyword := "SERI".toList
  label := "Baud P D S"
  value d := d.registers.own.line.render

/-- Whether commands are repeated. -/
def echoSetting : Terminal.Report Variable DigitalBarometer where
  keyword := "ECHO".toList
  label := "Echo"
  value d := Terminal.switch d.registers.own.echo

/-- The settings that a barometer reports and takes back. -/
def reports : List (Terminal.Report Variable DigitalBarometer) :=
  kind.reports ++ [lineSettings, echoSetting]

/-- The report of the serial line is taken back. -/
theorem takesBack_line (h : d.registers.own.line.InRange) :
    Terminal.TakesBack kind d lineSettings d.registers.format
      fun tail => .own (.line (Terminal.Command.setting Command.line? tail)) := by
  have htrim := d.registers.own.line.trim_render
  have hset := Terminal.setting_cons htrim d.registers.own.line.words_render rfl h.line?_fields
  refine ⟨⟨by decide, by decide, rfl⟩, fun _ => rfl, ?_, htrim, rfl,
    ⟨.say d.registers.own.lineReport, ?_, rfl, rfl⟩, rfl⟩
  · show d.registers.own.line.render ≠ []
    rw [LineSettings.render_eq]
    exact List.append_ne_nil_of_left_ne_nil (Numeral.ofNat_ne_nil _) _
  · rw [lineSettings, hset]
    show apply (.line (.set d.registers.own.line.asUpdate)) d = _
    simp only [apply, h.update_asUpdate]
    rfl

/-- The report of the echo is taken back. -/
theorem takesBack_echo : Terminal.TakesBack kind d echoSetting d.registers.format
    fun tail => .own (.echo (Terminal.Command.setting Command.switch? tail)) := by
  have hswitch : ∀ isOn, Terminal.switch isOn ≠ [] ∧
      Text.trim (Terminal.switch isOn) = Terminal.switch isOn ∧
      Terminal.Command.setting Command.switch? (' ' :: Terminal.switch isOn) = .set isOn := by
    decide
  obtain ⟨hne, htrim, hset⟩ := hswitch d.registers.own.echo
  refine ⟨⟨by decide, by decide, rfl⟩, fun _ => rfl, hne, htrim, rfl,
    ⟨.say d.registers.own.echoReport, ?_, rfl, rfl⟩, rfl⟩
  rw [echoSetting, hset]
  rfl

end Reports

/-- The format that a barometer comes with can be chosen. -/
theorem comesChosen : kind.ComesChosen where
  minInterval_le := Nat.le_refl 1
  maxAddress_lt := by decide
  asksForFormat := ⟨by decide, by decide, by decide⟩
  isSome_compile := by decide +kernel
  snapshot_eq _ _ _ := rfl

end DigitalBarometer

namespace HumidityProbe

/-- The format that a probe comes with can be chosen. -/
theorem comesChosen : kind.ComesChosen where
  minInterval_le := Nat.zero_le 1
  maxAddress_lt := by decide
  asksForFormat := ⟨by decide, by decide, by decide⟩
  isSome_compile := by decide +kernel
  snapshot_eq _ _ _ := rfl

end HumidityProbe

/-! ## Both kinds -/

/-- In every run of a barometer or a probe that is alone on its line, the settings that it reports
can be sent back while it listens: they are accepted, change nothing, and are reported as before.
The format that it comes with is then chosen like any other, without a difference in any
measurement. -/
theorem Terminal.reports_sent_back :
    (∀ start : Bus DigitalBarometer.Registers, DigitalBarometer.kind.bus 1 = .ok start →
      ∀ (operations : List Bus.Operation) {a : Nat} {d : Device DigitalBarometer.Registers},
        (start.run operations).get? a = some d → d.registers.isListening = true →
          ∀ r ∈ DigitalBarometer.reports,
            Terminal.SentBack DigitalBarometer.kind (start.run operations) a d r) ∧
    ∀ start : Bus HumidityProbe.Registers, HumidityProbe.kind.bus 1 = .ok start →
      ∀ (operations : List Bus.Operation) {a : Nat} {d : Device HumidityProbe.Registers},
        (start.run operations).get? a = some d → d.registers.isListening = true →
          ∀ r ∈ HumidityProbe.kind.reports,
            Terminal.SentBack HumidityProbe.kind (start.run operations) a d r := by
  refine ⟨fun start h operations a d hd hlistens => ?_,
    fun start h operations a d hd hlistens =>
      Terminal.sentBack_run HumidityProbe.comesChosen h operations hd hlistens⟩
  have halone := Terminal.alone_run h operations hd hlistens
  have hrange := (Terminal.own_run DigitalBarometer.ownInvariant_inRange
    DigitalBarometer.inRange_initial h operations).2.2 hd
  rw [DigitalBarometer.reports, List.forall_mem_append, List.forall_mem_cons,
    List.forall_mem_singleton]
  exact ⟨Terminal.sentBack_run DigitalBarometer.comesChosen h operations hd hlistens,
    (DigitalBarometer.takesBack_line hrange.line).sentBack halone (.inl rfl),
    DigitalBarometer.takesBack_echo.sentBack halone (.inl rfl)⟩

/-- A barometer that repeats commands reports a format with a quoted degree sign, blanks and a
question mark, and is as before when it has got it back. -/
theorem Terminal.reports_sent_back_quoted :
    ∃ start : Bus DigitalBarometer.Registers, DigitalBarometer.kind.bus 1 = .ok start ∧
      let bus := start.run [.dispatch (Utf8.encode " form  \"°  ?\" 6.2P#rn ".toList),
        .dispatch (Utf8.encode "echo ON".toList)]
      (bus.dispatch (Utf8.encode "FORM".toList)).2.reply =
        Utf8.encode "FORM\r\nOutput format  : \"°  ?\" 6.2P#rn\r\n".toList ∧
      (bus.dispatch (Utf8.encode "FORM \"°  ?\" 6.2P#rn".toList)).1 = bus := by
  have hbus : DigitalBarometer.kind.bus 1 = .ok _ := rfl
  refine ⟨_, hbus, ?_⟩
  intro bus
  obtain ⟨d, hd⟩ : ∃ d, bus.get? 0 = some d := Option.isSome_iff_exists.1 (by decide +kernel)
  have hlistens : (bus.get? 0).map (·.registers.isListening) = some true := by decide +kernel
  have hformat : (bus.get? 0).map (·.registers.format.isSome) = some true := by decide +kernel
  have hvalue : (bus.get? 0).map DigitalBarometer.kind.formatInForce.value =
      some "\"°  ?\" 6.2P#rn".toList := by decide +kernel
  rw [hd, Option.map_some, Option.some_inj] at hlistens hformat hvalue
  have hsent := reports_sent_back.1 _ hbus _ hd hlistens DigitalBarometer.kind.formatInForce
    (List.mem_append_left _ (List.mem_cons_of_mem _ List.mem_cons_self))
  refine ⟨by decide +kernel, ?_⟩
  rcases hsent.kept with hkept | ⟨-, hnone, -⟩
  · rw [hvalue] at hkept
    exact hkept
  · rw [hnone] at hformat
    exact absurd hformat Bool.false_ne_true

end WeatherBus
