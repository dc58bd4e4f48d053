import WeatherBus.Proofs.Number.Magnitude
import WeatherBus.Proofs.SharedLine
import WeatherBus.Proofs.Terminal.Effect

/-! # The ranges of a digital barometer

* **`DigitalBarometer.InRange`** — all settings of its own are in their ranges, and the numbers
  among them are numbers;
* **`DigitalBarometer.ownInvariant_inRange`** — no command changes that. -/

namespace WeatherBus

namespace DigitalBarometer

section Line

variable {s : LineSettings}

/-- All settings of the serial line can be chosen. -/
structure LineSettings.InRange (s : LineSettings) : Prop where
  baud : s.baud ∈ [300, 600, 1200, 2400, 4800, 9600, 19200, 38400, 57600, 115200]
  dataBits : s.dataBits = 7 ∨ s.dataBits = 8
  stopBits : s.stopBits = 1 ∨ s.stopBits = 2

/-- A choice of the rate keeps the line settings in their ranges. -/
theorem inRange_chooseBaud (h : s.InRange) (field : Option Int) :
    (chooseBaud field s).1.InRange := by
  unfold chooseBaud
  split
  · exact h
  · split
    · rename_i n hn
      have hmem : n ∈ baudRates := List.contains_iff_mem.1 hn
      have hnat : n.toNat ∈ baudRates.map Int.toNat := List.mem_map_of_mem hmem
      exact { h with baud := hnat }
    · exact h

/-- So does a choice of the parity. -/
theorem inRange_chooseParity (h : s.InRange) (field : Option (Option Parity)) :
    (chooseParity field s).1.InRange := by
  unfold chooseParity
  split
  · exact h
  · exact { h with }
  · exact h

/-- So does a choice of the data bits. -/
theorem inRange_chooseDataBits (h : s.InRange) (field : Option Int) :
    (chooseDataBits field s).1.InRange := by
  unfold chooseDataBits
  split
  · exact h
  · split
    · rename_i n hn
      have hbits : n.toNat = 7 ∨ n.toNat = 8 := by omega
      exact { h with dataBits := hbits }
    · exact h

/-- And so does a choice of the stop bits. -/
theorem inRange_chooseStopBits (h : s.InRange) (field : Option Int) :
    (chooseStopBits field s).1.InRange := by
  unfold chooseStopBits
  split
  · exact h
  · split
    · rename_i n hn
      have hbits : n.toNat = 1 ∨ n.toNat = 2 := by omega
      exact { h with stopBits := hbits }
    · exact h

/-- Fields that are refused leave their settings alone, and the others can be chosen. -/
theorem LineSettings.InRange.update (h : s.InRange) (u : LineUpdate) : (s.update u).1.InRange :=
  inRange_chooseStopBits (inRange_chooseDataBits
    (inRange_chooseParity (inRange_chooseBaud h u.baud) u.parity) u.dataBits) u.stopBits

end Line

/-- All settings of a barometer, those of its terminal aside, are in their ranges. -/
structure InRange (b : DigitalBarometer) : Prop where
  line : b.line.InRange
  correctionHeight : Binary64.Within (-30.0) 30.0 b.correctionHeight
  fieldHeight : Binary64.Within (-30.0) 30.0 b.fieldHeight
  seaHeight : Binary64.Within (-300.0) 3000.0 b.seaHeight
  averaging : Binary64.Within 0.0 600.0 b.averaging
  stabilityLimit : Binary64.Within 0.0 10.0 b.stabilityLimit

/-- The settings of a new barometer are in their ranges. -/
theorem inRange_initial : InRange {} where
  line := ⟨by decide, .inl rfl, .inl rfl⟩
  correctionHeight := .of_inRange (by decide +kernel)
  fieldHeight := .of_inRange (by decide +kernel)
  seaHeight := .of_inRange (by decide +kernel)
  averaging := .of_inRange (by decide +kernel)
  stabilityLimit := .of_inRange (by decide +kernel)

section Commands

variable {d : Device Registers}

/-- A number that is stored has been checked. -/
theorem inRange_store {name : String} {range : Float × Float} {x : Float}
    {put : Float → DigitalBarometer → DigitalBarometer} {answer : DigitalBarometer → Text}
    (h : InRange d.registers.own)
    (hput : Binary64.Within range.1 range.2 x → InRange (put x d.registers.own)) :
    InRange (store name range x put answer d).1.registers.own := by
  rw [store]
  split
  · rename_i hrange
    exact hput (.of_inRange hrange)
  · exact h

/-- So they are with another height that is in its range. -/
theorem inRange_setHeight {b : DigitalBarometer} {x : Float} (h : InRange b) (which : Height)
    (hx : Binary64.Within which.range.1 which.range.2 x) : InRange (setHeight which x b) := by
  cases which with
  | correction => exact { h with correctionHeight := hx }
  | field => exact { h with fieldHeight := hx }
  | sea => exact { h with seaHeight := hx }

/-- The commands of its own keep the settings in their ranges. -/
theorem inRange_apply (command : Command) (h : InRange d.registers.own) :
    InRange (apply command d).1.registers.own := by
  cases command with
  | unit setting =>
    match setting with
    | .query => exact h
    | .set (.pressure unit) => exact { h with }
    | .set (.temperature unit) => exact { h with }
    | .invalid text => exact h
  | line setting =>
    cases setting with
    | query => exact h
    | set update => exact { h with line := h.line.update update }
    | invalid text => exact h
  | echo setting =>
    cases setting with
    | query => exact h
    | set echo => exact { h with }
    | invalid text => exact h
  | height which setting =>
    cases setting with
    | query => exact h
    | set x => exact inRange_store h (inRange_setHeight h which)
    | invalid text => exact h
  | averaging setting =>
    cases setting with
    | query => exact h
    | set x =>
      have hmax : Float.ofNat maxAveraging = 600.0 := by decide +kernel
      refine inRange_store h fun hx => ?_
      rw [hmax] at hx
      exact { h with averaging := hx }
    | invalid text => exact h
  | stability setting =>
    cases setting with
    | query => exact h
    | set x => exact inRange_store h fun hx => { h with stabilityLimit := hx }
    | invalid text => exact h
  | errors => exact h

/-- A restart and a sample leave the settings alone. -/
theorem ownInvariant_inRange : kind.OwnInvariant InRange where
  apply command _ h := inRange_apply command h
  restart h := { h with }
  observe _ _ h := { h with }

end Commands

end DigitalBarometer

end WeatherBus
