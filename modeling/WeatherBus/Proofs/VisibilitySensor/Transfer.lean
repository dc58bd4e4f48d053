import WeatherBus.Proofs.Bus.Address
import WeatherBus.Proofs.Instrument.Field
import WeatherBus.Proofs.VisibilitySensor.Commit
import WeatherBus.Proofs.VisibilitySensor.Effect
import WeatherBus.Proofs.VisibilitySensor.Language

/-! # Settings that are sent to another sensor

The answer to a question for the settings is a text that can be sent on: to the same sensor, to one
on the same bus, or to one on another bus.

* **`Settings.asUpdate`** — the change that asks for settings; **`Settings.update_asUpdate`** — it
  makes any settings these;
* **`Settings.render_eq`** — settings are written like this change;
* **`transfers_settings`** — a sensor that is sent the settings of another one has them, now and
  after a reset, is at the address that comes with them, and answers with the same text. -/

namespace WeatherBus

namespace VisibilitySensor

variable {s : Settings} {id a : Nat}

/-! ## Settings as a change -/

/-- The change that asks for settings and for an address. -/
def Settings.asUpdate (id : Nat) (s : Settings) : SettingsUpdate where
  id := some (Int.ofNat id)
  interval := some (Int.ofNat s.interval)
  format := some (Int.ofNat (match s.format with | .standard => 0 | .custom => 1))
  mode := some (Int.ofNat (if s.mode = .continuous then 1 else 0))
  baud := some (Int.ofNat s.baud)
  unit := some (Int.ofNat (match s.unit with | .metre => 0 | .foot => 1))
  averaging := some (Int.ofNat s.averaging)
  checked := some (Int.ofNat s.checked.toNat)

/-- Settings are written as the change that asks for them is. -/
theorem Settings.render_eq (id : Nat) (s : Settings) : s.render id =
    List.intercalate [':'] ((s.asUpdate id).toList.map SettingsUpdate.fieldText) := rfl

/-- A number within its bound is stored as it is. -/
theorem upTo?_ofNat {high n : Nat} (h : n ≤ high) : upTo? high (some (Int.ofNat n)) = some n :=
  if_pos ⟨Int.natCast_nonneg n, Int.ofNat_le.2 h⟩

/-- It is no fault. -/
theorem beyond?_ofNat {name : String} {high n : Nat} (h : n ≤ high) :
    beyond? name high (some (Int.ofNat n)) = none :=
  if_pos ⟨Int.natCast_nonneg n, Int.ofNat_le.2 h⟩

/-- Whatever the settings were, the change makes them these. -/
theorem Settings.InRange.update_asUpdate (h : s.InRange) (id : Nat) (old : Settings) :
    old.update (s.asUpdate id) = s := by
  obtain ⟨interval, format, mode, baud, unit, averaging, checked⟩ := s
  rw [Settings.update, Settings.mk.injEq]
  refine ⟨?_, ?_, ?_, ?_, ?_, ?_, ?_⟩
  · exact congrArg (Option.getD · old.interval) (upTo?_ofNat h.interval_le)
  · cases format <;> rfl
  · rcases h.mode with rfl | rfl
    · rfl
    · rfl
  · exact congrArg (Option.getD · old.baud) (upTo?_ofNat h.baud_le)
  · cases unit <;> rfl
  · rcases h.averaging with rfl | rfl
    · rfl
    · rfl
  · cases checked <;> rfl

/-- No field of the change is refused. -/
theorem Settings.InRange.fault?_asUpdate (h : s.InRange) (hid : id ≤ maxId) :
    (s.asUpdate id).fault? = none := by
  rw [SettingsUpdate.fault?, Fault.first?_eq_none_iff]
  simp only [List.forall_mem_cons]
  refine ⟨beyond?_ofNat hid, beyond?_ofNat h.interval_le, beyond?_ofNat ?_, beyond?_ofNat ?_,
    beyond?_ofNat h.baud_le, beyond?_ofNat ?_, ?_, beyond?_ofNat ?_, List.forall_mem_nil _⟩
  · cases s.format <;> decide
  · split <;> decide
  · cases s.unit <;> decide
  · rw [Settings.asUpdate]
    rcases h.averaging with heq | heq
    · rw [heq]
      rfl
    · rw [heq]
      rfl
  · cases s.checked <;> decide

/-- All fields of the change can be written. -/
theorem Settings.InRange.isWord_asUpdate (h : s.InRange) (hid : id ≤ maxId) :
    ∀ field ∈ (s.asUpdate id).toList, ∀ n ∈ field, Numeral.IsWord n := by
  have hsmall {code : Nat} (hcode : code ≤ 3600) :
      ∀ n ∈ some (Int.ofNat code), Numeral.IsWord n := by
    intro n hn
    obtain rfl := Option.some.inj hn
    rw [Numeral.IsWord]
    simp only [Int.ofNat_eq_natCast]
    omega
  have hinterval := h.interval_le
  have hbaud := h.baud_le
  have haveraging := h.averaging
  rw [maxId] at hid
  simp only [SettingsUpdate.toList, Settings.asUpdate, List.forall_mem_cons]
  refine ⟨hsmall (by omega), hsmall hinterval, hsmall ?_, hsmall ?_, hsmall (by omega), hsmall ?_,
    hsmall (by omega), hsmall ?_, List.forall_mem_nil _⟩
  · cases s.format <;> decide
  · split <;> decide
  · cases s.unit <;> decide
  · cases s.checked <;> decide

/-! ## Settings that are sent on -/

section Turn

variable {bus : Bus VisibilitySensor} {d : Device VisibilitySensor} {raw : Bytes}

/-- The text that sends settings to the sensor at an address. -/
def transferText (a id : Nat) (s : Settings) : Text :=
  "SET:".toList ++ Numeral.ofNat a ++ ':' :: s.render id

/-- What it asks for. -/
def transferRequest (a id : Nat) (s : Settings) : Request Command where
  target := .address a
  checksum := .valid
  command := .set (s.asUpdate id)
  text := transferText a id s

/-- A sensor that has the settings of another one. -/
def withTransferred (id : Nat) (s : Settings) (d : Device VisibilitySensor) :
    Device VisibilitySensor :=
  { d with
    address := id
    schedule := (d.schedule.setInterval (s.interval * 1000)).setMode s.mode
    registers := { d.registers with active := s, committed := s, committedId := id } }

/-- The text is read as the change that asks for the settings. -/
theorem read_transfer (hs : s.InRange) (hid : id ≤ maxId) (ha : a ≤ maxId)
    (hraw : Block.Carries separator checksum raw (transferText a id s)) :
    Command.read raw = .ok (transferRequest a id s) := by
  have hwording : Command.Wording (.set (s.asUpdate id)) "SET".toList
      ((s.asUpdate id).toList.map SettingsUpdate.fieldText) := .set (hs.isWord_asUpdate hid)
  obtain ⟨hkeyword, hfields⟩ := hwording.isToken
  have htokens : ∀ field ∈ "SET".toList :: Numeral.ofNat a ::
      (s.asUpdate id).toList.map SettingsUpdate.fieldText, Text.IsToken field :=
    List.forall_mem_cons.2 ⟨hkeyword, List.forall_mem_cons.2 ⟨Numeral.isToken_ofNat a, hfields⟩⟩
  have htext : transferText a id s = List.intercalate [':'] ("SET".toList :: Numeral.ofNat a ::
      (s.asUpdate id).toList.map SettingsUpdate.fieldText) := rfl
  have hpieces := Text.map_trim_pieces (List.cons_ne_nil _ _) htokens
  rw [← htext] at hpieces
  have hread := read_of_carries hraw hpieces (Command.address_ofNat ha)
  rwa [hwording.ofFields_eq] at hread

/-- The sensor puts the settings in force and asks to be moved to their address. -/
theorem change_asUpdate (hs : s.InRange) (hid : id ≤ maxId) (d : Device VisibilitySensor) :
    change true (s.asUpdate id) d =
      ({ withTransferred id s d with address := d.address },
        .ok (settled id { withTransferred id s d with address := d.address })) := by
  have hnew : (s.asUpdate id).newId? = some id := upTo?_ofNat hid
  have hcommit : commit (s.asUpdate id) id d =
      { withTransferred id s d with address := d.address } := by
    rw [commit, hs.update_asUpdate]
    rfl
  rw [change_of_accepted (hs.fault?_asUpdate hid), hnew, Option.getD_some, hcommit]

/-- A sensor that is sent settings has them, now and after a reset, at the address that comes with
them, and answers with the same text. -/
theorem dispatch_transfer (hbus : bus.WellPlaced) (hmax : bus.maxAddress = maxId)
    (hd : bus.get? a = some d) (hs : s.InRange) (hid : id ≤ maxId)
    (hfree : id = a ∨ bus.get? id = none)
    (hraw : Block.Carries separator checksum raw (transferText a id s)) :
    (bus.dispatch raw).2 = { reply := frame ("SET:".toList ++ s.render id), wake := true } ∧
      ∀ k, (bus.dispatch raw).1.get? k = if k = id then some (withTransferred id s d)
        else if k = a then none else bus.get? k := by
  have haddress : d.address = a := hbus.address_eq hd
  have hread := read_transfer hs hid (hmax ▸ hbus.le_maxAddress hd) hraw
  have hperm : bus.permit (transferRequest a id s) d = .ok () := by
    refine Bus.permit_eq_ok (.inl rfl) fun new hnew => ?_
    -- The address that is asked for is the one that comes with the settings.
    obtain rfl : id = new := Option.some.inj ((upTo?_ofNat hid).symm.trans hnew)
    rw [haddress, Bus.contains_eq_false_iff]
    exact hfree
  have hmove : (settled id { withTransferred id s d with address := d.address }).moveTo.getD a =
      id := by
    rw [settled, haddress]
    split
    · rename_i hsame
      rw [hsame, Option.getD_none]
    · rfl
  obtain ⟨after, hturn, hafter⟩ :=
    Bus.exists_dispatchTo hbus hd hperm (change_asUpdate hs hid d) hmove (hmax ▸ hid) hfree
  rw [Bus.dispatch_of_address hread rfl (Bus.contains_iff.2 ⟨d, hd⟩), hturn]
  exact ⟨rfl, hafter⟩

end Turn

/-- After any two runs, on buses of any size, the settings of a sensor of the first can be sent to a
sensor of the second, with any address from 0 to 9 that is free there or the one that it has. The
sensor then has these settings, now and after the next reset, is found at the address that comes
with them, and answers with the same text. All other sensors are as before. -/
theorem transfers_settings {count₁ count₂ : Nat} {start₁ start₂ : Bus VisibilitySensor}
    (h₁ : bus count₁ = .ok start₁) (h₂ : bus count₂ = .ok start₂)
    (operations₁ operations₂ : List Bus.Operation) {a₁ : Nat} {d₁ d : Device VisibilitySensor}
    (hd₁ : (start₁.run operations₁).get? a₁ = some d₁)
    (hd : (start₂.run operations₂).get? a = some d) (hid : id ≤ 9)
    (hfree : id = a ∨ (start₂.run operations₂).get? id = none) {raw : Bytes}
    (hraw : Block.Carries separator checksum raw
      ("SET:".toList ++ Numeral.ofNat a ++ ':' :: d₁.registers.active.render id)) :
    let s := d₁.registers.active
    ((start₂.run operations₂).dispatch raw).2 =
        { reply := frame ("SET:".toList ++ s.render id), wake := true } ∧
      ∀ k, ((start₂.run operations₂).dispatch raw).1.get? k =
        if k = id then some { d with
          address := id
          schedule := (d.schedule.setInterval (s.interval * 1000)).setMode s.mode
          registers := { d.registers with active := s, committed := s, committedId := id } }
        else if k = a then none
        else (start₂.run operations₂).get? k := by
  intro s
  have hs : s.InRange := ((inRange_run h₁ operations₁).2.2 hd₁).active
  obtain ⟨hplaced, hmax, -⟩ := inRange_run h₂ operations₂
  exact dispatch_transfer hplaced hmax hd hs hid hfree hraw

/-- A sensor of which all settings have been changed, and some of them up to the next reset only.
Its settings are sent to the second of three sensors, which is moved behind the last one. -/
theorem transfers_settings_unlike :
    let change := Bus.Operation.dispatch (frame "SET:0::300:1:1:7:::".toList)
    let untilReset := Bus.Operation.dispatch (frame "SETNC:0:::::0:1:10:0".toList)
    let settings : Settings := ⟨300, .custom, .continuous, 0, .foot, 10, false⟩
    ∃ start₁ start₂ d, bus 1 = .ok start₁ ∧ bus 3 = .ok start₂ ∧
      ((start₁.run [change, untilReset]).get? 0).map (·.registers.active) = some settings ∧
      start₂.get? 1 = some d ∧
      (start₂.dispatch (frame "SET:1:7:300:1:1:0:1:10:0".toList)).2.reply =
        frame "SET:7:300:1:1:0:1:10:0".toList ∧
      (start₂.dispatch (frame "SET:1:7:300:1:1:0:1:10:0".toList)).1.get? 7 = some
        { d with
          address := 7
          schedule := (d.schedule.setInterval 300000).setMode .continuous
          registers := { d.registers with
            active := settings, committed := settings, committedId := 7 } } ∧
      (start₂.dispatch (frame "SET:1:7:300:1:1:0:1:10:0".toList)).1.get? 1 = none := by
  intro change untilReset settings
  obtain ⟨start₁, h₁, hsettings⟩ : ∃ start, bus 1 = .ok start ∧
      ((start.run [change, untilReset]).get? 0).map (·.registers.active) = some settings :=
    ⟨_, rfl, by decide +kernel⟩
  obtain ⟨d₁, hd₁, hactive⟩ := Option.map_eq_some_iff.1 hsettings
  obtain ⟨start₂, h₂, hd, hfree⟩ : ∃ start, bus 3 = .ok start ∧ start.get? 1 = some (new 1) ∧
      start.get? 7 = none := ⟨_, rfl, rfl, rfl⟩
  have hplain : Text.IsPlain "SET:1:7:300:1:1:0:1:10:0".toList := by decide
  have hraw : Block.Carries separator checksum (frame "SET:1:7:300:1:1:0:1:10:0".toList)
      ("SET:".toList ++ Numeral.ofNat 1 ++ ':' :: d₁.registers.active.render 7) := by
    rw [hactive, show "SET:".toList ++ Numeral.ofNat 1 ++ ':' :: settings.render 7 =
      "SET:1:7:300:1:1:0:1:10:0".toList by decide +kernel]
    exact style.carries_frame hplain
  obtain ⟨hanswer, hafter⟩ :=
    transfers_settings h₁ h₂ [change, untilReset] [] hd₁ hd (by decide) (.inr hfree) hraw
  rw [hactive, Bus.run_nil] at hanswer hafter
  refine ⟨start₁, start₂, new 1, h₁, h₂, hsettings, hd, ?_⟩
  generalize start₂.dispatch (frame "SET:1:7:300:1:1:0:1:10:0".toList) = result at hanswer hafter ⊢
  refine ⟨?_, ?_, ?_⟩
  · rw [hanswer, show "SET:".toList ++ settings.render 7 = "SET:7:300:1:1:0:1:10:0".toList by
      decide +kernel]
  · rw [hafter, if_pos rfl, show settings.interval * 1000 = 300000 by decide]
  · rw [hafter, if_neg (by decide), if_pos rfl]

end VisibilitySensor

end WeatherBus
