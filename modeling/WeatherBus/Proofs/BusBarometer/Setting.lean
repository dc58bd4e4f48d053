import WeatherBus.Proofs.Bus.Address
import WeatherBus.Proofs.BusBarometer.Effect
import WeatherBus.Proofs.BusBarometer.Language

/-! # The setting in force

A barometer answers a command for one of its settings with the setting that it has then, whether the
command was carried out, in part, or not at all.

* **`BusBarometer.SettingLetter`** — the settings, with the letters of their commands, and with
  their texts, which can be read back (`SettingLetter.number?_seconds`);
* **`BusBarometer.Tells`** — an answer that tells the setting in force; `tells_apply` says that
  every command for a setting is answered so;
* **`BusBarometer.SettingLine`** — a line that asks one barometer for a setting or changes it;
* **`BusBarometer.replies_with_setting`** — the reply to such a line is the reply to a question for
  the setting right behind it. -/

namespace WeatherBus

namespace BusBarometer

/-! ## Settings -/

/-- A setting that is asked for and changed by a letter. -/
inductive SettingLetter where
  | autoSend
  | address
  | unit
  | filter
  | checksum
deriving DecidableEq

namespace SettingLetter

/-- The letter. -/
def char : SettingLetter → Char
  | autoSend => 'A'
  | address => 'N'
  | unit => 'U'
  | filter => 'F'
  | checksum => 'C'

/-- The command that asks for the setting. -/
def query : SettingLetter → Command
  | autoSend => .queryAutoSend
  | address => .queryAddress
  | unit => .queryUnit
  | filter => .queryFilter
  | checksum => .queryChecksum

/-- The command that changes the setting by some parameters. -/
def change (params : List Text) : SettingLetter → Command
  | autoSend => .autoSend (Command.word? params 0) (Command.number? params 1)
  | address => .setAddress (Command.word params 0)
  | unit => .setUnit (Command.word params 0)
  | filter => .setFilter (Command.word params 0)
  | checksum => .setChecksum (Command.word params 0)

/-- The command of the letter with some parameters. -/
def command (letter : SettingLetter) (params : List Text) : Command :=
  if Parameter.asks params then letter.query else letter.change params

/-- The setting of a barometer as text. -/
def setting (d : Device BusBarometer) : SettingLetter → Text
  | autoSend => Numeral.ofNat d.registers.format ++ ',' :: seconds d.registers.interval
  | address => Numeral.ofNat d.address
  | unit => Numeral.ofNat d.registers.unitCode
  | filter => Numeral.ofNat d.registers.filter
  | checksum => Numeral.ofNat (if d.registers.checked then 1 else 0)

/-- The interval is told by its value in seconds: what the reply says is read as the double of
`k · 10 ^ -places`, which are so many hundredths. -/
theorem number?_seconds (hundredths : Nat) :
    ∃ k places : Nat, Reader.number? (seconds hundredths) =
      some (Reader.scientific k (-(places : Int))) ∧
      places ≤ 2 ∧ k * 10 ^ (2 - places) = hundredths :=
  Reader.number?_positional hundredths 2

/-- Fifteen and a half seconds. -/
example : seconds 1550 = "15.5".toList := by decide

/-- A letter stands for its commands. -/
theorem lookup_letters (letter : SettingLetter) :
    Command.letters.entries.lookup [letter.char] = some letter.command := by
  cases letter with
  | autoSend => rfl
  | address => rfl
  | unit => rfl
  | filter => rfl
  | checksum => rfl

end SettingLetter

/-! ## Answers -/

section Answers

variable {letter : SettingLetter} {request : Request Command} {d : Device BusBarometer}
  {params : List Text} {fault : Fault}

/-- An answer that tells the setting in force. -/
inductive Tells (letter : SettingLetter) (request : Request Command) (d : Device BusBarometer) :
    Device BusBarometer × Except Fault Outcome → Prop where
  /-- The command is carried out. -/
  | said {changed : Device BusBarometer} {outcome : Outcome}
      (hreply : outcome.reply =
        .text (letter.setting { changed with address := outcome.moveTo.getD d.address }))
      (hmove : ∀ new, outcome.moveTo = some new →
        new ≤ maxAddress ∧ request.command = .setAddress new) :
      Tells letter request d (changed, .ok outcome)
  /-- The command is refused, or carried out in part. -/
  | refused {changed : Device BusBarometer} {fault : Fault}
      (h : refusalText request.command changed fault = letter.setting changed) :
      Tells letter request d (changed, .error fault)

/-- A fault of a parameter is answered with the setting in force, if the command has one. -/
theorem refusalText_of_isParameterFault (h : fault.isParameterFault = true) (command : Command) :
    refusalText command d fault = (settingInForce? command d).getD "ERR".toList := by
  cases fault with
  | outOfRange parameter value low high => rfl
  | invalidParameter reason => rfl
  | _ => exact absurd h (by simp [Fault.isParameterFault])

/-- A change that is refused is about the setting that it would have changed. -/
theorem settingInForce?_change (letter : SettingLetter) (params : List Text)
    (d : Device BusBarometer) :
    settingInForce? (letter.change params) d = some (letter.setting d) := by
  cases letter with
  | autoSend => rfl
  | address => rfl
  | unit => rfl
  | filter => rfl
  | checksum =>
    simp only [SettingLetter.change, settingInForce?, SettingLetter.setting]
    cases d.registers.checked <;> rfl

/-- A fault of a parameter is answered with the setting in force. -/
theorem Tells.of_isParameterFault {changed : Device BusBarometer}
    (h : request.command = letter.change params) (hfault : fault.isParameterFault = true) :
    Tells letter request d (changed, .error fault) := by
  refine .refused ?_
  rw [h, refusalText_of_isParameterFault hfault, settingInForce?_change, Option.getD_some]

/-- What passes the check is the number itself. -/
theorem eq_of_upTo {name : String} {high value : Nat} {n : Int}
    (h : upTo name high n = .ok value) : n = value := by
  unfold upTo at h
  split at h
  · rename_i hrange
    obtain rfl := Except.ok.inj h
    exact (Int.toNat_of_nonneg hrange.1).symm
  · exact absurd h (by simp)

/-- What is stored is the setting afterwards. -/
theorem Tells.store {name : String} {high : Nat} {n : Int}
    {put : Nat → BusBarometer → BusBarometer} (h : request.command = letter.change params)
    (hput : ∀ value ≤ high, letter.setting (d.mapRegisters (put value)) = Numeral.ofNat value) :
    Tells letter request d (store name high n put d) := by
  rw [BusBarometer.store]
  cases hcheck : upTo name high n with
  | ok value =>
    refine .said ?_ (by simp [Outcome.say])
    exact congrArg Reply.text (hput value (le_of_upTo hcheck)).symm
  | error fault => exact .of_isParameterFault h (isParameterFault_of_upTo hcheck)

/-- The command for format and interval tells both. -/
theorem tells_autoSend {format : Option Int} {interval : Option Float}
    (h : request.command = SettingLetter.autoSend.change params) :
    Tells .autoSend request d (autoSend format interval d) := by
  simp only [autoSend]
  split
  · rename_i fault hfault
    refine .of_isParameterFault h ?_
    rw [Option.or_eq_some_iff] at hfault
    rcases hfault with hformat | ⟨-, hinterval⟩
    · exact isParameterFault_of_chooseFormat hformat
    · exact isParameterFault_of_chooseInterval hinterval
  · exact .said rfl (by simp [Outcome.sayAndWake])

/-- A change of a setting is answered with the setting that is in force then. -/
theorem tells_change (h : request.command = letter.change params) :
    Tells letter request d (Instrument.apply request d) := by
  obtain ⟨target, checksum, command, text⟩ := request
  obtain rfl : command = letter.change params := h
  cases letter with
  | autoSend => exact tells_autoSend rfl
  | address =>
    simp only [Instrument.apply, apply, SettingLetter.change]
    cases hcheck : upTo "address" maxAddress (Command.word params 0) with
    | ok address =>
      refine .said rfl fun new hnew => ?_
      obtain rfl : address = new := Option.some.inj hnew
      exact ⟨le_of_upTo hcheck, congrArg Command.setAddress (eq_of_upTo hcheck)⟩
    | error fault => exact .of_isParameterFault rfl (isParameterFault_of_upTo hcheck)
  | unit => exact .store rfl fun _ _ => rfl
  | filter => exact .store rfl fun _ _ => rfl
  | checksum =>
    -- The setting is kept as a truth value and told as a number.
    refine .store rfl fun value hle => ?_
    obtain rfl | rfl := Nat.le_one_iff_eq_zero_or_eq_one.1 hle
    · rfl
    · rfl

/-- The answer to a question for a setting. -/
theorem apply_query (h : request.command = letter.query) :
    Instrument.apply request d = (d, .ok (.say (letter.setting d))) := by
  obtain ⟨target, checksum, command, text⟩ := request
  obtain rfl : command = letter.query := h
  cases letter with
  | autoSend => rfl
  | address => rfl
  | unit => rfl
  | filter => rfl
  | checksum =>
    simp only [Instrument.apply, apply, SettingLetter.query, SettingLetter.setting]
    cases d.registers.checked <;> rfl

/-- Every command for a setting is answered with the setting that is in force then. -/
theorem tells_apply (h : request.command = letter.command params) :
    Tells letter request d (Instrument.apply request d) := by
  rw [SettingLetter.command] at h
  split at h
  · rw [apply_query h]
    exact .said rfl (by simp [Outcome.say])
  · exact tells_change h

end Answers

/-! ## Lines -/

/-- A line that asks for a setting, or changes it. -/
structure SettingLine where
  letter : SettingLetter
  /-- For whom it is. -/
  target : Target
  /-- Blanks in front of the line. -/
  margin : Text
  /-- What stands in front of the letter. -/
  front : Text
  /-- The letter as it is written, as a capital or not. -/
  word : Text
  /-- What follows the letter. -/
  tail : Text
  /-- What follows the `*` of the checksum, if there is one. -/
  sum : Option Text
  isBlank : ∀ c ∈ margin, Text.isBlank c = true
  isFront : Front front target
  alike : Text.alike word [letter.char] = true
  endsWord : Command.letters.endsWord tail = true
  /-- The checksum is right. Without one there is no `*` in the line. -/
  isSum : match sum with
    | none => '*' ∉ tail
    | some field =>
      Command.IsSumField field (Checksum.xor (Utf8.encode (front ++ (word ++ tail)))).toNat

namespace SettingLine

variable {line query : SettingLine} {bus : Bus BusBarometer} {a : Nat} {d : Device BusBarometer}

/-- Its bytes. -/
def frame (line : SettingLine) : Bytes :=
  let text := line.front ++ (line.word ++ line.tail)
  Utf8.encode (line.margin ++ match line.sum with
    | none => text
    | some field => Command.summed text field)

/-- The parameters behind the letter. -/
def params (line : SettingLine) : List Text := Parameter.split ',' line.tail

/-- The command of the line. -/
def command (line : SettingLine) : Command := line.letter.command line.params

/-- A barometer that needs a checksum gets one. -/
def Suits (line : SettingLine) (d : Device BusBarometer) : Prop :=
  d.registers.checked = true → line.sum.isSome = true

/-- What is read from the line. -/
theorem read_frame (line : SettingLine) : ∃ text, Command.read line.frame =
    .ok ⟨line.target, if line.sum.isSome then .valid else .absent, line.command, text⟩ := by
  have hletter := line.letter.lookup_letters
  have hsum := line.isSum
  simp only [frame, Command.read_append_of_isBlank line.isBlank]
  split at hsum
  · rename_i hnone
    simp only [hnone]
    exact line.isFront.read_plain hletter line.alike line.endsWord hsum
  · rename_i field hsome
    simp only [hsome]
    exact line.isFront.read_checked hletter line.alike line.endsWord hsum

/-- A line for one barometer does what the turn of this barometer does, which may carry it out. -/
theorem dispatch_frame (hresolve : bus.resolve line.target = .ok [a]) (hsuits : line.Suits d) :
    ∃ request : Request Command, request.command = line.command ∧
      bus.permit request d = .ok () ∧ bus.dispatch line.frame = bus.dispatchTo request a := by
  obtain ⟨text, hread⟩ := line.read_frame
  refine ⟨_, rfl, Bus.permit_eq_ok ?_ ?_, Bus.dispatch_of_singleton hread hresolve⟩
  · cases hsum : line.sum.isSome with
    | true => exact .inl rfl
    | false =>
      refine .inr ⟨rfl, Bool.eq_false_iff.2 fun hneeds => ?_⟩
      rw [hsuits hneeds] at hsum
      cases hsum
  · exact fun new hnew => nomatch hnew

/-- A question for a setting changes nothing and is answered with it. -/
theorem dispatch_query (hd : bus.get? a = some d) (hresolve : bus.resolve query.target = .ok [a])
    (hasks : Parameter.asks query.params = true) (hsuits : query.Suits d) :
    bus.dispatch query.frame =
      (bus, { reply := BusBarometer.frame d (query.letter.setting d) }) := by
  obtain ⟨request, hcommand, hpermit, hdispatch⟩ := dispatch_frame hresolve hsuits
  have happly : Instrument.apply request d = (d, .ok (.say (query.letter.setting d))) := by
    refine apply_query ?_
    rw [hcommand, command, SettingLetter.command, if_pos hasks]
  simp only [hdispatch, Bus.dispatchTo, hd, hpermit, happly, Bus.settle, Outcome.say,
    Bus.replace_self hd]
  rfl

/-- After a line for one barometer, this barometer has told the setting that is in force then, and
all others are as they were. -/
theorem dispatch_tells (hp : bus.WellPlaced) (hmax : bus.maxAddress = maxAddress)
    (hd : bus.get? a = some d) (hresolve : bus.resolve line.target = .ok [a])
    (hsuits : line.Suits d)
    (hfree : ∀ new : Nat, line.command = .setAddress new → new = a ∨ bus.get? new = none) :
    ∃ e : Device BusBarometer, e.serial = d.serial ∧
      (∀ k, (bus.dispatch line.frame).1.get? k =
        if k = e.address then some e else if k = a then none else bus.get? k) ∧
      (bus.dispatch line.frame).2.reply = BusBarometer.frame e (line.letter.setting e) := by
  obtain ⟨request, hcommand, hpermit, hdispatch⟩ := dispatch_frame hresolve hsuits
  have hretained := (Conducted.conduct request d).retains
  have htells : Tells line.letter request d (Instrument.apply request d) := tells_apply hcommand
  rw [hdispatch]
  generalize happly : Instrument.apply request d = result at hretained htells
  cases htells with
  | @said changed outcome hreply hmove =>
    -- The answer comes from the address that is asked for, which has to be free for that.
    have hnew : outcome.moveTo.getD a ≤ bus.maxAddress ∧
        (outcome.moveTo.getD a = a ∨ bus.get? (outcome.moveTo.getD a) = none) := by
      cases hasked : outcome.moveTo with
      | none => exact ⟨hp.le_maxAddress hd, .inl rfl⟩
      | some new =>
        obtain ⟨hle, hset⟩ := hmove new hasked
        exact ⟨hmax ▸ hle, hfree new (hcommand ▸ hset)⟩
    obtain ⟨after, hafter, hview⟩ :=
      Bus.exists_dispatchTo hp hd hpermit happly rfl hnew.1 hnew.2
    rw [hp.address_eq hd] at hreply
    refine ⟨{ changed with address := outcome.moveTo.getD a }, hretained.serial, ?_, ?_⟩
    · rw [hafter]
      exact hview
    · rw [hafter, Bus.answer, hreply]
      rfl
  | @refused changed fault hrefusal =>
    -- A refusal is no move, but some of the registers may be new.
    have haddress : changed.address = a := hretained.address.trans (hp.address_eq hd)
    rw [Bus.dispatchTo_of_error hd hpermit happly]
    refine ⟨changed, hretained.serial, fun k => ?_, ?_⟩
    · rw [haddress, Bus.get?_replace]
      split
      · rename_i hk
        rw [hk, hd, Option.map_some]
      · rfl
    · exact congrArg (BusBarometer.frame changed) hrefusal

end SettingLine

/-! ## Replies -/

/-- In every run, a line for one barometer that asks for a setting or changes it is answered with
the setting in force, if no other barometer has the address that it asks for. Whether it was carried
out, in part or not at all, its reply is the reply to every question for the setting that is sent to
the barometer right behind it. -/
theorem replies_with_setting {count : Nat} {start : Bus BusBarometer} (h : bus count = .ok start)
    (operations : List Bus.Operation) {a : Nat} {d : Device BusBarometer}
    (hd : (start.run operations).get? a = some d) (line : SettingLine)
    (hresolve : (start.run operations).resolve line.target = .ok [a]) (hsuits : line.Suits d)
    (hfree : ∀ new : Nat, line.command = .setAddress new →
      new = a ∨ (start.run operations).get? new = none) :
    let result := (start.run operations).dispatch line.frame
    ∃ e : Device BusBarometer, e.serial = d.serial ∧
      (∀ k, result.1.get? k = if k = e.address then some e else if k = a then none
        else (start.run operations).get? k) ∧
      result.2.reply = frame e (line.letter.setting e) ∧
      ∀ query : SettingLine, query.letter = line.letter → Parameter.asks query.params = true →
        result.1.resolve query.target = .ok [e.address] → query.Suits e →
        result.1.dispatch query.frame = (result.1, { reply := result.2.reply }) := by
  obtain ⟨hplaced, hmax, -⟩ := inRange_run h operations
  generalize start.run operations = bus at hd hresolve hfree hplaced hmax ⊢
  intro result
  obtain ⟨e, hserial, hview, hreply⟩ :=
    SettingLine.dispatch_tells hplaced hmax hd hresolve hsuits hfree
  refine ⟨e, hserial, hview, hreply, fun query hletter hasks hquery hneeds => ?_⟩
  have he : result.1.get? e.address = some e := by rw [hview, if_pos rfl]
  rw [SettingLine.dispatch_query he hquery hasks hneeds, hletter, hreply]

/-- A line that moves a barometer. -/
def moving : SettingLine where
  letter := .address
  target := .address 1
  margin := [' ']
  front := "01: ".toList
  word := ['n']
  tail := " , 5 ".toList
  sum := some " 4c ".toList
  isBlank := List.forall_mem_singleton.2 rfl
  isFront := show Front (Numeral.zeroPadded 2 1 ++ ':' :: [' ']) (.address 1) from
    .address (writesAddress_zeroPadded 2 (by decide)) (by decide) (List.forall_mem_singleton.2 rfl)
  alike := by decide
  endsWord := by decide
  isSum := ⟨by decide, by decide +kernel⟩

/-- A line that asks it for its address there. -/
def asking : SettingLine where
  letter := .address
  target := .address 5
  margin := [' ']
  front := "5:".toList
  word := ['N']
  tail := ",?".toList
  sum := some "52".toList
  isBlank := List.forall_mem_singleton.2 rfl
  isFront := show Front (Numeral.zeroPadded 1 5 ++ ':' :: []) (.address 5) from
    .address (writesAddress_zeroPadded 1 (by decide)) (by decide) (List.forall_mem_nil _)
  alike := by decide
  endsWord := by decide
  isSum := ⟨by decide, by decide +kernel⟩

/-- A barometer with checksums is moved, and replies from its new address as it does to the question
that is sent there. -/
theorem replies_with_setting_moved :
    ∃ start : Bus BusBarometer, BusBarometer.bus 2 = .ok start ∧
      let bus := start.run [.dispatch (Utf8.encode "1:C,1".toList)]
      let result := bus.dispatch (Utf8.encode " 01: n , 5 * 4c ".toList)
      result.2.reply = Utf8.encode "05:5*0A\r\n".toList ∧
      result.1.dispatch (Utf8.encode " 5:N,?*52".toList) =
        (result.1, { reply := result.2.reply }) := by
  have hbus : BusBarometer.bus 2 = .ok _ := rfl
  have hmoving : moving.frame = Utf8.encode " 01: n , 5 * 4c ".toList := by decide +kernel
  have hasking : asking.frame = Utf8.encode " 5:N,?*52".toList := by decide +kernel
  have hcommand : moving.command = .setAddress 5 := by decide +kernel
  obtain ⟨e, -, hview, -, hquery⟩ := replies_with_setting hbus
    [.dispatch (Utf8.encode "1:C,1".toList)] rfl moving rfl (fun _ => rfl) fun new hnew => by
      rw [hcommand, Command.setAddress.injEq] at hnew
      obtain rfl : 5 = new := Int.ofNat.inj hnew
      exact .inr rfl
  -- The barometer is where the view has it, which is at the address that was free.
  have hat : 5 = e.address := by
    by_contra hne
    have hfive := hview 5
    rw [if_neg hne] at hfive
    exact absurd (congrArg Option.isSome hfive) (by decide +kernel)
  have hreply := hquery asking rfl (by decide +kernel) (by rw [← hat]; rfl) fun _ => rfl
  rw [hmoving, hasking] at hreply
  exact ⟨_, hbus, by decide +kernel, hreply⟩

end BusBarometer

end WeatherBus
