import WeatherBus.Proofs.Bus.Address
import WeatherBus.Proofs.Number.Written
import WeatherBus.Proofs.Terminal.AskedFormat

/-! # Reports that are sent back

An instrument answers a keyword with the value of a setting. The same keyword with this value behind
it chooses what has been chosen already.

* **`Terminal.Report`** — a setting that is reported; **`Terminal.SentBack`** — what happens when it
  is sent back;
* **`Terminal.TakesBack`** — what an instrument has to do about its own report;
  `TakesBack.sentBack` says that this is enough for one that is alone on its line;
* **`Terminal.takesBack_interval`**, **`Terminal.takesBack_format`**,
  **`Terminal.takesBack_address`** — the settings of every instrument with a terminal;
  `sentBack_run` says that they can be sent back after every run. -/

namespace WeatherBus

namespace IntervalUnit

/-- The label of a unit is a word. -/
theorem isWord_label (unit : IntervalUnit) : unit.label.IsWord := by
  cases unit with
  | second => exact Text.IsToken.isWord (by decide) (by decide)
  | minute => exact Text.IsToken.isWord (by decide) (by decide)
  | hour => exact Text.IsToken.isWord (by decide) (by decide)

/-- The unit of a short name is read from it. -/
theorem ofLabel?_label (unit : IntervalUnit) : ofLabel? unit.label = some unit := by
  cases unit <;> rfl

end IntervalUnit

namespace Terminal

/-! ## Sending back -/

section SentBack

variable {V S R X : Type}

/-- A setting that an instrument reports. -/
structure Report (V R : Type) where
  /-- The keyword that asks for the setting, and changes it with a value behind it. -/
  keyword : Text
  label : String
  value : Device (Terminal V R) → Text

/-- Choose a format, or go back to the one that the instrument comes with. -/
def withFormat (format : Option (Format V)) (d : Device (Terminal V R)) : Device (Terminal V R) :=
  d.mapRegisters ({ · with format })

/-- The reply to a line: the line itself, if the instrument repeats it, and one report. -/
def Kind.reply (kind : Kind V S R X) (d : Device (Terminal V R)) (line : Text) (label : String)
    (value : Text) : Bytes :=
  let echo := if kind.repeats d.registers.own then line ++ ['\r', '\n'] else []
  Utf8.encode (echo ++ report label value ++ ['\r', '\n'])

/-- A format that is chosen in place of the one that the instrument comes with, and makes no
difference: it is reported alike, and every measurement is the same, whatever is measured. -/
structure Kind.Replaces (kind : Kind V S R X) (format : Format V) : Prop where
  source_eq : format.source = kind.factoryFormat
  measurement_eq : ∀ (timestamp : Timestamp) (d : Device (Terminal V R)),
    d.registers.format = none →
      kind.measurement timestamp (withFormat (some format) d) = kind.measurement timestamp d

/-- What the instrument at an address reports is sent back to it. -/
structure SentBack [Instrument (Terminal V R) (Command X)] (kind : Kind V S R X)
    (bus : Bus (Terminal V R)) (a : Nat) (d : Device (Terminal V R)) (r : Report V R) : Prop where
  /-- It reports the value. -/
  asked : bus.dispatch (Utf8.encode r.keyword) =
    (bus, { reply := kind.reply d r.keyword r.label (r.value d) })
  /-- It accepts the value and reports it. -/
  accepted : ∃ wake, (bus.dispatch (Utf8.encode (r.keyword ++ ' ' :: r.value d))).2 =
    { reply := kind.reply d (r.keyword ++ ' ' :: r.value d) r.label (r.value d), wake }
  /-- Nothing has changed, unless the value is the format that the instrument comes with. -/
  kept : (bus.dispatch (Utf8.encode (r.keyword ++ ' ' :: r.value d))).1 = bus ∨
    (r.keyword = "FORM".toList ∧ d.registers.format = none ∧ ∃ format, kind.Replaces format ∧
      (bus.dispatch (Utf8.encode (r.keyword ++ ' ' :: r.value d))).1 =
        bus.replace a (withFormat (some format) d))
  /-- It reports the same value again. -/
  again : let after := (bus.dispatch (Utf8.encode (r.keyword ++ ' ' :: r.value d))).1
    after.dispatch (Utf8.encode r.keyword) =
      (after, { reply := kind.reply d r.keyword r.label (r.value d) })

end SentBack

/-! ## One instrument -/

section Kind

variable {V S R X : Type} {kind : Kind V S R X} {d : Device (Terminal V R)}
  {request : Request (Command X)}

/-- An instrument that listens obeys all commands that call nobody. -/
theorem apply_of_isListening (h : request.command.callee? = none)
    (hlistens : d.registers.isListening = true) :
    kind.apply request d = kind.obey request.command d := by
  obtain ⟨target, checksum, command, text⟩ := request
  cases command with
  | send callee =>
    obtain rfl : callee = none := h
    simp only [Kind.apply, if_pos hlistens]
  | openLine address => exact absurd h (by simp [Command.callee?])
  | _ => simp only [Kind.apply, if_pos hlistens]

/-- What an instrument has to do about a report of its own. -/
structure TakesBack (kind : Kind V S R X) (d : Device (Terminal V R)) (r : Report V R)
    (format : Option (Format V)) (command : Text → Command X) : Prop where
  understands : kind.Understands r.keyword command
  callee?_eq : ∀ tail, (command tail).callee? = none
  /-- The value is a text that can be sent behind a keyword. -/
  ne_nil : r.value d ≠ []
  trim_eq : Text.trim (r.value d) = r.value d
  asked : kind.obey (command []) d = (d, .ok (.say (report r.label (r.value d))))
  accepted : ∃ outcome, kind.obey (command (' ' :: r.value d)) d =
      (withFormat format d, .ok outcome) ∧
    outcome.reply = .text (report r.label (r.value d)) ∧
    outcome.moveTo.getD d.address = d.address
  again : kind.obey (command []) (withFormat format d) =
    (withFormat format d, .ok (.say (report r.label (r.value d))))

end Kind

/-! ## The settings of every instrument -/

section Kind

variable {V S R X : Type} {kind : Kind V S R X} {d : Device (Terminal V R)}

/-- A number is read from the parameter that is written for it. -/
theorem word?_of_ofNat {params : List Text} {position n : Nat}
    (h : params[position]? = some (Numeral.ofNat n)) (hn : n < 2 ^ 63) :
    Parameter.word? params position = some (n : Int) := by
  have hword : Numeral.IsWord n := ⟨by omega, by omega⟩
  have hread : Numeral.word? (Numeral.ofNat n) = some (n : Int) := Numeral.word?_ofInt hword
  have htrim : Text.trim (Numeral.ofNat n) = Numeral.ofNat n := (Numeral.isToken_ofNat n).trim_eq
  rw [Parameter.word?, Parameter.read?, h, Option.bind_some, htrim, hread]

/-- A number is a word. -/
theorem isWord_ofNat (n : Nat) : (Numeral.ofNat n).IsWord :=
  (Numeral.isToken_ofNat n).isWord (Numeral.ofNat_ne_nil n)

/-- A value of some words behind a blank is not a question, unless it is a question mark. -/
theorem setting_cons {α : Type} {reader : List Text → Option α} {value : Text} {words : List Text}
    {chosen : α} (htrim : Text.trim value = value) (hwords : Text.words value = words)
    (hasks : Parameter.asks words = false) (hread : reader words = some chosen) :
    Command.setting reader (' ' :: value) = .set chosen := by
  rw [Command.setting, Setting.read, Command.params_cons htrim, hwords, hasks]
  simp only [Bool.false_eq_true, if_false, hread]

/-- To choose the interval once more changes nothing. -/
theorem setInterval_self (h : Agrees d) :
    setInterval d.registers.interval d.registers.intervalUnit d = d := by
  rw [setInterval, ← h.interval_eq]
  rfl

/-- The interval with its unit. -/
def Report.interval : Report V R where
  keyword := "INTV".toList
  label := "Output intrv."
  value d := Numeral.ofNat d.registers.interval ++ ' ' :: d.registers.intervalUnit.label

/-- The keyword of the interval is understood. -/
theorem understands_interval : kind.Understands "INTV".toList
    fun tail => .interval (Command.setting Command.interval? tail) := ⟨by decide, by decide, rfl⟩

/-- The report of an interval is taken back. -/
theorem takesBack_interval (hagrees : Agrees d) (hrange : IntervalInRange kind d) :
    TakesBack kind d .interval d.registers.format
      fun tail => .interval (Command.setting Command.interval? tail) := by
  have hblank : Text.isBlank ' ' = true := by decide
  have hnumber := isWord_ofNat d.registers.interval
  have hlabel := d.registers.intervalUnit.isWord_label
  have htrim := hnumber.trim_append_cons (c := ' ') hlabel.ne_nil hlabel.trim_eq
  have hwords := hnumber.words_append_cons hblank d.registers.intervalUnit.label
  rw [hlabel.words_eq] at hwords
  have hread : Command.interval? [Numeral.ofNat d.registers.interval,
      d.registers.intervalUnit.label] =
        some ((d.registers.interval : Int), d.registers.intervalUnit) := by
    have hvalue : Parameter.word? [Numeral.ofNat d.registers.interval,
        d.registers.intervalUnit.label] 0 = some (d.registers.interval : Int) :=
      word?_of_ofNat rfl (Nat.lt_of_le_of_lt hrange.le_max (by decide))
    simp only [Command.interval?, hvalue, IntervalUnit.ofLabel?_label, Option.getD_some,
      Option.map_some, List.getElem?_cons_succ, List.getElem?_cons_zero]
  have hset := setting_cons htrim hwords rfl hread
  refine ⟨understands_interval, fun _ => rfl,
    List.append_ne_nil_of_left_ne_nil hnumber.ne_nil _, htrim, rfl,
    ⟨.sayAndWake d.registers.intervalReport, ?_, rfl, rfl⟩, rfl⟩
  have hin : (kind.minInterval : Int) ≤ d.registers.interval ∧ (d.registers.interval : Int) ≤ 255 :=
    ⟨Int.ofNat_le.2 hrange.minInterval_le, Int.ofNat_le.2 hrange.le_max⟩
  rw [Report.interval, hset, Kind.obey, Kind.chooseInterval, if_pos hin, Int.toNat_natCast,
    setInterval_self hagrees]
  rfl

/-- The address. -/
def Report.address : Report V R where
  keyword := "ADDR".toList
  label := "Address"
  value d := Numeral.ofNat d.address

/-- So is the one of the address. -/
theorem understands_address : kind.Understands "ADDR".toList fun tail => .address
    (Command.setting (fun params =>
      (Parameter.word? params 0).or kind.addressRule.unreadable) tail) :=
  ⟨by decide, by decide, rfl⟩

/-- The report of an address is taken back. -/
theorem takesBack_address (hle : d.address ≤ kind.maxAddress) (hmax : kind.maxAddress < 2 ^ 63) :
    TakesBack kind d .address d.registers.format fun tail => .address (Command.setting
      (fun params => (Parameter.word? params 0).or kind.addressRule.unreadable) tail) := by
  have hnumber := isWord_ofNat d.address
  have hasks : Parameter.asks [Numeral.ofNat d.address] = false := by
    rw [Parameter.asks, Parameter.isQuery, hnumber.trim_eq, beq_eq_false_iff_ne]
    -- Digits are letters of a token, and a question mark is not.
    intro heq
    exact absurd (heq ▸ Numeral.isToken_ofNat d.address) (by decide)
  have hread : (Parameter.word? [Numeral.ofNat d.address] 0).or kind.addressRule.unreadable =
      some (d.address : Int) := by
    rw [word?_of_ofNat rfl (Nat.lt_of_le_of_lt hle hmax), Option.some_or]
  have hset : Command.setting (fun params =>
      (Parameter.word? params 0).or kind.addressRule.unreadable) (' ' :: Numeral.ofNat d.address) =
        .set (d.address : Int) := setting_cons hnumber.trim_eq hnumber.words_eq hasks hread
  refine ⟨understands_address, fun _ => rfl, hnumber.ne_nil, hnumber.trim_eq, rfl,
    ⟨.sayFrom d.address (Kind.addressReport d.address), ?_, rfl, rfl⟩, rfl⟩
  have hin : (0 : Int) ≤ d.address ∧ (d.address : Int) ≤ kind.maxAddress :=
    ⟨Int.natCast_nonneg _, Int.ofNat_le.2 hle⟩
  rw [Report.address, hset, Kind.obey, Kind.chooseAddress, if_pos hin, Int.toNat_natCast]
  rfl

/-- The text of the format in force. -/
def Kind.formatInForce (kind : Kind V S R X) : Report V R where
  keyword := "FORM".toList
  label := "Output format"
  value d := kind.formatSource d.registers

/-- And so is the one of the format. -/
theorem understands_format : kind.Understands "FORM".toList Command.formatOf :=
  ⟨by decide, by decide, rfl⟩

/-- The report of a format is taken back. The format that the instrument comes with is chosen like
any other. -/
theorem takesBack_format {format : Format V}
    (hcompile : Format.compile kind.vocabulary (kind.formatSource d.registers) = .ok format)
    (hasks : AsksForFormat (kind.formatSource d.registers)) :
    TakesBack kind d kind.formatInForce (some format) Command.formatOf := by
  have hbare : (Command.formatOf [] : Command X) = .format .query := rfl
  refine ⟨understands_format, fun tail => ?_, hasks.ne_nil, hasks.trim_eq, ?_,
    ⟨.say (Kind.formatReport (kind.formatSource d.registers)), ?_, rfl, rfl⟩, ?_⟩
  · rw [Command.formatOf]
    split
    · rfl
    · rfl
  · rw [hbare]
    rfl
  · rw [Kind.formatInForce, hasks.formatOf_cons, Kind.obey, Kind.chooseFormat, hcompile]
    rfl
  · have hsource : format.source = kind.formatSource d.registers := source_of_compile hcompile
    have hsay := congrArg (fun source => (withFormat (some format) d,
      (Except.ok (.say (Kind.formatReport source)) : Except Fault Outcome))) hsource
    rw [hbare]
    exact hsay

end Kind

/-! ## Alone on a line -/

section Operated

variable {V R X : Type} [Instrument (Terminal V R) (Command X)] [Operated V R]
  {bus : Bus (Terminal V R)} {a : Nat} {d e : Device (Terminal V R)} {frame : Bytes}
  {request : Request (Command X)} {outcome : Outcome} {body : Text} {r : Report V R}
  {command : Text → Command X} {format : Option (Format V)}

/-- An instrument that is alone on its line. -/
structure Alone (bus : Bus (Terminal V R)) (a : Nat) (d : Device (Terminal V R)) : Prop where
  size_eq : bus.size = 1
  get?_eq : bus.get? a = some d
  address_eq : d.address = a
  le_maxAddress : a ≤ bus.maxAddress
  isListening : d.registers.isListening = true

/-- It obeys what is read, stays where it is, and answers. -/
theorem Alone.dispatch_eq (h : Alone bus a d)
    (hread : (Operated.kind (V := V) (R := R)).read frame = .ok request)
    (hcallee : request.command.callee? = none)
    (hobey : Operated.kind.obey request.command d = (e, .ok outcome))
    (hreply : outcome.reply = .text body) (hmove : outcome.moveTo.getD d.address = d.address)
    (haddress : e.address = d.address) :
    bus.dispatch frame = (bus.replace a e,
      { reply := Operated.kind.encodeReply request e body, wake := outcome.wake }) := by
  have hinstrument : Instrument.read (Terminal V R) frame = .ok request := by
    rw [Operated.read_eq, hread]
  have hresolve : bus.resolve request.target = .ok [a] := by
    rw [resolve_of_read hinstrument bus, Bus.addresses_eq_singleton h.size_eq h.get?_eq]
  have happly : Instrument.apply request d = (e, .ok outcome) := by
    rw [Operated.apply_eq, apply_of_isListening hcallee h.isListening, hobey]
  rw [Bus.dispatch_of_singleton hinstrument hresolve]
  simp only [Bus.dispatchTo, h.get?_eq, permit_of_read hinstrument, happly, Bus.settle]
  cases hasked : outcome.moveTo with
  | none => simp only [Bus.answer, hreply, Operated.encodeReply_eq]
  | some new =>
    -- It is moved to where it is.
    obtain rfl : new = d.address := by rwa [hasked] at hmove
    have hthere : (bus.replace a e).get? e.address = some e := by
      rw [Bus.get?_replace, haddress, h.address_eq, if_pos rfl, h.get?_eq, Option.map_some]
    have hstay : (bus.replace a e).reassign e.address d.address = .ok (bus.replace a e) :=
      Bus.reassign_eq_ok_iff.2
        ⟨h.address_eq.trans_le h.le_maxAddress, e, hthere, .inl ⟨haddress, rfl⟩⟩
    have hself : { e with address := d.address } = e := by rw [← haddress]
    simp only [hstay, hself, Bus.answer, hreply, Operated.encodeReply_eq]

/-- A device that is alone stays so with another format. -/
theorem Alone.withFormat (h : Alone bus a d) (format : Option (Format V)) :
    Alone (bus.replace a (withFormat format d)) a (withFormat format d) where
  size_eq := (List.length_map _).trans h.size_eq
  get?_eq := by rw [Bus.get?_replace, if_pos rfl, h.get?_eq, Option.map_some]
  address_eq := h.address_eq
  le_maxAddress := h.le_maxAddress
  isListening := h.isListening

/-- What an instrument does about a report of its own is what happens when it is sent back. -/
theorem TakesBack.sentBack (h : TakesBack Operated.kind d r format command)
    (halone : Alone bus a d)
    (hkept : format = d.registers.format ∨ (r.keyword = "FORM".toList ∧
      d.registers.format = none ∧ ∃ chosen, format = some chosen ∧
        (Operated.kind (V := V) (R := R)).Replaces chosen)) :
    SentBack Operated.kind bus a d r := by
  have hbare := h.understands.read_bare Operated.isToken_keyword
  have hwith := h.understands.read_with Operated.isToken_keyword h.ne_nil h.trim_eq
  obtain ⟨outcome, hobey, hreply, hmove⟩ := h.accepted
  -- What the three lines do: the question, the value, and the question once more.
  have hasked := halone.dispatch_eq hbare (h.callee?_eq _) h.asked rfl rfl rfl
  have haccepted := halone.dispatch_eq hwith (h.callee?_eq _) hobey hreply hmove rfl
  have hagain := (halone.withFormat format).dispatch_eq hbare (h.callee?_eq _) h.again rfl rfl rfl
  rw [Bus.replace_self halone.get?_eq] at hasked
  rw [Bus.replace_self (halone.withFormat format).get?_eq] at hagain
  refine ⟨hasked, ⟨outcome.wake, ?_⟩, ?_, ?_⟩
  · rw [haccepted]
    rfl
  · rw [haccepted]
    rcases hkept with rfl | ⟨hkeyword, hnone, chosen, rfl, hreplaces⟩
    · exact .inl (Bus.replace_self halone.get?_eq)
    · exact .inr ⟨hkeyword, hnone, chosen, hreplaces, rfl⟩
  · rw [haccepted]
    exact hagain

end Operated

/-! ## Every run -/

/-- The settings that every instrument reports and takes back. -/
def Kind.reports {V S R X : Type} (kind : Kind V S R X) : List (Report V R) :=
  [.interval, kind.formatInForce, .address]

section Kind

variable {V S R X : Type} {kind : Kind V S R X} {format : Format V}

/-- The constants of a kind are such that what it comes with can be chosen. -/
structure Kind.ComesChosen (kind : Kind V S R X) : Prop where
  minInterval_le : kind.minInterval ≤ 1
  maxAddress_lt : kind.maxAddress < 2 ^ 63
  asksForFormat : AsksForFormat kind.factoryFormat
  isSome_compile : (Format.compile kind.vocabulary kind.factoryFormat).toOption.isSome = true
  /-- What a measurement shows does not depend on its format. -/
  snapshot_eq : ∀ (timestamp : Timestamp) (d : Device (Terminal V R)) (format : Option (Format V)),
    kind.snapshot timestamp (withFormat format d) = kind.snapshot timestamp d

/-- The format that a new device comes with can be read. -/
theorem Kind.ComesChosen.exists_compile (h : kind.ComesChosen) :
    ∃ format, Format.compile kind.vocabulary kind.factoryFormat = .ok format := by
  have hsome := h.isSome_compile
  cases hcompile : Format.compile kind.vocabulary kind.factoryFormat with
  | ok format => exact ⟨format, rfl⟩
  | error fault =>
    rw [hcompile] at hsome
    exact absurd hsome Bool.false_ne_true

/-- Then to choose the format that an instrument comes with makes no difference. -/
theorem Kind.ComesChosen.replaces (h : kind.ComesChosen)
    (hcompile : Format.compile kind.vocabulary kind.factoryFormat = .ok format) :
    kind.Replaces format where
  source_eq := source_of_compile hcompile
  measurement_eq timestamp d hnone := by
    rw [Kind.measurement, Kind.measurement, h.snapshot_eq, hnone, hcompile]
    rfl

/-- A bus that starts with one instrument has one. -/
theorem Kind.size_bus_one {start : Bus (Terminal V R)} (h : kind.bus 1 = .ok start) :
    start.size = 1 := by
  rw [Kind.bus] at h
  split at h
  · exact absurd h (by simp)
  · have hinsert : (Bus.empty kind.maxAddress).insert (kind.new .stop 0) = .ok start :=
      (bind_pure _).symm.trans h
    have hlength := (Bus.toList_insert_perm hinsert).length_eq
    rwa [Bus.toList, List.length_map] at hlength

end Kind

section Runs

variable {V R X : Type} [Instrument (Terminal V R) (Command X)] [Operated V R]
  [Conducted (Terminal V R)] {start : Bus (Terminal V R)} {a : Nat} {d : Device (Terminal V R)}

/-- The instrument of a bus that starts with one is alone after every run. -/
theorem alone_run (h : (Operated.kind (V := V) (R := R)).bus 1 = .ok start)
    (operations : List Bus.Operation) (hd : (start.run operations).get? a = some d)
    (hlistens : d.registers.isListening = true) : Alone (start.run operations) a d where
  size_eq := (Bus.invariant_size 1).run operations (Kind.size_bus_one h)
  get?_eq := hd
  address_eq := (agrees_run h operations).1.address_eq hd
  le_maxAddress := (agrees_run h operations).1.le_maxAddress hd
  isListening := hlistens

/-- After every run, the common settings can be sent back as they are reported. -/
theorem sentBack_run (hkind : (Operated.kind (V := V) (R := R)).ComesChosen)
    (h : (Operated.kind (V := V) (R := R)).bus 1 = .ok start)
    (operations : List Bus.Operation) (hd : (start.run operations).get? a = some d)
    (hlistens : d.registers.isListening = true) :
    ∀ r ∈ (Operated.kind (V := V) (R := R)).reports,
      SentBack Operated.kind (start.run operations) a d r := by
  have halone := alone_run h operations hd hlistens
  obtain ⟨-, hmax, hagrees⟩ := agrees_run h operations
  have hrange := (intervalInRange_run hkind.minInterval_le h operations).2.2 hd
  have haddress : d.address ≤ (Operated.kind (V := V) (R := R)).maxAddress := by
    rw [halone.address_eq, ← hmax]
    exact halone.le_maxAddress
  rw [Kind.reports, List.forall_mem_cons, List.forall_mem_cons, List.forall_mem_singleton]
  refine ⟨(takesBack_interval (hagrees hd) hrange).sentBack halone (.inl rfl), ?_,
    (takesBack_address haddress hkind.maxAddress_lt).sentBack halone (.inl rfl)⟩
  cases hformat : d.registers.format with
  | some format =>
    obtain ⟨hcompile, hasks⟩ := (holdsAsked_run h operations).2.2 hd format hformat
    have hsource : Operated.kind.formatSource d.registers = format.source := by
      rw [Kind.formatSource, hformat]
      rfl
    rw [← hsource] at hcompile hasks
    exact (takesBack_format hcompile hasks).sentBack halone (.inl hformat.symm)
  | none =>
    -- The text in force was never asked for, so it has to be checked that it can be.
    obtain ⟨format, hcompile⟩ := hkind.exists_compile
    have hsource : Operated.kind.formatSource d.registers =
        (Operated.kind (V := V) (R := R)).factoryFormat := by
      rw [Kind.formatSource, hformat]
      rfl
    have hreplaces := hkind.replaces hcompile
    have hasks := hkind.asksForFormat
    rw [← hsource] at hcompile hasks
    exact (takesBack_format hcompile hasks).sentBack halone
      (.inr ⟨rfl, hformat, format, rfl, hreplaces⟩)

end Runs

end Terminal

end WeatherBus
