import WeatherBus.Proofs.Bus.Log
import WeatherBus.Proofs.Emulator.Flow
import WeatherBus.Proofs.Emulator.Projection
import WeatherBus.Proofs.Feed
import WeatherBus.Proofs.Kinds

/-! # From the feed to the devices

Both paths fetch lines of the same feed, and each line is taken in by all devices in a later step.
Between the two steps the line is in flight, and the other path may fetch later lines and have them
taken in meanwhile.

* **`Intake`** — what has been fetched, what is in flight, and what has been taken in;
* **`Intake.Describes`** — an intake agrees with an emulator; `Describes.follow` says that it
  does so in every run;
* **`Emulator.logs_eq_intake`** — the samples of every device, in every run of every kind of
  instrument;
* **`Emulator.log_overtaken`** — a line that is in flight may be overtaken. -/

namespace WeatherBus

open scoped List

/-! ## Lines on their way -/

/-- Lines on their way from the feed to the devices. -/
structure Intake where
  /-- All that was fetched, in the order of the feed. -/
  fetched : List Fetch := []
  /-- What has not been taken in yet, in the order of the feed. -/
  inFlight : List Fetch := []
  /-- What has been taken in, in this order. -/
  taken : List Fetch := []
deriving DecidableEq, Repr

namespace Intake

/-- The lines fetched by a path. -/
def along (path : Path) (lines : List Fetch) : List Fetch := lines.filter fun f => f.path = path

/-- The lines not fetched by a path. -/
def apart (path : Path) (lines : List Fetch) : List Fetch := lines.filter fun f => f.path ≠ path

/-- The lines after one of them was moved. -/
def move (i : Intake) : Emulator.Move → Intake
  | .fetch f => { i with fetched := i.fetched ++ [f], inFlight := i.inFlight ++ [f] }
  | .take path =>
    { i with inFlight := apart path i.inFlight, taken := i.taken ++ along path i.inFlight }

/-- If a line is taken in, it is the first of those in flight. -/
def InTurn (moved : Option Emulator.Move) (i : Intake) : Prop :=
  match moved with
  | some (.take path) => i.inFlight.head?.map Fetch.path = some path
  | _ => True

instance (moved : Option Emulator.Move) (i : Intake) : Decidable (i.InTurn moved) :=
  match moved with
  | some (.take _) => inferInstanceAs (Decidable (_ = _))
  | some (.fetch _) => .isTrue trivial
  | none => .isTrue trivial

variable {path other : Path} {i : Intake}

/-- The lines of a path are taken out of two parts. -/
theorem along_append (a b : List Fetch) : along path (a ++ b) = along path a ++ along path b :=
  List.filter_append a b

/-- Of the lines of one path, another one has none. -/
theorem along_along (lines : List Fetch) :
    along other (along path lines) = if other = path then along path lines else [] := by
  rw [along, along, List.filter_filter]
  split
  · rename_i h
    rw [h]
    simp
  · rename_i h
    refine List.filter_eq_nil_iff.2 fun f _ => ?_
    simp only [decide_eq_true_eq, Bool.and_eq_true, not_and]
    rintro rfl rfl
    exact h rfl

/-- Of the lines of all paths but one, this one has none, and every other one has all of its own. -/
theorem along_apart (lines : List Fetch) :
    along other (apart path lines) = if other = path then [] else along other lines := by
  rw [along, apart, List.filter_filter]
  split
  · rename_i h
    exact List.filter_eq_nil_iff.2 fun f _ => by simp [h]
  · rename_i h
    refine List.filter_congr fun f _ => ?_
    by_cases hf : f.path = other <;> simp [hf, h]

/-- Whatever is taken in, the lines of each path stay in their order. -/
theorem along_take (lines : List Fetch) :
    along other (along path lines ++ apart path lines) = along other lines := by
  rw [along_append, along_along, along_apart]
  split
  · rename_i h
    rw [h, List.append_nil]
  · rw [List.nil_append]

/-- The same lines of each path, in the same order, are the same lines. -/
theorem perm_of_along_eq {a b : List Fetch} (h : ∀ path, along path a = along path b) : a ~ b := by
  -- A line is among those of its own path, so it is enough to count there.
  refine List.perm_iff_count.2 fun f => ?_
  have hcount : ∀ lines, (along f.path lines).count f = lines.count f := fun lines =>
    List.count_filter (by simp)
  rw [← hcount a, ← hcount b, h f.path]

/-- Taking in the first of the lines in flight keeps them in their order. -/
theorem along_append_apart_of_head? (h : i.inFlight.head?.map Fetch.path = some path)
    (hone : (along path i.inFlight).length ≤ 1) :
    along path i.inFlight ++ apart path i.inFlight = i.inFlight := by
  obtain ⟨first, hfirst, rfl⟩ := Option.map_eq_some_iff.1 h
  obtain ⟨rest, hrest⟩ := List.head?_eq_some_iff.1 hfirst
  rw [hrest] at hone ⊢
  -- The other lines are not from the same path.
  have hothers : ∀ f ∈ rest, f.path ≠ first.path := by
    intro f hf hsame
    rw [along, List.filter_cons_of_pos (by simp), List.length_cons] at hone
    have hmem : f ∈ rest.filter fun f => f.path = first.path :=
      List.mem_filter.2 ⟨hf, by simpa using hsame⟩
    have := List.length_pos_of_mem hmem
    omega
  rw [along, apart, List.filter_cons_of_pos (by simp), List.filter_cons_of_neg (by simp),
    List.filter_eq_nil_iff.2 fun f hf => by simpa using hothers f hf,
    List.filter_eq_self.2 fun f hf => by simpa using hothers f hf]
  rfl

end Intake

/-! ## Runs -/

namespace Intake

open Emulator

variable {R C : Type} [Instrument R C]

/-- The lines after a step. -/
def step (event : Event) (e : Emulator R) (i : Intake) : Intake := (e.move? event).elim i i.move

/-- The lines after several steps. -/
def follow : List Event → Emulator R → Intake → Intake
  | [], _, i => i
  | event :: rest, e, i => follow rest (e.perform [event]) (i.step event e)

/-- Whether each line is taken in while it is the first of those in flight. -/
def TakesInTurn : List Event → Emulator R → Intake → Prop
  | [], _, _ => True
  | event :: rest, e, i =>
    i.InTurn (e.move? event) ∧ TakesInTurn rest (e.perform [event]) (i.step event e)

instance decidableTakesInTurn : (events : List Event) → (e : Emulator R) → (i : Intake) →
    Decidable (i.TakesInTurn events e)
  | [], _, _ => .isTrue trivial
  | event :: rest, e, i =>
    @instDecidableAnd _ _ (inferInstanceAs (Decidable (i.InTurn (e.move? event))))
      (decidableTakesInTurn rest (e.perform [event]) (i.step event e))

/-- An intake agrees with an emulator that was started with a feed. -/
structure Describes (feed : Feed) (e : Emulator (Logged R)) (i : Intake) : Prop where
  /-- The lines were fetched in the order of the feed, -/
  fetched_eq : i.fetched.map Fetch.sample =
    (feed.deliver i.fetched.length).map (·.bind Sample.parse?)
  /-- and none besides. -/
  feed_eq : e.feed = feed.behind i.fetched.length
  /-- A line is in flight as long as a path holds it. -/
  inFlight_eq : ∀ path, along path i.inFlight = ((e.held path).map (Fetch.mk path)).toList
  /-- The lines of each path are taken in in their order, and those left are in flight. -/
  order_eq : ∀ path, along path (i.taken ++ i.inFlight) = along path i.fetched
  /-- All devices have taken in the samples of the lines. -/
  logs : e.bus.Logs (i.taken.filterMap Fetch.sample)

variable {feed : Feed} {e after : Emulator (Logged R)} {event : Event} {i : Intake} {path : Path}

/-- Taking in a line adds its sample to the logs, if it holds one. -/
theorem logs_observe {log : List Sample} (h : e.bus.Logs log) (sample : Option Sample) :
    (e.observe sample).bus.Logs (log ++ sample.toList) := by
  cases sample with
  | none =>
    rw [Option.toList_none, List.append_nil]
    exact h
  | some sample => exact h.observe sample

namespace Describes

/-- At the start nothing has been fetched. -/
theorem start (limit : Nat) (feed : Feed) (bus : Bus R) :
    Describes feed (Emulator.start limit feed (bus.project (Logged.mk []))) {} where
  fetched_eq := rfl
  feed_eq := rfl
  inFlight_eq path := by cases path <;> rfl
  order_eq _ := rfl
  logs := Bus.logs_project bus

/-- A path fetches a line. -/
theorem fetched (h : Describes feed e i) (hheld : e.held path = none)
    (hafter : after.held = Function.update e.held path (some e.fetch.1))
    (hfeed : after.feed = e.feed.next.2) (hbus : after.bus = e.bus) :
    Describes feed after (i.move (.fetch ⟨path, e.fetch.1⟩)) where
  fetched_eq := by
    have hsample : e.fetch.1 = (feed.behind i.fetched.length).next.1.bind Sample.parse? := by
      rw [← h.feed_eq]
      rfl
    simp only [move, List.map_append, List.length_append, List.length_singleton, h.fetched_eq,
      Feed.deliver_succ, List.map_cons, List.map_nil, hsample]
  feed_eq := by
    simp only [move, List.length_append, List.length_singleton, Feed.behind_succ, ← h.feed_eq,
      hfeed]
  inFlight_eq other := by
    have hbefore := h.inFlight_eq other
    rw [move, along_append, hbefore, hafter]
    by_cases ho : other = path
    · rw [ho, hheld, Function.update_self]
      simp [along]
    · rw [Function.update_of_ne ho]
      simp [along, Ne.symm ho]
  order_eq other := by
    rw [move, ← List.append_assoc, along_append, h.order_eq, ← along_append]
  logs := by
    rw [hbus]
    exact h.logs

/-- The line that a path has fetched is taken in. -/
theorem taken (h : Describes feed e i) {sample : Option Sample} (hheld : e.held path = some sample)
    (hafter : after.held = Function.update e.held path none) (hfeed : after.feed = e.feed)
    (hbus : after.bus = (e.observe sample).bus) : Describes feed after (i.move (.take path)) where
  fetched_eq := h.fetched_eq
  feed_eq := hfeed.trans h.feed_eq
  inFlight_eq other := by
    rw [move, along_apart, hafter]
    by_cases ho : other = path
    · rw [if_pos ho, ho, Function.update_self]
      rfl
    · rw [if_neg ho, Function.update_of_ne ho, h.inFlight_eq]
  order_eq other := by
    rw [move, List.append_assoc, along_append, along_take, ← along_append, h.order_eq]
  logs := by
    have hline : along path i.inFlight = [⟨path, sample⟩] := by
      rw [h.inFlight_eq, hheld]
      rfl
    have hsamples : [Fetch.mk path sample].filterMap Fetch.sample = sample.toList := by
      cases sample <;> rfl
    rw [hbus, move, List.filterMap_append, hline, hsamples]
    exact logs_observe h.logs sample

/-- An intake that agrees with an emulator agrees with it after every step. -/
theorem step (h : Describes feed e i) (event : Event) :
    Describes feed (e.perform [event]) (i.step event e) := by
  have hflow := flow_perform event e
  rw [Intake.step]
  generalize e.perform [event] = after, e.move? event = moved at hflow ⊢
  cases hflow with
  | fetched hheld hafter hfeed hbus => exact h.fetched hheld hafter hfeed hbus
  | taken hheld hafter hfeed hbus => exact h.taken hheld hafter hfeed hbus
  | unmoved hafter hfeed hbus =>
    refine ⟨h.fetched_eq, hfeed.trans h.feed_eq, fun path => ?_, h.order_eq, ?_⟩
    · rw [hafter]
      exact h.inFlight_eq path
    · -- What else happens to the bus has nothing to do with samples.
      rcases hbus with hbus | ⟨frame, hbus⟩ | ⟨time, addresses, hbus⟩
      · rw [Option.elim_none, hbus]
        exact h.logs
      · rw [Option.elim_none, hbus]
        exact h.logs.dispatch frame
      · rw [Option.elim_none, hbus]
        exact h.logs.markSent time addresses

/-- It agrees with it in every run. -/
theorem follow (h : Describes feed e i) (events : List Event) :
    Describes feed (e.perform events) (i.follow events e) := by
  induction events generalizing e i with
  | nil => exact h
  | cons event rest ih =>
    rw [perform_cons]
    exact ih (h.step event)

/-- A step that takes in a line in its turn keeps the order of the feed. -/
theorem append_step (h : Describes feed e i) (hturn : i.InTurn (e.move? event))
    (horder : i.taken ++ i.inFlight = i.fetched) :
    (i.step event e).taken ++ (i.step event e).inFlight = (i.step event e).fetched := by
  rw [Intake.step]
  cases hmove : e.move? event with
  | none => exact horder
  | some moved =>
    cases moved with
    | fetch f =>
      rw [Option.elim_some, move, ← List.append_assoc, horder]
    | take path =>
      -- A path holds one line at a time.
      have hone : (along path i.inFlight).length ≤ 1 := by
        rw [h.inFlight_eq]
        cases e.held path <;> simp
      rw [hmove] at hturn
      have hsplit := along_append_apart_of_head? hturn hone
      rw [Option.elim_some, move, List.append_assoc, hsplit, horder]

/-- If each line is taken in in its turn, all lines are taken in in the order of the feed. -/
theorem append_follow (h : Describes feed e i) {events : List Event}
    (hturn : i.TakesInTurn events e) (horder : i.taken ++ i.inFlight = i.fetched) :
    (i.follow events e).taken ++ (i.follow events e).inFlight = (i.follow events e).fetched := by
  induction events generalizing e i with
  | nil => exact horder
  | cons event rest ih => exact ih (h.step event) hturn.2 (h.append_step hturn.1 horder)

end Describes

end Intake

open Cli

/-- In every run of every kind of instrument, `lines` are all lines that have left the feed, and all
devices have taken in the samples of the same ones of them: no line twice, none skipped that is not
still in flight, and those that one path has fetched in the order of the feed. If no path takes in a
line while the other one holds an earlier one, this goes for all lines together. -/
theorem Emulator.logs_eq_intake (kind : InstrumentKind) (limit : Nat) (feed : Feed)
    (bus : Bus kind.Registers) (events : List Emulator.Event) :
    let start := Emulator.start limit feed (bus.project (Logged.mk []))
    let e := start.perform events
    let lines := Intake.follow events start {}
    e.project Logged.registers = (Emulator.start limit feed bus).perform events ∧
    (lines.fetched.map Fetch.sample =
        (feed.deliver lines.fetched.length).map (·.bind Sample.parse?) ∧
      e.feed = feed.behind lines.fetched.length) ∧
    (∀ d ∈ e.bus.toList, d.log = lines.taken.filterMap Fetch.sample) ∧
    lines.taken ++ lines.inFlight ~ lines.fetched ∧
    (∀ path, Intake.along path lines.inFlight =
        ((e.held path).map (Fetch.mk path)).toList ∧
      Intake.along path lines.taken ++ Intake.along path lines.inFlight =
        Intake.along path lines.fetched) ∧
    (Intake.TakesInTurn events start {} → lines.taken ++ lines.inFlight = lines.fetched) := by
  intro start e lines
  have hstart : Intake.Describes feed start {} := .start limit feed bus
  have hrun : Intake.Describes feed e lines := hstart.follow events
  refine ⟨?_, ⟨hrun.fetched_eq, hrun.feed_eq⟩, hrun.logs, Intake.perm_of_along_eq hrun.order_eq,
    fun path => ⟨hrun.inFlight_eq path, ?_⟩, fun hturn => hstart.append_follow hturn rfl⟩
  · rw [← Emulator.perform_project Bus.projection_registers_logged,
      ← Emulator.start_project Bus.projection_registers_logged, Bus.project_registers_logged]
  · rw [← Intake.along_append]
    exact hrun.order_eq path

/-- A barometer that sends on its own and is asked for its measurement in between. Each path takes
in its line before the other one fetches the next, so the barometer has taken in both in the order
of the feed. -/
theorem Emulator.logs_eq_intake_in_turn :
    let feed := Feed.once ["P=1001".toList, "P=1002".toList]
    let events := hears "R\r".toList ++ hears "P\r".toList ++
      [.fetchAnswer, .check 0, .sendAnswer {}, .fetchDue, .sendDue 0 {}]
    ∃ bus, InstrumentKind.busBarometer.Starts bus ∧
      let start := Emulator.start 100 feed (bus.project (Logged.mk []))
      let lines := Intake.follow events start {}
      Intake.TakesInTurn events start {} ∧ lines.fetched.length = 2 ∧
        lines.taken ++ lines.inFlight = lines.fetched ∧
        ∀ d ∈ (start.perform events).bus.toList,
          d.log = (feed.deliver 2).filterMap (·.bind Sample.parse?) := by
  intro feed events
  refine ⟨_, ⟨1, rfl⟩, ?_⟩
  intro start lines
  have hturn : Intake.TakesInTurn events start {} := by decide +kernel
  obtain ⟨-, -, hlogs, -, -, horder⟩ :=
    Emulator.logs_eq_intake .busBarometer 100 feed _ events
  refine ⟨hturn, by decide +kernel, horder hturn, fun d hd => (hlogs d hd).trans ?_⟩
  decide +kernel

/-- The same barometer, but the sender fetches its line and has it taken in while the line of the
receiver is in flight. No line is left, and the barometer has taken in the older one last. -/
theorem Emulator.log_overtaken :
    let feed := Feed.once ["P=1001".toList, "P=1002".toList]
    let events := hears "R\r".toList ++ hears "P\r".toList ++
      [.fetchAnswer, .check 0, .fetchDue, .sendDue 0 {}, .sendAnswer {}]
    ∃ bus, InstrumentKind.busBarometer.Starts bus ∧
      let e := (Emulator.start 100 feed (bus.project (Logged.mk []))).perform events
      e.feed = feed.behind 2 ∧ e.held .receiver = none ∧ e.held .sender = none ∧
        ∃ d ∈ e.bus.toList,
          d.log.length = 2 ∧ d.log ≠ (feed.deliver 2).filterMap (·.bind Sample.parse?) := by
  intro feed events
  refine ⟨_, ⟨1, rfl⟩, ?_⟩
  decide +kernel

end WeatherBus
