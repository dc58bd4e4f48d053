import Mathlib.Data.List.Induction
import WeatherBus.Proofs.Bus.Tick

/-! # The time between two messages

A schedule knows of the last message only what it needs to find out whether the next one is due, and
it forgets that when the continuous mode is entered. What it knows is compared with the history of
the device: with the times at which its messages have been sent, and with its modes.

* **`Bus.StaysContinuous`** — in the course of some occasions a device never leaves the continuous
  mode;
* **`Bus.SentSinceEntering`** — its message has been sent since it entered the mode;
* **`Bus.Recalls`** — what a schedule knows is what has happened; `exists_recalls`;
* **`Bus.SendsOnTime`** — messages are sent neither too early nor too late; `sendsOnTime_of_new`. -/

namespace WeatherBus

namespace Schedule

variable {s t : Schedule} {sent : Option Nat} {last : Nat}

/-- What a schedule knows of the last message is the time of a message that has just been sent, or
what it knew before. -/
theorem Undergoes.lastSent_eq (h : s.Undergoes sent t) (hlast : t.lastSent = some last) :
    sent = some last ∨ (sent = none ∧ s.lastSent = some last) := by
  cases h with
  | adjusted hadjusts =>
    rcases hadjusts.follows.kept_or_forgotten with hkept | hnone
    · exact .inr ⟨rfl, hkept ▸ hlast⟩
    · rw [hnone] at hlast
      exact absurd hlast (by simp)
  | sent hdue => exact .inl hlast

/-- A message is sent when it is due. -/
theorem Undergoes.isDue {time : Nat} (h : s.Undergoes sent t) (hsent : sent = some time) :
    s.isDue time = true := by
  cases h with
  | adjusted hadjusts => exact absurd hsent (by simp)
  | sent hdue =>
    obtain rfl := Option.some.inj hsent
    exact hdue

/-- In the continuous mode a schedule knows of a message if one has just been sent, or if it knew of
one before and was in the mode already. -/
theorem Undergoes.lastSent_ne_none_iff (h : s.Undergoes sent t) (hmode : t.mode = .continuous) :
    t.lastSent ≠ none ↔ sent ≠ none ∨ (s.mode = .continuous ∧ s.lastSent ≠ none) := by
  cases h with
  | sent hdue => simp [markSent]
  | adjusted hadjusts =>
    by_cases hs : s.mode = .continuous
    · simp [hadjusts.lastSent_eq hs, hs]
    · -- The mode has just been entered, so everything is forgotten.
      simp [hadjusts.follows.forgotten hs hmode, hs]

end Schedule

namespace Bus

/-! ## Histories -/

section History

variable {R C : Type} [Instrument R C] {bus : Bus (Tracked R)} {o : Nat}
  {occasions : List Occasion} {occasion : Occasion}

/-- In the course of some occasions the device with a tag is in the continuous mode all along. -/
def StaysContinuous (o : Nat) (occasions : List Occasion) (bus : Bus (Tracked R)) : Prop :=
  ∀ front, front <+: occasions → (bus.undergoAll front).modeOf? o = some .continuous

/-- The message of the device with a tag has been sent since it entered the continuous mode: there
is a last part of the occasions in which it is in the mode all along, and in which it is sent. -/
def SentSinceEntering (o : Nat) (occasions : List Occasion) (bus : Bus (Tracked R)) : Prop :=
  ∃ earlier later, occasions = earlier ++ later ∧
    (bus.undergoAll earlier).StaysContinuous o later ∧
    (bus.undergoAll earlier).transmissions o later ≠ []

/-- Before anything happens only the mode at the start counts. -/
theorem staysContinuous_nil :
    bus.StaysContinuous o [] ↔ bus.modeOf? o = some .continuous := by
  simp [StaysContinuous]

/-- With one more occasion, the mode behind it counts, too. -/
theorem staysContinuous_concat : bus.StaysContinuous o (occasions ++ [occasion]) ↔
    bus.StaysContinuous o occasions ∧
      (bus.undergoAll (occasions ++ [occasion])).modeOf? o = some .continuous := by
  simp only [StaysContinuous, List.prefix_concat_iff]
  constructor
  · exact fun hall => ⟨fun front hfront => hall front (.inr hfront), hall _ (.inl rfl)⟩
  · rintro ⟨hall, hlast⟩ front (rfl | hfront)
    · exact hlast
    · exact hall front hfront

/-- With one occasion in front, the mode before it counts, too. -/
theorem staysContinuous_cons : bus.StaysContinuous o (occasion :: occasions) ↔
    bus.modeOf? o = some .continuous ∧ (bus.undergo occasion).StaysContinuous o occasions := by
  simp only [StaysContinuous, List.prefix_cons_iff]
  constructor
  · intro hall
    exact ⟨hall [] (.inl rfl), fun front hfront => hall _ (.inr ⟨front, rfl, hfront⟩)⟩
  · rintro ⟨hnow, hall⟩ front (rfl | ⟨rest, rfl, hrest⟩)
    · exact hnow
    · exact hall rest hrest

/-- At the end the device is in the mode. -/
theorem StaysContinuous.modeOf? (h : bus.StaysContinuous o occasions) :
    (bus.undergoAll occasions).modeOf? o = some .continuous := h occasions (List.prefix_refl _)

/-- Before anything happens nothing has been sent. -/
theorem not_sentSinceEntering_nil : ¬ bus.SentSinceEntering o [] := by
  rintro ⟨earlier, later, hl, -, hsent⟩
  obtain ⟨rfl, rfl⟩ := List.append_eq_nil_iff.1 hl.symm
  exact hsent rfl

/-- With one more occasion, the message has been sent since the mode was entered if the device was
in the mode before and after it, and the message was sent on this occasion or before. -/
theorem sentSinceEntering_concat : bus.SentSinceEntering o (occasions ++ [occasion]) ↔
    (bus.undergoAll (occasions ++ [occasion])).modeOf? o = some .continuous ∧
      (bus.undergoAll occasions).modeOf? o = some .continuous ∧
      ((bus.undergoAll occasions).transmission? o occasion ≠ none ∨
        bus.SentSinceEntering o occasions) := by
  constructor
  · rintro ⟨earlier, later, hl, hstays, hsent⟩
    -- What has been sent is part of the end, so the last occasion belongs to it.
    rcases List.eq_nil_or_concat' later with rfl | ⟨later, last, rfl⟩
    · exact absurd rfl hsent
    · rw [← List.append_assoc] at hl
      obtain ⟨rfl, hlast⟩ := List.append_inj' hl rfl
      obtain rfl : occasion = last := by simpa using hlast
      rw [staysContinuous_concat, ← undergoAll_append, ← List.append_assoc] at hstays
      have hbefore := hstays.1.modeOf?
      rw [← undergoAll_append] at hbefore
      refine ⟨hstays.2, hbefore, ?_⟩
      rw [transmissions_concat, ← undergoAll_append] at hsent
      by_cases hnow : (bus.undergoAll (earlier ++ later)).transmission? o occasion = none
      · refine .inr ⟨earlier, later, rfl, hstays.1, fun hnone => hsent ?_⟩
        rw [hnone, hnow]
        rfl
      · exact .inl hnow
  · rintro ⟨hafter, hbefore, hnow | ⟨earlier, later, rfl, hstays, hsent⟩⟩
    · refine ⟨occasions, [occasion], rfl, ?_, ?_⟩
      · rw [← List.nil_append [occasion], staysContinuous_concat, staysContinuous_nil,
          List.nil_append, ← undergoAll_append]
        exact ⟨hbefore, hafter⟩
      · obtain ⟨time, htime⟩ := Option.ne_none_iff_exists'.1 hnow
        simp [transmissions, htime]
    · refine ⟨earlier, later ++ [occasion], List.append_assoc _ _ _, ?_, ?_⟩
      · rw [staysContinuous_concat, ← undergoAll_append, ← List.append_assoc]
        exact ⟨hstays, hafter⟩
      · rw [transmissions_concat]
        exact List.append_ne_nil_of_left_ne_nil hsent _

end History

/-! ## What a schedule knows -/

section Recalls

variable {R C : Type} [Instrument R C] {start : Bus (Tracked R)} {o : Nat}
  {occasions : List Occasion} {d : Device (Tracked R)}

/-- After some occasions, the device with a tag is found, and what its schedule knows of the last
message is what has happened. -/
structure Recalls (o : Nat) (occasions : List Occasion) (start : Bus (Tracked R))
    (d : Device (Tracked R)) : Prop where
  found : (start.undergoAll occasions).ofOrigin? o = some d
  last : ∀ {time : Nat}, d.schedule.lastSent = some time →
    (start.transmissions o occasions).getLast? = some time
  entered : d.schedule.mode = .continuous →
    (d.schedule.lastSent ≠ none ↔ start.SentSinceEntering o occasions)

/-- The mode is the one of the schedule. -/
theorem Recalls.modeOf? (h : Recalls o occasions start d) :
    (start.undergoAll occasions).modeOf? o = some d.schedule.mode := by
  rw [Bus.modeOf?, h.found, Option.map_some]

/-- In the continuous mode, a device that has not sent since it entered the mode is due, and so is
one that has sent at least an interval ago. -/
theorem Recalls.isDue {now : Nat} (h : Recalls o occasions start d)
    (hmode : d.schedule.mode = .continuous) (hinterval : d.schedule.interval ≠ 0)
    (hdue : ¬ start.SentSinceEntering o occasions ∨
      ∃ last, (start.transmissions o occasions).getLast? = some last ∧
        last + d.schedule.interval ≤ now) : d.schedule.isDue now = true := by
  refine Schedule.isDue_iff.2 ⟨hmode, hinterval, fun last hlast => ?_⟩
  rcases hdue with hnever | ⟨time, htime, hpassed⟩
  · refine absurd ((h.entered hmode).1 ?_) hnever
    rw [hlast]
    exact Option.some_ne_none last
  · obtain rfl := Option.some.inj ((h.last hlast).symm.trans htime)
    exact hpassed

variable [Conducted R] [Timed R]

/-- A device whose message is sent is due. -/
theorem InOrder.isDue_of_transmission? {bus : Bus (Tracked R)} {occasion : Occasion} {time : Nat}
    (h : bus.InOrder) (hd : bus.ofOrigin? o = some d)
    (hsent : bus.transmission? o occasion = some time) : d.schedule.isDue time = true := by
  obtain ⟨e, -, hundergoes⟩ := h.undergoes hd occasion
  exact hundergoes.isDue hsent

/-- What a schedule knows is right after every history. -/
theorem exists_recalls (h : start.InOrder) (hd : start.ofOrigin? o = some d)
    (hnone : d.schedule.lastSent = none) (occasions : List Occasion) :
    ∃ e, Recalls o occasions start e := by
  induction occasions using List.reverseRecOn with
  | nil =>
    refine ⟨d, hd, fun {time} htime => ?_, fun _ => ?_⟩
    · rw [hnone] at htime
      exact absurd htime (by simp)
    · exact iff_of_false (not_not.2 hnone) not_sentSinceEntering_nil
  | append_singleton occasions occasion ih =>
    obtain ⟨e, he⟩ := ih
    obtain ⟨f, hf, hundergoes⟩ := (h.undergoAll occasions).undergoes he.found occasion
    have hfound : (start.undergoAll (occasions ++ [occasion])).ofOrigin? o = some f := by
      rw [undergoAll_append]
      exact hf
    refine ⟨f, hfound, fun {time} htime => ?_, fun hmode => ?_⟩
    · rw [transmissions_concat]
      rcases hundergoes.lastSent_eq htime with hsent | ⟨hsent, hbefore⟩
      · simp [hsent]
      · simpa [hsent] using he.last hbefore
    · have hafter : (start.undergoAll (occasions ++ [occasion])).modeOf? o =
          some .continuous := by
        rw [Bus.modeOf?, hfound, Option.map_some, hmode]
      rw [hundergoes.lastSent_ne_none_iff hmode, sentSinceEntering_concat, he.modeOf?,
        Option.some_inj]
      constructor
      · rintro (hsent | ⟨hbefore, hlast⟩)
        · obtain ⟨time, htime⟩ := Option.ne_none_iff_exists'.1 hsent
          exact ⟨hafter, (Schedule.isDue_iff.1 (hundergoes.isDue htime)).1, .inl hsent⟩
        · exact ⟨hafter, hbefore, .inr ((he.entered hbefore).1 hlast)⟩
      · rintro ⟨-, hbefore, hsent | hsent⟩
        · exact .inl hsent
        · exact .inr ⟨hbefore, (he.entered hbefore).2 hsent⟩

/-- As long as the device stays in the continuous mode, an interval passes up to the next
message. -/
theorem Recalls.spaced {before between : List Occasion} {first second : Occasion} {t₁ t₂ : Nat}
    {e : Device (Tracked R)} (h : start.InOrder) (hd : Recalls o before start d)
    (he : Recalls o (before ++ first :: between) start e)
    (hfirst : (start.undergoAll before).transmission? o first = some t₁)
    (hnone : (start.undergoAll (before ++ [first])).transmissions o between = [])
    (hstays : (start.undergoAll (before ++ [first])).StaysContinuous o between)
    (hsecond : (start.undergoAll (before ++ first :: between)).transmission? o second = some t₂) :
    t₁ + e.schedule.interval ≤ t₂ := by
  have hdue₁ := (h.undergoAll before).isDue_of_transmission? hd.found hfirst
  have hdue₂ := (h.undergoAll _).isDue_of_transmission? he.found hsecond
  obtain ⟨hmode, -, hpassed⟩ := Schedule.isDue_iff.1 hdue₂
  rw [undergoAll_append, undergoAll_cons, undergoAll_nil] at hnone hstays
  -- The first message has been sent since the mode was entered, so the schedule knows of one.
  have hsent : start.SentSinceEntering o (before ++ first :: between) := by
    refine ⟨before, first :: between, rfl, staysContinuous_cons.2 ⟨?_, hstays⟩, ?_⟩
    · rw [hd.modeOf?, (Schedule.isDue_iff.1 hdue₁).1]
    · simp [transmissions, hfirst]
  obtain ⟨last, hlast⟩ := Option.ne_none_iff_exists'.1 ((he.entered hmode).2 hsent)
  -- It is the first one, because none has been sent in between.
  have hsame : some t₁ = some last := by
    rw [← he.last hlast, transmissions_append, transmissions, hfirst, hnone]
    simp
  obtain rfl := Option.some.inj hsame
  exact hpassed _ hlast

end Recalls

/-! ## Neither too early nor too late -/

section SendsOnTime

variable {R C : Type} [Instrument R C]

/-- The devices of a bus send on time, whatever happens on it. They are known by their tags. -/
structure SendsOnTime (start : Bus R) : Prop where
  /-- What a tick writes are the messages of the devices that it sends, one each, in the order of
  their addresses, with the values that its line brings. -/
  written : ∀ (occasions : List Occasion) (timestamp : Timestamp) (now : Nat) (line : Option Text),
    ((start.track.undergoAll occasions).tick timestamp now line).2.2 =
      (((start.track.undergoAll occasions).refresh line).toList.filter fun d =>
        ((start.track.undergoAll occasions).transmission? d.origin
          (.tick timestamp now line)).isSome).flatMap (Instrument.measurement timestamp)
  /-- Right after a tick nothing is due at its time. -/
  idle : ∀ (occasions : List Occasion) (timestamp : Timestamp) (now : Nat) (line : Option Text),
    ((start.track.undergoAll occasions).tick timestamp now line).1.due now = []
  /-- Between two messages of a device, one behind the other, the interval that is in force when the
  second one is sent has passed, unless the device has left the continuous mode in between. -/
  spaced : ∀ {o : Nat}, o ∈ start.addresses →
    ∀ {before between : List Occasion} {first second : Occasion} {t₁ t₂ : Nat}
      {d : Device (Tracked R)},
      (start.track.undergoAll before).transmission? o first = some t₁ →
      (start.track.undergoAll (before ++ [first])).transmissions o between = [] →
      (start.track.undergoAll (before ++ first :: between)).transmission? o second = some t₂ →
      (start.track.undergoAll (before ++ first :: between)).ofOrigin? o = some d →
      ¬ (start.track.undergoAll (before ++ [first])).StaysContinuous o between ∨
        t₁ + d.schedule.interval ≤ t₂
  /-- A device in the continuous mode with an interval sends with the next tick if it has not sent
  since it entered the mode, or if it has sent at least an interval ago. -/
  prompt : ∀ {o : Nat}, o ∈ start.addresses →
    ∀ {occasions : List Occasion} {d : Device (Tracked R)} {now : Nat},
      (start.track.undergoAll occasions).ofOrigin? o = some d →
      d.schedule.mode = .continuous → d.schedule.interval ≠ 0 →
      (¬ start.track.SentSinceEntering o occasions ∨
        ∃ last, (start.track.transmissions o occasions).getLast? = some last ∧
          last + d.schedule.interval ≤ now) →
      ∀ timestamp line, (start.track.undergoAll occasions).transmission? o
        (.tick timestamp now line) = some now

variable [Conducted R] [Timed R] {start : Bus R}

/-- Every device that knows of no message at the start sends on time. -/
theorem sendsOnTime_of_new (hp : start.WellPlaced)
    (hnew : ∀ {a : Nat} {d : Device R}, start.get? a = some d → d.schedule.lastSent = none) :
    start.SendsOnTime := by
  have horder := hp.inOrder_track
  have hrecalls : ∀ {o : Nat}, o ∈ start.addresses → ∀ occasions,
      ∃ d, Recalls o occasions start.track d := by
    intro o ho occasions
    obtain ⟨d, hd, hfound⟩ := hp.ofOrigin?_track ho
    exact exists_recalls horder hfound (hnew hd) occasions
  constructor
  · intro occasions timestamp now line
    exact (horder.undergoAll occasions).data_tick timestamp now line
  · intro occasions timestamp now line
    exact (horder.undergoAll occasions).toWellPlaced.due_tick timestamp now line
  · intro o ho before between first second t₁ t₂ d hfirst hnone hsecond hd
    by_cases hstays : (start.track.undergoAll (before ++ [first])).StaysContinuous o between
    · obtain ⟨e, he⟩ := hrecalls ho before
      obtain ⟨f, hf⟩ := hrecalls ho (before ++ first :: between)
      obtain rfl := Option.some.inj (hf.found.symm.trans hd)
      exact .inr (he.spaced horder hf hfirst hnone hstays hsecond)
    · exact .inl hstays
  · intro o ho occasions d now hd hmode hinterval hdue timestamp line
    obtain ⟨e, he⟩ := hrecalls ho occasions
    obtain rfl := Option.some.inj (he.found.symm.trans hd)
    rw [(horder.undergoAll occasions).transmission?_tick hd,
      if_pos (he.isDue hmode hinterval hdue)]

end SendsOnTime

end Bus

end WeatherBus
