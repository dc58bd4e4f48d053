import WeatherBus.Proofs.LightningDetector.Tally

/-! # The nearest strike

A detector keeps the distance and the direction of one strike. A later strike takes its place only
if it is strictly nearer, and what is no number is never nearer and never passed.

* **`LightningDetector.locations`** — the strikes of a history that have a distance;
* **`LightningDetector.IsNearest`** — what the nearest strike should be: the first of those that are
  not farther than any other;
* **`LightningDetector.Found`** — what is kept after some strikes, by the first of them;
* **`LightningDetector.nearest_run`** — in every run, the nearest strike is what it should be
  exactly if the first distance is a number or no later one is. -/

namespace WeatherBus

namespace LightningDetector

open Binary64 (value? lt_iff isNaN_iff)

/-! ## Strikes with a distance -/

/-- Where a strike was seen. -/
structure Location where
  /-- The distance in kilometres. -/
  distance : Float
  /-- The direction in degrees. -/
  bearing : Option Float

/-- Where the strikes of a sample were seen, `none` if it has no strike or no distance. -/
def location? (sample : Sample) : Option Location :=
  if strikesIn "CG" sample + strikesIn "CC" sample = 0 then none
  else (sample.number? "DIST".toList).map fun distance => ⟨distance, sample.number? "BRG".toList⟩

/-- Where the strikes of a history were seen, the first one first. -/
def locations (history : List Sample) : List Location := (history.filterMap location?).reverse

/-- A sample without a place adds none. -/
theorem locations_cons_of_none {sample : Sample} (h : location? sample = none)
    (earlier : List Sample) : locations (sample :: earlier) = locations earlier := by
  rw [locations, List.filterMap_cons_none h, locations]

/-- A sample with a place adds it at the end. -/
theorem locations_cons_of_some {sample : Sample} {l : Location} (h : location? sample = some l)
    (earlier : List Sample) : locations (sample :: earlier) = locations earlier ++ [l] := by
  rw [locations, List.filterMap_cons_some h, List.reverse_cons, locations]

/-- If all distances of a history are numbers, so are those of its strikes. -/
theorem value?_ne_none_of_mem {history : List Sample}
    (h : ∀ sample ∈ history, ∀ distance ∈ sample.number? "DIST".toList, distance.isNaN = false)
    {l : Location} (hmem : l ∈ locations history) : value? l.distance ≠ none := by
  obtain ⟨sample, hsample, hlocation⟩ := List.mem_filterMap.1 (List.mem_reverse.1 hmem)
  rw [location?] at hlocation
  split at hlocation
  · exact absurd hlocation (by simp)
  · obtain ⟨distance, hdistance, rfl⟩ := Option.map_eq_some_iff.1 hlocation
    have hnumber := h sample hsample distance hdistance
    rw [← isNaN_iff.ne, hnumber]
    exact Bool.false_ne_true

section Tally

variable {sample : Sample}

/-- A sample without a strike or a distance is only counted. -/
theorem tally_of_none (hlocation : location? sample = none) (s : Strikes) :
    tally sample s = s.count (strikeCount sample "CG") (strikeCount sample "CC") := by
  rw [tally]
  split
  · rfl
  · rename_i hany
    rw [strikeCount_eq, strikeCount_eq] at hany
    rw [location?, if_neg hany, Option.map_eq_none_iff] at hlocation
    rw [hlocation]

/-- Where a strike was seen is remembered if it is nearer than all before. -/
theorem tally_of_some {l : Location} (hlocation : location? sample = some l) (s : Strikes) :
    tally sample s = (s.count (strikeCount sample "CG") (strikeCount sample "CC")).locate
      l.distance l.bearing := by
  rw [location?] at hlocation
  split at hlocation
  · exact absurd hlocation (by simp)
  · rename_i hany
    obtain ⟨distance, hdistance, rfl⟩ := Option.map_eq_some_iff.1 hlocation
    rw [← strikeCount_eq, ← strikeCount_eq] at hany
    rw [tally, if_neg hany, hdistance]

end Tally

/-! ## What is kept -/

/-- The value is the distance of a strike that no other one undercuts, and this strike is the first
one with that distance. -/
structure IsFirstLeast (located : List Location) (nearest bearing : Option Float)
    (v : WithBot (WithTop ℚ)) : Prop where
  exists_eq_append : ∃ before l after, located = before ++ l :: after ∧
    (∀ k ∈ before, value? k.distance ≠ some v) ∧ value? l.distance = some v ∧
    nearest = some l.distance ∧ bearing = l.bearing
  le : ∀ l ∈ located, ∀ w, value? l.distance = some w → v ≤ w

/-- What a detector keeps of some strikes: it depends on the first one. -/
inductive Found : List Location → (nearest bearing : Option Float) → Prop where
  /-- There is no strike. -/
  | nothing : Found [] none none
  /-- The first distance is no number. It is kept. -/
  | stuck {first : Location} {rest : List Location} (h : value? first.distance = none) :
      Found (first :: rest) (some first.distance) first.bearing
  /-- The first distance is a number. -/
  | least {first : Location} {rest : List Location} {nearest bearing : Option Float}
      {v : WithBot (WithTop ℚ)} (hfirst : value? first.distance ≠ none)
      (h : IsFirstLeast (first :: rest) nearest bearing v) : Found (first :: rest) nearest bearing

section Step

variable {located : List Location} {s : Strikes} {l : Location} {v : WithBot (WithTop ℚ)}

/-- The first strike is remembered. -/
theorem locate_of_none (h : s.nearest = none) (distance : Float) (bearing : Option Float) :
    s.locate distance bearing = { s with nearest := some distance, bearing } := by
  rw [Strikes.locate, Strikes.isNearer, h, if_pos rfl]

/-- A later strike takes the place of a farther one. -/
theorem locate_of_some {nearest : Float} (h : s.nearest = some nearest) (distance : Float)
    (bearing : Option Float) : s.locate distance bearing =
      if distance < nearest then { s with nearest := some distance, bearing } else s := by
  rw [Strikes.locate, Strikes.isNearer, h]
  simp only [decide_eq_true_eq]

/-- A strike takes the place of the nearest one if it is strictly nearer. Otherwise it changes
nothing. -/
theorem IsFirstLeast.locate (h : IsFirstLeast located s.nearest s.bearing v) (l : Location) :
    ∃ w, IsFirstLeast (located ++ [l]) (s.locate l.distance l.bearing).nearest
      (s.locate l.distance l.bearing).bearing w := by
  obtain ⟨before, k, after, rfl, hbefore, hk, hnearest, hbearing⟩ := h.exists_eq_append
  rw [locate_of_some hnearest]
  by_cases hlt : l.distance < k.distance
  · obtain ⟨w, v', hw, hv', hless⟩ := lt_iff.1 hlt
    obtain rfl := Option.some.inj (hk.symm.trans hv')
    rw [if_pos hlt]
    refine ⟨w, ⟨_, l, [], rfl, fun other hmem heq => ?_, hw, rfl, rfl⟩, fun other hmem u hu => ?_⟩
    · exact absurd (h.le other hmem w heq) (not_le_of_gt hless)
    · rcases List.mem_append.1 hmem with hold | hnew
      · exact hless.le.trans (h.le other hold u hu)
      · obtain rfl := List.mem_singleton.1 hnew
        exact (Option.some.inj (hw.symm.trans hu)).le
  · rw [if_neg hlt]
    refine ⟨v, ⟨before, k, after ++ [l], ?_, hbefore, hk, hnearest, hbearing⟩,
      fun other hmem u hu => ?_⟩
    · rw [List.append_assoc, List.cons_append]
    · rcases List.mem_append.1 hmem with hold | hnew
      · exact h.le other hold u hu
      · obtain rfl := List.mem_singleton.1 hnew
        exact le_of_not_gt fun hless => hlt (lt_iff.2 ⟨u, v, hu, hk, hless⟩)

/-- What is kept stays as it should be when another strike is seen. -/
theorem Found.locate (h : Found located s.nearest s.bearing) (l : Location) :
    Found (located ++ [l]) (s.locate l.distance l.bearing).nearest
      (s.locate l.distance l.bearing).bearing := by
  generalize hnearest : s.nearest = nearest at h
  generalize hbearing : s.bearing = bearing at h
  cases h with
  | nothing =>
    rw [locate_of_none hnearest]
    cases hvalue : value? l.distance with
    | none => exact .stuck hvalue
    | some v =>
      refine .least (v := v) (by rw [hvalue]; exact Option.some_ne_none v) ⟨⟨[], l, [], rfl, ?_,
        hvalue, rfl, rfl⟩, fun other hmem w hw => ?_⟩
      · exact List.forall_mem_nil _
      · obtain rfl := List.mem_singleton.1 hmem
        exact (Option.some.inj (hvalue.symm.trans hw)).le
  | @stuck first rest hfirst =>
    have hnot : ¬ l.distance < first.distance := by
      intro hlt
      obtain ⟨-, v, -, hv, -⟩ := lt_iff.1 hlt
      exact absurd (hfirst.symm.trans hv) (by simp)
    rw [locate_of_some hnearest, if_neg hnot, hnearest, hbearing]
    exact .stuck hfirst
  | least hfirst hleast =>
    rw [← hnearest, ← hbearing] at hleast
    obtain ⟨w, hw⟩ := hleast.locate l
    exact .least hfirst hw

/-- What is kept after all samples of a history. -/
theorem found_recount (history : List Sample) :
    Found (locations history) (recount history).nearest (recount history).bearing := by
  induction history with
  | nil => exact .nothing
  | cons sample earlier ih =>
    rw [recount_cons]
    cases hlocation : location? sample with
    | none =>
      rw [locations_cons_of_none hlocation, tally_of_none hlocation]
      exact ih
    | some l =>
      rw [locations_cons_of_some hlocation, tally_of_some hlocation]
      exact Found.locate (s := (recount earlier).count _ _) ih l

end Step

/-! ## What should be kept -/

/-- What the nearest strike should be: absent if there is none, not undercut by any other one, a
number if there is any, and with the direction of the first strike at that distance. -/
structure IsNearest (located : List Location) (nearest bearing : Option Float) : Prop where
  eq_none_iff : nearest = none ↔ located = []
  bearing_eq_none : nearest = none → bearing = none
  le : ∀ {distance v}, nearest = some distance → value? distance = some v →
    ∀ l ∈ located, ∀ w, value? l.distance = some w → v ≤ w
  isNumber : (∃ l ∈ located, value? l.distance ≠ none) →
    ∃ distance, nearest = some distance ∧ value? distance ≠ none
  bearing_eq : ∀ {distance v}, nearest = some distance → value? distance = some v →
    ∃ before l after, located = before ++ l :: after ∧
      (∀ k ∈ before, value? k.distance ≠ some v) ∧ value? l.distance = some v ∧ bearing = l.bearing

section Iff

variable {located : List Location} {nearest bearing : Option Float}

/-- Nothing is kept if there was no strike, and only then. -/
theorem Found.eq_none_iff (h : Found located nearest bearing) : nearest = none ↔ located = [] := by
  cases h with
  | nothing => exact iff_of_true rfl rfl
  | stuck h => exact iff_of_false (Option.some_ne_none _) (List.cons_ne_nil _ _)
  | least hfirst h =>
    obtain ⟨before, l, after, -, -, -, hnearest, -⟩ := h.exists_eq_append
    rw [hnearest]
    exact iff_of_false (Option.some_ne_none _) (List.cons_ne_nil _ _)

/-- A strike that no other one undercuts is the nearest one. -/
theorem IsFirstLeast.isNearest {v : WithBot (WithTop ℚ)}
    (h : IsFirstLeast located nearest bearing v) : IsNearest located nearest bearing := by
  obtain ⟨before, l, after, hsplit, hbefore, hl, rfl, rfl⟩ := h.exists_eq_append
  have hsame : ∀ {distance w}, some l.distance = some distance → value? distance = some w →
      v = w := by
    rintro distance w hsome hw
    obtain rfl := Option.some.inj hsome
    exact Option.some.inj (hl.symm.trans hw)
  refine ⟨?_, fun hsome => absurd hsome (by simp), fun hsome hw => ?_, fun _ => ?_,
    fun hsome hw => ?_⟩
  · rw [hsplit]
    exact iff_of_false (Option.some_ne_none _) (List.append_ne_nil_of_right_ne_nil _ (by simp))
  · obtain rfl := hsame hsome hw
    exact h.le
  · exact ⟨l.distance, rfl, by rw [hl]; exact Option.some_ne_none v⟩
  · obtain rfl := hsame hsome hw
    exact ⟨before, l, after, hsplit, hbefore, hl, rfl⟩

/-- A distance that is no number does as long as there are no others. -/
theorem isNearest_stuck_iff {first : Location} {rest : List Location}
    (h : value? first.distance = none) :
    IsNearest (first :: rest) (some first.distance) first.bearing ↔
      ¬ ∃ l ∈ first :: rest, value? l.distance ≠ none := by
  have hnever : ∀ {distance v}, some first.distance = some distance →
      value? distance ≠ some v := by
    rintro distance v hsome hv
    obtain rfl := Option.some.inj hsome
    exact absurd (h.symm.trans hv) (by simp)
  constructor
  · intro hnearest hany
    obtain ⟨distance, hsome, hnumber⟩ := hnearest.isNumber hany
    obtain rfl := Option.some.inj hsome
    exact hnumber h
  · intro hnot
    refine ⟨?_, fun hsome => absurd hsome (by simp), fun hsome hv => absurd hv (hnever hsome),
      fun hany => absurd hany hnot, fun hsome hv => absurd hv (hnever hsome)⟩
    exact iff_of_false (Option.some_ne_none _) (List.cons_ne_nil _ _)

/-- The first distance decides: if it is no number, no later one takes its place. -/
theorem Found.isNearest_iff (h : Found located nearest bearing) :
    IsNearest located nearest bearing ↔
      ((∃ l ∈ located, value? l.distance ≠ none) →
        ∀ first ∈ located.head?, value? first.distance ≠ none) := by
  cases h with
  | nothing =>
    refine iff_of_true ⟨iff_of_true rfl rfl, fun _ => rfl, fun hsome => absurd hsome (by simp), ?_,
      fun hsome => absurd hsome (by simp)⟩ fun _ first hfirst => absurd hfirst (by simp)
    rintro ⟨l, hmem, -⟩
    exact absurd hmem List.not_mem_nil
  | @stuck first rest hfirst =>
    rw [isNearest_stuck_iff hfirst]
    exact ⟨fun hnot hany => absurd hany hnot, fun hnumber hany => hnumber hany first rfl hfirst⟩
  | least hfirst hleast =>
    refine iff_of_true hleast.isNearest fun _ first hhead => ?_
    obtain rfl := Option.some.inj hhead
    exact hfirst

/-- What is kept if the first distance is no number. -/
theorem Found.eq_first (h : Found located nearest bearing) {first : Location}
    (hhead : first ∈ located.head?) (hfirst : value? first.distance = none) :
    nearest = some first.distance ∧ bearing = first.bearing := by
  cases h with
  | nothing => exact absurd hhead (by simp)
  | stuck h =>
    obtain rfl := Option.some.inj hhead
    exact ⟨rfl, rfl⟩
  | least hnumber h =>
    obtain rfl := Option.some.inj hhead
    exact absurd hfirst hnumber

end Iff

/-- In every run, the nearest strike is what it should be exactly if the first distance is a number
or none is. Otherwise the first strike stays. -/
theorem nearest_run {serial : Text} {start : Bus LightningDetector} (h : bus serial = .ok start)
    {operations : List Bus.Operation} {a : Nat} {d : Device LightningDetector}
    (hd : (start.run operations).get? a = some d) :
    ∃ history, (start.remember.run operations).get? a = some (d.withHistory history) ∧
      (IsNearest (locations history) d.registers.strikes.nearest d.registers.strikes.bearing ↔
        ((∃ l ∈ locations history, value? l.distance ≠ none) →
          ∀ first ∈ (locations history).head?, value? first.distance ≠ none)) ∧
      (d.registers.strikes.nearest = none ↔ locations history = []) ∧
      ∀ first ∈ (locations history).head?, value? first.distance = none →
        d.registers.strikes.nearest = some first.distance ∧
          d.registers.strikes.bearing = first.bearing := by
  obtain ⟨history, hremembers⟩ := Bus.exists_get?_run_remember (A := Sample) hd
  have hrecount : d.registers.strikes = recount history := (isRecount_run h hremembers).strikes_eq
  have hfound := found_recount history
  rw [← hrecount] at hfound
  exact ⟨history, hremembers, hfound.isNearest_iff, hfound.eq_none_iff, fun first hhead hnone =>
    hfound.eq_first hhead hnone⟩

/-- Of two strikes at the same distance the first one counts, and one without a distance does
not. -/
theorem nearest_run_tied :
    ∃ (first second third : Sample) (start : Bus LightningDetector) (d : Device LightningDetector)
      (history : List Sample),
      Sample.parse? "CC=1".toList = some first ∧
      Sample.parse? "CG=2 DIST=12.5 BRG=275".toList = some second ∧
      Sample.parse? "CC=1 DIST=12.50 BRG=90".toList = some third ∧
      bus "T0000001".toList = .ok start ∧
      (start.run [.observe first, .observe second, .observe third]).get? 0 = some d ∧
      history = [third, second, first] ∧
      d.registers.strikes.bearing = some 275.0 ∧
      IsNearest (locations history) d.registers.strikes.nearest d.registers.strikes.bearing := by
  obtain ⟨first, second, third, start, hfirst, hsecond, hthird, hstart, hrun, hnumbers⟩ :
      ∃ (first second third : Sample) (start : Bus LightningDetector),
        Sample.parse? "CC=1".toList = some first ∧
        Sample.parse? "CG=2 DIST=12.5 BRG=275".toList = some second ∧
        Sample.parse? "CC=1 DIST=12.50 BRG=90".toList = some third ∧
        bus "T0000001".toList = .ok start ∧
        ((start.remember.run [.observe first, .observe second, .observe third]).get? 0).map
          (fun d => (d.history, d.plain.registers.strikes.bearing)) =
            some ([third, second, first], some 275.0) ∧
        ∀ sample ∈ [third, second, first], ∀ distance ∈ sample.number? "DIST".toList,
          distance.isNaN = false :=
    ⟨_, _, _, _, rfl, rfl, rfl, rfl, by decide +kernel, by decide +kernel⟩
  obtain ⟨e, he, heq⟩ := Option.map_eq_some_iff.1 hrun
  obtain ⟨hhistory, hbearing⟩ := Prod.mk.inj heq
  obtain ⟨history, hremembers, hnearest, -⟩ := nearest_run hstart (Bus.get?_run_of_remember he)
  obtain rfl : history = [third, second, first] := by
    have hsame := congrArg Device.history (Option.some.inj (hremembers.symm.trans he))
    exact hsame.trans hhistory
  exact ⟨first, second, third, start, e.plain, _, hfirst, hsecond, hthird, hstart,
    Bus.get?_run_of_remember he, rfl, hbearing,
    hnearest.2 fun _ l hl => value?_ne_none_of_mem hnumbers (List.mem_of_head? hl)⟩

/-- A distance that is no number stays the nearest one, whatever comes later. -/
theorem nearest_run_stuck :
    ∃ (first second : Sample) (start : Bus LightningDetector) (d : Device LightningDetector)
      (nearest : Float),
      Sample.parse? "CG=1 DIST=nan BRG=10".toList = some first ∧
      Sample.parse? "CG=1 DIST=5 BRG=20".toList = some second ∧
      bus "T0000001".toList = .ok start ∧
      (start.remember.run [.observe first, .observe second]).get? 0 =
        some (d.withHistory [second, first]) ∧
      d.registers.strikes.nearest = some nearest ∧ nearest.isNaN = true ∧
      d.registers.strikes.bearing = some 10.0 ∧
      ¬ IsNearest (locations [second, first]) d.registers.strikes.nearest
        d.registers.strikes.bearing := by
  obtain ⟨first, second, start, hfirst, hsecond, hstart, hrun, hcounts, hdistance⟩ :
      ∃ (first second : Sample) (start : Bus LightningDetector),
        Sample.parse? "CG=1 DIST=nan BRG=10".toList = some first ∧
        Sample.parse? "CG=1 DIST=5 BRG=20".toList = some second ∧
        bus "T0000001".toList = .ok start ∧
        ((start.remember.run [.observe first, .observe second]).get? 0).map
          (fun d => (d.history, d.plain.registers.strikes.nearest.map Float.isNaN,
            d.plain.registers.strikes.bearing)) =
            some ([second, first], some true, some 10.0) ∧
        strikeCount second "CG" + strikeCount second "CC" = 1 ∧
        second.number? "DIST".toList = some 5.0 :=
    ⟨_, _, _, rfl, rfl, rfl, by decide +kernel, by decide +kernel, by decide +kernel⟩
  obtain ⟨e, he, heq⟩ := Option.map_eq_some_iff.1 hrun
  obtain ⟨hhistory, heq⟩ := Prod.mk.inj heq
  obtain ⟨hnan, hbearing⟩ := Prod.mk.inj heq
  obtain ⟨nearest, hnearest, hnan⟩ := Option.map_eq_some_iff.1 hnan
  refine ⟨first, second, start, e.plain, nearest, hfirst, hsecond, hstart, ?_, hnearest, hnan,
    hbearing, fun h => ?_⟩
  · rw [he, ← hhistory, Device.withHistory_plain]
  · rw [strikeCount_eq, strikeCount_eq] at hcounts
    have hlocation : location? second = some ⟨5.0, second.number? "BRG".toList⟩ := by
      rw [location?, if_neg (by omega), hdistance]
      rfl
    have hmem : (⟨5.0, second.number? "BRG".toList⟩ : Location) ∈ locations [second, first] := by
      rw [locations_cons_of_some hlocation]
      exact List.mem_append_right _ List.mem_cons_self
    have hnumber : value? 5.0 ≠ none := by
      rw [← isNaN_iff.ne]
      decide +kernel
    obtain ⟨distance, hsome, hvalue⟩ := h.isNumber ⟨_, hmem, hnumber⟩
    obtain rfl := Option.some.inj (hnearest.symm.trans hsome)
    exact hvalue (isNaN_iff.1 hnan)

end LightningDetector

end WeatherBus
