import LampPanel.Modulator
import Mathlib.Data.List.Forall2
import Mathlib.Data.Nat.Periodic

/-!
# The subframes of a period

From any subframe on, as many ticks as a period has subframes visit each of them once.
-/

namespace LampPanel

namespace Modulator

def render (modulator : Modulator) : List Rgb → List Pins
  | [] => []
  | duty :: duties => (modulator.tick duty).2 :: (modulator.tick duty).1.render duties

def run (modulator : Modulator) (duties : List Rgb) : Modulator :=
  duties.foldl (fun modulator duty => (modulator.tick duty).1) modulator

theorem countP_mod_lt (first period level : Nat) :
    (List.range' first period).countP (fun i => i % period < level) = min level period := by
  have hperiodic : Function.Periodic (fun i => i % period < level) period := by
    intro i
    simp only [Nat.add_mod_right]
  have hresidues : (Finset.range period).filter (fun i => i % period < level) =
      Finset.range (min level period) := by
    ext i
    simp only [Finset.mem_filter, Finset.mem_range, lt_min_iff]
    constructor
    · rintro ⟨hi, hlevel⟩
      rw [Nat.mod_eq_of_lt hi] at hlevel
      exact ⟨hlevel, hi⟩
    · rintro ⟨hlevel, hi⟩
      rw [Nat.mod_eq_of_lt hi]
      exact ⟨hi, hlevel⟩
  have hwindow := Nat.filter_Ico_card_eq_of_periodic first period _ hperiodic
  rw [Nat.count_eq_card_filter_range, hresidues, Finset.card_range, Nat.Ico_eq_range',
    Nat.add_sub_cancel_left] at hwindow
  rw [← hwindow, List.countP_eq_length_filter]
  rfl

/-- A modulator after some ticks from the start of a period. -/
structure Ticked (modulator : Modulator) (ticks : Nat) : Prop where
  period_pos : 0 < modulator.period.toNat
  subframe_eq : modulator.subframe.toNat = ticks % modulator.period.toNat

variable {modulator : Modulator} {ticks : Nat}

theorem ticked_of_lt (h : modulator.subframe.toNat < modulator.period.toNat) :
    modulator.Ticked modulator.subframe.toNat :=
  ⟨Nat.zero_lt_of_lt h, (Nat.mod_eq_of_lt h).symm⟩

theorem Ticked.subframe_lt (h : modulator.Ticked ticks) :
    modulator.subframe.toNat < modulator.period.toNat := by
  rw [h.subframe_eq]
  exact Nat.mod_lt _ h.period_pos

theorem Ticked.advance (h : modulator.Ticked ticks) : modulator.advance.Ticked (ticks + 1) := by
  refine ⟨h.period_pos, ?_⟩
  rw [toNat_advance modulator h.subframe_lt, h.subframe_eq, Nat.mod_add_mod, advance_period]

theorem ticked_start (steps : UInt16) : (start steps).Ticked 0 where
  period_pos := by
    rw [toNat_start_period]
    exact Nat.le_max_right _ 1
  subframe_eq := (Nat.zero_mod _).symm

theorem Ticked.run (h : modulator.Ticked ticks) (duties : List Rgb) :
    (modulator.run duties).Ticked (ticks + duties.length) ∧
      (modulator.run duties).period = modulator.period := by
  induction duties generalizing modulator ticks with
  | nil => exact ⟨h, rfl⟩
  | cons duty duties ih =>
    obtain ⟨hticked, hperiod⟩ := ih h.advance
    rw [List.length_cons, Nat.add_comm duties.length, ← Nat.add_assoc]
    exact ⟨hticked, hperiod⟩

theorem Ticked.run_period (h : modulator.Ticked ticks) {duties : List Rgb}
    (hlength : duties.length = modulator.period.toNat) : modulator.run duties = modulator := by
  obtain ⟨hticked, hperiod⟩ := h.run duties
  have hsubframe : (modulator.run duties).subframe = modulator.subframe := by
    rw [← UInt16.toNat_inj, hticked.subframe_eq, h.subframe_eq, hperiod, hlength, Nat.add_mod_right]
  exact congrArg₂ Modulator.mk hsubframe hperiod

theorem Ticked.pins_eq (h : modulator.Ticked ticks) (duty : Rgb) :
    pins modulator.subframe duty =
      .ofChannels fun channel =>
        ticks % modulator.period.toNat < (duty.level channel).toNat := by
  unfold pins
  congr 1
  funext channel
  rw [decide_eq_decide, UInt16.lt_iff_toNat_lt, h.subframe_eq, UInt8.toNat_toUInt16]

theorem Ticked.render_eq (h : modulator.Ticked ticks) (duties : List Rgb) :
    modulator.render duties =
      duties.mapIdx fun i duty => .ofChannels fun channel =>
        (ticks + i) % modulator.period.toNat < (duty.level channel).toNat := by
  induction duties generalizing modulator ticks with
  | nil => rfl
  | cons duty duties ih =>
    have hlater := ih h.advance
    rw [advance_period] at hlater
    have hpins : (modulator.tick duty).2 = _ := h.pins_eq duty
    have hnext : (modulator.tick duty).1 = modulator.advance := rfl
    rw [render, List.mapIdx_cons, hpins, hnext, hlater]
    simp only [Nat.add_zero, Nat.add_assoc, Nat.add_comm 1]

theorem Ticked.countP_lit_replicate (h : modulator.Ticked ticks) (duty : Rgb) (channel : Channel)
    (count : Nat) :
    (modulator.render (List.replicate count duty)).countP (fun pins => pins.lit channel) =
      (List.range' ticks count).countP
        (fun i => i % modulator.period.toNat < (duty.level channel).toNat) := by
  have hrendered : modulator.render (List.replicate count duty) =
      (List.range' ticks count).map fun i => .ofChannels fun channel =>
        i % modulator.period.toNat < (duty.level channel).toNat := by
    rw [h.render_eq]
    apply List.ext_getElem
    · simp
    · intro i _ _
      simp
  rw [hrendered, List.countP_map]
  simp only [Function.comp_def, Pins.lit_ofChannels]

theorem countP_lit_period
    (h : modulator.subframe.toNat < modulator.period.toNat) (duty : Rgb) (channel : Channel) :
    (modulator.render (List.replicate modulator.period.toNat duty)).countP
        (fun pins => pins.lit channel) =
      min (duty.level channel).toNat modulator.period.toNat := by
  rw [(ticked_of_lt h).countP_lit_replicate, countP_mod_lt]

private theorem countP_lit_render_cons (modulator : Modulator) (duty : Rgb) (duties : List Rgb)
    (channel : Channel) :
    (modulator.render (duty :: duties)).countP (fun pins => pins.lit channel) =
      (modulator.advance.render duties).countP (fun pins => pins.lit channel) +
        if modulator.subframe.toNat < (duty.level channel).toNat then 1 else 0 := by
  change (pins modulator.subframe duty :: modulator.advance.render duties).countP
    (fun pins => pins.lit channel) = _
  simp only [List.countP_cons, lit_pins, decide_eq_true_iff, UInt16.lt_iff_toNat_lt,
    UInt8.toNat_toUInt16]

theorem countP_lit_render_le {channel : Channel} {lower upper : List Rgb}
    (h : List.Forall₂ (fun lower upper => lower.level channel ≤ upper.level channel) lower upper)
    (modulator : Modulator) :
    (modulator.render lower).countP (fun pins => pins.lit channel) ≤
      (modulator.render upper).countP (fun pins => pins.lit channel) := by
  induction h generalizing modulator with
  | nil => exact Nat.le_refl _
  | @cons left right lower upper hle _ ih =>
    have hlater := ih modulator.advance
    have hlevel : (left.level channel).toNat ≤ (right.level channel).toNat :=
      UInt8.le_iff_toNat_le.mp hle
    rw [countP_lit_render_cons, countP_lit_render_cons]
    split <;> split <;> omega

private theorem forall₂_replicate_left {relation : Rgb → Rgb → Prop} {duty : Rgb}
    {duties : List Rgb} (h : ∀ other ∈ duties, relation duty other) :
    List.Forall₂ relation (List.replicate duties.length duty) duties := by
  rw [← List.map_const', List.forall₂_map_left_iff, List.forall₂_same]
  exact h

theorem countP_lit_between (h : modulator.subframe.toNat < modulator.period.toNat)
    {duties : List Rgb} (hlength : duties.length = modulator.period.toNat) {channel : Channel}
    {least greatest : Rgb} (hleast : ∀ duty ∈ duties, least.level channel ≤ duty.level channel)
    (hgreatest : ∀ duty ∈ duties, duty.level channel ≤ greatest.level channel) :
    min (least.level channel).toNat modulator.period.toNat ≤
        (modulator.render duties).countP (fun pins => pins.lit channel) ∧
      (modulator.render duties).countP (fun pins => pins.lit channel) ≤
        min (greatest.level channel).toNat modulator.period.toNat := by
  rw [← countP_lit_period h, ← countP_lit_period h, ← hlength]
  exact ⟨countP_lit_render_le (forall₂_replicate_left hleast) modulator,
    countP_lit_render_le (forall₂_replicate_left hgreatest).flip modulator⟩

/-- In as many ticks as a period has subframes, each at a duty of its own, a channel is lit at least
as often as its least duty says and at most as often as its greatest. -/
theorem on_time_between (steps : UInt16) (earlier : List Rgb) {duties : List Rgb}
    (hlength : duties.length = max steps.toNat 1) (channel : Channel) :
    let period := max steps.toNat 1
    let modulator := (start steps).run earlier
    let levels := duties.map fun duty => (duty.level channel).toNat
    let lit := (modulator.render duties).countP fun pins => pins.lit channel
    (∃ least greatest, levels.min? = some least ∧ levels.max? = some greatest ∧
        min least period ≤ lit ∧ lit ≤ min greatest period) ∧
      (∀ duty, duties = List.replicate period duty → lit = min (duty.level channel).toNat period) ∧
      modulator.run duties = modulator := by
  intro period modulator levels lit
  obtain ⟨hticked, hsame⟩ := (ticked_start steps).run earlier
  have hperiod : modulator.period.toNat = period := by
    rw [hsame]
    exact toNat_start_period steps
  have hwhole : duties.length = modulator.period.toNat := hlength.trans hperiod.symm
  refine ⟨?_, ?_, hticked.run_period hwhole⟩
  · have hne : levels ≠ [] := by
      apply List.ne_nil_of_length_pos
      rw [List.length_map, hwhole]
      exact hticked.period_pos
    obtain ⟨least, hleast⟩ := Option.ne_none_iff_exists'.mp (mt List.min?_eq_none_iff.mp hne)
    obtain ⟨greatest, hgreatest⟩ := Option.ne_none_iff_exists'.mp (mt List.max?_eq_none_iff.mp hne)
    obtain ⟨hleast_mem, hleast_le⟩ := List.min?_eq_some_iff.mp hleast
    obtain ⟨hgreatest_mem, hle_greatest⟩ := List.max?_eq_some_iff.mp hgreatest
    obtain ⟨low, _, rfl⟩ := List.mem_map.mp hleast_mem
    obtain ⟨high, _, rfl⟩ := List.mem_map.mp hgreatest_mem
    have hbetween := countP_lit_between hticked.subframe_lt hwhole
      (fun duty hduty => UInt8.le_iff_toNat_le.mpr (hleast_le _ (List.mem_map_of_mem hduty)))
      (fun duty hduty => UInt8.le_iff_toNat_le.mpr (hle_greatest _ (List.mem_map_of_mem hduty)))
    rw [hperiod] at hbetween
    exact ⟨_, _, hleast, hgreatest, hbetween⟩
  · rintro duty rfl
    have hsteady := countP_lit_period hticked.subframe_lt duty channel
    rw [hperiod] at hsteady
    exact hsteady

/-- Red is lit in two of three ticks, where its least duty asks for one and its greatest for all. -/
theorem on_time_between_changing :
    let modulator := (start 3).run [.white, .white]
    let duties : List Rgb := [⟨1, 0, 0⟩, ⟨5, 0, 0⟩, ⟨2, 0, 0⟩]
    let levels := duties.map fun duty => (duty.level .red).toNat
    let lit := (modulator.render duties).countP fun pins => pins.lit .red
    (duties.length = max (3 : UInt16).toNat 1 ∧ modulator.subframe = 2) ∧
      (levels.min? = some 1 ∧ levels.max? = some 5 ∧ min 1 3 ≤ lit ∧ lit ≤ min 5 3) ∧
      lit = 2 ∧ modulator.run duties = modulator := by
  intro modulator duties levels lit
  have hlength : duties.length = max (3 : UInt16).toNat 1 := rfl
  obtain ⟨⟨least, greatest, hleast, hgreatest, hbetween⟩, _, hback⟩ :=
    on_time_between 3 [.white, .white] hlength .red
  obtain rfl : 1 = least := Option.some.inj hleast
  obtain rfl : 5 = greatest := Option.some.inj hgreatest
  exact ⟨⟨hlength, rfl⟩, ⟨hleast, hgreatest, hbetween⟩, by decide, hback⟩

end Modulator

end LampPanel
