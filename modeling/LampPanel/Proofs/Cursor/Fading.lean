import LampPanel.Checked.Panel
import LampPanel.Proofs.Cursor.Place
import Mathlib.Algebra.Order.Floor.Div

/-!
# The course of a fade

A level goes straight to its target and stops there. Cursors at one place stay at one place and come
no farther apart.
-/

namespace LampPanel

namespace Fade

/-- The ticks in which the fade arrives from any colour: the steps of its stride that cover the
whole range of a level, the last of which may be shorter. -/
def settling (fade : Fade) : Nat :=
  255 ⌈/⌉ fade.stride.toNat

theorem settling_le_iff {fade : Fade} {ticks : Nat} :
    fade.settling ≤ ticks ↔ 255 ≤ ticks * fade.stride.toNat := by
  rw [settling, ceilDiv_le_iff_le_mul fade.stride_pos, Nat.mul_comm]

theorem settling_pos (fade : Fade) : 0 < fade.settling := by
  rw [← Nat.not_le, settling_le_iff, Nat.zero_mul]
  decide

end Fade

namespace Pattern

/-- The pattern stays in the given fade for ever after the given ticks from its start. -/
inductive RestsIn (pattern : Pattern) : Fade → Nat → Prop where
  | first (hfirst : pattern.first.ticks = 0) : RestsIn pattern pattern.first 0
  | second (hfirst : 0 < pattern.first.ticks) (hsecond : pattern.second.ticks = 0) :
      RestsIn pattern pattern.second pattern.first.ticks.toNat

theorem RestsIn.fade_place {pattern : Pattern} {rest : Fade} {lead ticks : Nat}
    (h : pattern.RestsIn rest lead) (hlead : lead ≤ ticks) :
    pattern.fade (pattern.place ticks).1 = rest := by
  cases h with
  | first hfirst =>
    have hzero : pattern.first.ticks.toNat = 0 := congrArg UInt8.toNat hfirst
    rw [place]
    simp only [hzero, if_true, fade]
  | second hfirst hsecond =>
    have hpos : pattern.first.ticks.toNat ≠ 0 := by
      rw [UInt8.lt_iff_toNat_lt] at hfirst
      exact Nat.ne_of_gt hfirst
    have hzero : pattern.second.ticks.toNat = 0 := congrArg UInt8.toNat hsecond
    rw [place]
    simp only [if_neg hpos, hzero, if_true, if_neg (Nat.not_lt.mpr hlead), fade]

end Pattern

namespace Cursor

/-- A cursor after some ticks of a pattern that comes to rest. The distance left shrinks with each
tick of the fade of rest. -/
structure Settling (pattern : Pattern) (rest : Fade) (lead ticks : Nat) (cursor : Cursor) :
    Prop where
  place_eq : cursor.place = pattern.place ticks
  near : ∀ channel,
    Slew.distance (cursor.color.level channel) (rest.target.level channel) ≤
      255 - (ticks - lead) * rest.stride.toNat

variable {pattern : Pattern} {rest : Fade} {lead ticks : Nat} {cursor : Cursor}

theorem settling_rewind (pattern : Pattern) (rest : Fade) (lead : Nat) (cursor : Cursor) :
    cursor.rewind.Settling pattern rest lead 0 where
  place_eq := (Pattern.place_zero pattern).symm
  near := by
    intro channel
    rw [Nat.zero_sub, Nat.zero_mul, Nat.sub_zero]
    exact Slew.distance_le _ _

theorem Settling.step (h : cursor.Settling pattern rest lead ticks)
    (hrests : pattern.RestsIn rest lead) :
    (cursor.step pattern).Settling pattern rest lead (ticks + 1) where
  place_eq := step_place h.place_eq
  near := by
    intro channel
    by_cases hlead : lead ≤ ticks
    · have hfade : pattern.fade cursor.phase = rest := by
        have hphase : cursor.phase = (pattern.place ticks).1 := congrArg Prod.fst h.place_eq
        rw [hphase, hrests.fade_place hlead]
      have hnear := h.near channel
      have hticks : ticks + 1 - lead = ticks - lead + 1 := Nat.succ_sub hlead
      rw [step_color, hfade, Fade.level_apply, Slew.distance_toward, hticks, Nat.succ_mul]
      omega
    · -- The fade of rest has not begun, and no colour is farther off than the whole range.
      have hnone : ticks + 1 - lead = 0 := by omega
      rw [hnone, Nat.zero_mul, Nat.sub_zero]
      exact Slew.distance_le _ _

theorem Settling.color_eq (h : cursor.Settling pattern rest lead ticks)
    (hticks : lead + rest.settling ≤ ticks) : cursor.color = rest.target := by
  apply Rgb.ext_level
  intro channel
  have hcover : 255 ≤ (ticks - lead) * rest.stride.toNat := Fade.settling_le_iff.mp (by omega)
  have hnear := h.near channel
  rw [Nat.sub_eq_zero_of_le hcover] at hnear
  exact Slew.eq_of_distance_eq_zero (Nat.le_zero.mp hnear)

open Checked

def playChecked (cursor : Cursor) (pattern : Pattern) (ticks : Nat) : Except Trap Cursor :=
  (List.replicate ticks pattern).foldlM stepChecked cursor

theorem playChecked_eq (cursor : Cursor) (pattern : Pattern) (ticks : Nat) :
    cursor.playChecked pattern ticks = .ok (cursor.play pattern ticks) := by
  induction ticks generalizing cursor with
  | zero => rfl
  | succ ticks ih =>
    rw [playChecked, List.replicate_succ, List.foldlM_cons, stepChecked_eq, ok_bind]
    exact ih (cursor.step pattern)

/-- So many ticks of the pattern all find the cursor in the phase where it is now. -/
def Stays (cursor : Cursor) (pattern : Pattern) (ticks : Nat) : Prop :=
  ∀ i < ticks, (cursor.play pattern i).phase = cursor.phase

instance (cursor : Cursor) (pattern : Pattern) (ticks : Nat) :
    Decidable (cursor.Stays pattern ticks) :=
  inferInstanceAs (Decidable (∀ i < ticks, (cursor.play pattern i).phase = cursor.phase))

theorem Stays.mono (h : cursor.Stays pattern ticks) {fewer : Nat} (hle : fewer ≤ ticks) :
    cursor.Stays pattern fewer := by
  intro i hi
  exact h i (Nat.lt_of_lt_of_le hi hle)

theorem Stays.toNat_level_play (h : cursor.Stays pattern ticks) (channel : Channel) :
    let fade := pattern.fade cursor.phase
    ((cursor.play pattern ticks).color.level channel).toNat =
      Slew.moved (cursor.color.level channel).toNat (fade.target.level channel).toNat
        (ticks * fade.stride.toNat) := by
  intro fade
  induction ticks with
  | zero => rw [play_zero, Nat.zero_mul, Slew.moved_zero]
  | succ ticks ih =>
    -- The tick is still one of the same fade, so its move continues the one made so far.
    have hphase : (cursor.play pattern ticks).phase = cursor.phase := h ticks (Nat.lt_succ_self _)
    have hlevel := ih (h.mono (Nat.le_succ ticks))
    rw [play_succ, step_color, hphase, Fade.level_apply, Slew.toNat_toward_eq_moved, hlevel,
      Slew.moved_moved, Nat.succ_mul]

theorem Stays.between (h : cursor.Stays pattern ticks) (channel : Channel) {i j : Nat} (hij : i ≤ j)
    (hj : j ≤ ticks) :
    Slew.Between ((cursor.play pattern i).color.level channel)
      ((pattern.fade cursor.phase).target.level channel)
      ((cursor.play pattern j).color.level channel) := by
  have hi := (h.mono (Nat.le_trans hij hj)).toNat_level_play channel
  have hlength : i * (pattern.fade cursor.phase).stride.toNat +
      (j - i) * (pattern.fade cursor.phase).stride.toNat =
        j * (pattern.fade cursor.phase).stride.toNat := by
    rw [← Nat.add_mul, Nat.add_sub_cancel' hij]
  apply Slew.between_of_moved
  rw [hi, Slew.moved_moved, hlength]
  exact (h.mono hj).toNat_level_play channel

theorem Stays.level_eq_target_iff (h : cursor.Stays pattern ticks) (channel : Channel) :
    let fade := pattern.fade cursor.phase
    let target := fade.target.level channel
    (cursor.play pattern ticks).color.level channel = target ↔
      Slew.distance (cursor.color.level channel) target ⌈/⌉ fade.stride.toNat ≤ ticks := by
  intro fade target
  rw [← UInt8.toNat_inj, h.toNat_level_play channel, Slew.moved_eq_target_iff,
    ceilDiv_le_iff_le_mul fade.stride_pos, Nat.mul_comm]

theorem play_place_of_lt (hbegun : cursor.elapsed = 0)
    (hlt : ticks < (pattern.fade cursor.phase).ticks.toNat) :
    (cursor.play pattern ticks).place = (cursor.phase, ticks) := by
  induction ticks with
  | zero =>
    rw [play_zero, place, hbegun]
    rfl
  | succ ticks ih =>
    have hplace := ih (Nat.lt_of_succ_lt hlt)
    rw [play_succ, step_place_of_place hplace, if_neg (Nat.ne_zero_of_lt hlt),
      if_neg (Nat.not_le_of_lt hlt)]

theorem stays_of_begun (hbegun : cursor.elapsed = 0) :
    cursor.Stays pattern (pattern.fade cursor.phase).ticks.toNat := by
  intro i hi
  exact congrArg Prod.fst (play_place_of_lt hbegun hi)

theorem play_place_of_begun (hbegun : cursor.elapsed = 0)
    (hpos : 0 < (pattern.fade cursor.phase).ticks.toNat) :
    (cursor.play pattern (pattern.fade cursor.phase).ticks.toNat).place =
      (cursor.phase.other, 0) := by
  obtain ⟨last, hlast⟩ := Nat.exists_eq_add_one.mpr hpos
  have hplace : (cursor.play pattern last).place = (cursor.phase, last) :=
    play_place_of_lt hbegun (by omega)
  rw [hlast, play_succ, step_place_of_place hplace, hlast, if_neg (Nat.succ_ne_zero last),
    if_pos (Nat.le_refl _)]

/-- A fade moves each channel by its stride a tick and stops at the target, after as many ticks as
strides cover the distance. If it is long enough for the whole range, it is left at its target. -/
theorem fades_straight (cursor : Cursor) (pattern : Pattern) :
    let fade := pattern.fade cursor.phase
    (∀ ticks, cursor.playChecked pattern ticks = .ok (cursor.play pattern ticks)) ∧
      (∀ ticks, cursor.Stays pattern ticks → ∀ channel,
        let target := fade.target.level channel
        let level := fun i => (cursor.play pattern i).color.level channel
        let duty := fun i => (cursor.play pattern i).duty.level channel
        (level ticks).toNat =
            Slew.moved (level 0).toNat target.toNat (ticks * fade.stride.toNat) ∧
          (∀ i j, i ≤ j → j ≤ ticks → Slew.Between (level i) target (level j) ∧
            Slew.Between (duty i) (Brightness.linear target) (duty j)) ∧
          (level ticks = target ↔
            Slew.distance (level 0) target ⌈/⌉ fade.stride.toNat ≤ ticks)) ∧
      (cursor.elapsed = 0 → 255 ≤ fade.ticks.toNat * fade.stride.toNat →
        let left := cursor.play pattern fade.ticks.toNat
        cursor.Stays pattern fade.ticks.toNat ∧ left.place = (cursor.phase.other, 0) ∧
          left.color = fade.target ∧ left.duty = fade.target.linear) := by
  intro fade
  refine ⟨cursor.playChecked_eq pattern, ?_, ?_⟩
  · intro ticks hstays channel target level duty
    refine ⟨hstays.toNat_level_play channel, ?_, hstays.level_eq_target_iff channel⟩
    intro i j hij hj
    have hbetween := hstays.between channel hij hj
    refine ⟨hbetween, ?_⟩
    have hduty : ∀ i, duty i = Brightness.linear (level i) := fun i => duty_level _ channel
    rw [hduty, hduty]
    exact hbetween.linear
  · intro hbegun hcover left
    have hpos : 0 < fade.ticks.toNat := by
      apply Nat.pos_of_ne_zero
      intro hzero
      rw [hzero, Nat.zero_mul] at hcover
      omega
    have hstays : cursor.Stays pattern fade.ticks.toNat := stays_of_begun hbegun
    have hcolor : left.color = fade.target := by
      apply Rgb.ext_level
      intro channel
      apply (hstays.level_eq_target_iff channel).mpr
      rw [ceilDiv_le_iff_le_mul fade.stride_pos, Nat.mul_comm]
      exact Nat.le_trans (Slew.distance_le _ _) hcover
    exact ⟨hstays, play_place_of_begun hbegun hpos, hcolor, congrArg Rgb.linear hcolor⟩

/-- A stride of forty takes red down a way of ninety in three ticks, and every channel to its target
in the seven that the fade has. -/
theorem fades_straight_handed_over :
    let cursor : Cursor := ⟨.second, 0, ⟨190, 0, 20⟩⟩
    let pattern : Pattern := ⟨.black, ⟨⟨100, 255, 20⟩, 40, 7⟩⟩
    cursor.Stays pattern 3 ∧ ((cursor.play pattern 3).color.level .green).toNat = 120 ∧
      (cursor.play pattern 3).color.level .red = 100 ∧
      (cursor.play pattern 2).color.level .red ≠ 100 ∧
      (cursor.play pattern 7).place = (.first, 0) ∧
      (cursor.play pattern 7).duty = Rgb.linear ⟨100, 255, 20⟩ := by
  intro cursor pattern
  obtain ⟨-, hfades, hleft⟩ := fades_straight cursor pattern
  have hthree : cursor.Stays pattern 3 := by decide
  have htwo : cursor.Stays pattern 2 := hthree.mono (by decide)
  obtain ⟨hgreen, -, -⟩ := hfades 3 hthree .green
  obtain ⟨-, -, hred⟩ := hfades 3 hthree .red
  obtain ⟨-, -, hearly⟩ := hfades 2 htwo .red
  obtain ⟨-, hplace, -, hduty⟩ := hleft rfl (by decide)
  exact ⟨hthree, hgreen.trans (by decide), hred.mpr (by decide),
    fun hreached => absurd (hearly.mp hreached) (by decide), hplace, hduty⟩

def targets (cursor : Cursor) : List Pattern → List Rgb
  | [] => []
  | pattern :: patterns =>
    (pattern.fade cursor.phase).target :: (cursor.step pattern).targets patterns

/-- The first level of a channel and the levels that a run moves it toward. -/
def levelsMet (cursor : Cursor) (patterns : List Pattern) (channel : Channel) : List Nat :=
  (cursor.color :: cursor.targets patterns).map fun color => (color.level channel).toNat

theorem levelsMet_ne_nil (cursor : Cursor) (patterns : List Pattern) (channel : Channel) :
    cursor.levelsMet patterns channel ≠ [] :=
  List.cons_ne_nil _ _

variable {left right : Cursor}

theorem run_place_congr (h : left.place = right.place) (patterns : List Pattern) :
    (left.run patterns).place = (right.run patterns).place := by
  induction patterns generalizing left right with
  | nil => exact h
  | cons pattern patterns ih => exact ih (step_place_congr h pattern)

/-- What moves of two levels toward one target by one slew keep, a run of two cursors keeps. -/
theorem level_run_invariant (keeps : UInt8 → UInt8 → Prop)
    (hmoves : ∀ {first second}, keeps first second → ∀ target slew,
      keeps (Slew.toward first target slew) (Slew.toward second target slew))
    (hplace : left.place = right.place) {channel : Channel}
    (h : keeps (left.color.level channel) (right.color.level channel)) (patterns : List Pattern) :
    keeps ((left.run patterns).color.level channel) ((right.run patterns).color.level channel) := by
  induction patterns generalizing left right with
  | nil => exact h
  | cons pattern patterns ih =>
    have hphase : left.phase = right.phase := congrArg Prod.fst hplace
    apply ih (step_place_congr hplace pattern)
    rw [step_level, step_level, hphase]
    exact hmoves h _ _

theorem distance_run_le (hplace : left.place = right.place) (channel : Channel)
    (patterns : List Pattern) :
    Slew.distance ((left.run patterns).color.level channel)
        ((right.run patterns).color.level channel) ≤
      Slew.distance (left.color.level channel) (right.color.level channel) := by
  let gap := Slew.distance (left.color.level channel) (right.color.level channel)
  apply level_run_invariant (fun first second => Slew.distance first second ≤ gap) _ hplace
    (Nat.le_refl gap)
  intro first second hnear target slew
  exact Nat.le_trans (Slew.distance_toward_toward_le first second target slew) hnear

theorem level_run_mem_range {low high : Nat} (cursor : Cursor) (patterns : List Pattern)
    (channel : Channel)
    (hmet : ∀ level ∈ cursor.levelsMet patterns channel, low ≤ level ∧ level ≤ high) :
    low ≤ ((cursor.run patterns).color.level channel).toNat ∧
      ((cursor.run patterns).color.level channel).toNat ≤ high := by
  induction patterns generalizing cursor with
  | nil => exact hmet _ List.mem_cons_self
  | cons pattern patterns ih =>
    obtain ⟨hlevel, htarget, hlater⟩ : _ ∧ _ ∧ _ := by
      simpa only [levelsMet, targets, List.map_cons, List.forall_mem_cons] using hmet
    -- The level after a tick lies between the first two levels met and takes their place.
    apply ih
    refine List.forall_mem_cons.mpr ⟨?_, hlater⟩
    simp only [step_level]
    exact (Slew.between_toward _ _ _).mem_range hlevel htarget

/-- From any time to a later one a channel of two cursors gets no farther apart and keeps its order.
It stays within the range of its first level and the targets. -/
theorem never_drift_apart (hplace : left.place = right.place) (before after : List Pattern) :
    let whole := before ++ after
    (left.run whole).place = (right.run whole).place ∧
      ∀ channel,
        let first := fun run => (left.run run).color.level channel
        let second := fun run => (right.run run).color.level channel
        Slew.distance (first whole) (second whole) ≤ Slew.distance (first before) (second before) ∧
          (first before ≤ second before → first whole ≤ second whole ∧
            (left.run whole).duty.level channel ≤ (right.run whole).duty.level channel) ∧
          (first before = second before → first whole = second whole) ∧
          ∀ cursor ∈ [left, right],
            let met := cursor.levelsMet whole channel
            let level := ((cursor.run whole).color.level channel).toNat
            met.min (cursor.levelsMet_ne_nil _ _) ≤ level ∧
              level ≤ met.max (cursor.levelsMet_ne_nil _ _) := by
  intro whole
  refine ⟨run_place_congr hplace whole, ?_⟩
  intro channel first second
  have hnow : (left.run before).place = (right.run before).place := run_place_congr hplace before
  have hfirst : first whole = ((left.run before).run after).color.level channel := by
    rw [← run_append]
  have hsecond : second whole = ((right.run before).run after).color.level channel := by
    rw [← run_append]
  refine ⟨?_, ?_, ?_, ?_⟩
  · rw [hfirst, hsecond]
    exact distance_run_le hnow channel after
  · intro hle
    have hlevel : first whole ≤ second whole := by
      rw [hfirst, hsecond]
      exact level_run_invariant (· ≤ ·) Slew.toward_le_toward hnow hle after
    refine ⟨hlevel, ?_⟩
    rw [duty_level, duty_level]
    exact Brightness.linear_mono hlevel
  · intro heq
    rw [hfirst, hsecond]
    apply level_run_invariant (· = ·) _ hnow heq after
    intro _ _ hsame target slew
    rw [hsame]
  · intro cursor _ met level
    apply level_run_mem_range
    intro value hvalue
    exact ⟨List.min_le_of_mem hvalue, List.le_max_of_mem hvalue⟩

/-- The red levels lie on both sides of their target, and only the lower one reaches it before the
fade gives way. -/
theorem never_drift_apart_opposite :
    let left : Cursor := ⟨.second, 3, ⟨0, 200, 10⟩⟩
    let right : Cursor := ⟨.second, 3, ⟨250, 100, 10⟩⟩
    let slow : Pattern := ⟨⟨.white, 100, 1⟩, ⟨⟨120, 120, 5⟩, 50, 5⟩⟩
    let fast : Pattern := ⟨⟨.white, 0, 9⟩, ⟨⟨120, 120, 5⟩, 75, 5⟩⟩
    let whole := [slow, fast, slow]
    left.place = right.place ∧ (left.run whole).place = (right.run whole).place ∧
      Slew.distance ((left.run whole).color.level .red) ((right.run whole).color.level .red) ≤ 150 ∧
      (left.run whole).duty.level .red ≤ (right.run whole).duty.level .red ∧
      (left.run whole).color.level .blue = (right.run whole).color.level .blue ∧
      ((right.run whole).color.level .red).toNat ≤ 255 ∧
      120 ≤ ((right.run whole).color.level .red).toNat := by
  intro left right slow fast whole
  have hplace : left.place = right.place := rfl
  obtain ⟨hafter, hchannels⟩ := never_drift_apart hplace [slow] [fast, slow]
  obtain ⟨hnear, hordered, -, hrange⟩ := hchannels .red
  obtain ⟨-, -, hsame, -⟩ := hchannels .blue
  obtain ⟨hleast, hgreatest⟩ := hrange right (List.mem_cons_of_mem _ List.mem_cons_self)
  exact ⟨hplace, hafter, Nat.le_trans hnear (by decide), (hordered (by decide)).2, hsame (by decide),
    Nat.le_trans hgreatest (by decide), Nat.le_trans (by decide) hleast⟩

end Cursor

end LampPanel
