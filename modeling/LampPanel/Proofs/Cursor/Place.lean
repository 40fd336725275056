import LampPanel.Cursor

/-!
# Keeping time

The place in a pattern depends on the number of ticks since its start alone; moves toward one target
add up.
-/

namespace LampPanel

namespace Slew

/-- How far apart two levels are, such as a level and its target. -/
def distance (level target : UInt8) : Nat :=
  (level.toNat - target.toNat) + (target.toNat - level.toNat)

theorem distance_le (level target : UInt8) : distance level target ≤ 255 := by
  have hlevel := level.toNat_lt
  have htarget := target.toNat_lt
  unfold distance
  omega

theorem eq_of_distance_eq_zero {level target : UInt8} (h : distance level target = 0) :
    level = target := by
  unfold distance at h
  rw [← UInt8.toNat_inj]
  omega

theorem distance_toward (level target slew : UInt8) :
    distance (toward level target slew) target = distance level target - slew.toNat := by
  unfold distance
  rw [toNat_toward]
  split <;> omega

/-- Where a level gets by a move of the given length toward its target, at which it stops. -/
def moved (level target length : Nat) : Nat :=
  if level ≤ target then level + min length (target - level)
  else level - min length (level - target)

theorem toNat_toward_eq_moved (level target slew : UInt8) :
    (toward level target slew).toNat = moved level.toNat target.toNat slew.toNat := by
  rw [toNat_toward, moved]
  split <;> split <;> omega

@[simp] theorem moved_zero (level target : Nat) : moved level target 0 = level := by
  simp [moved]

theorem moved_moved (level target first second : Nat) :
    moved (moved level target first) target second = moved level target (first + second) := by
  unfold moved
  split <;> split <;> omega

theorem moved_eq_target_iff (level target : UInt8) (length : Nat) :
    moved level.toNat target.toNat length = target.toNat ↔ distance level target ≤ length := by
  unfold moved distance
  split <;> omega

/-- The level is on the way from one level to another, which may lead up or down. -/
def Between (start stop level : UInt8) : Prop :=
  start ≤ level ∧ level ≤ stop ∨ stop ≤ level ∧ level ≤ start

theorem between_of_moved {start target level : UInt8} {length : Nat}
    (h : level.toNat = moved start.toNat target.toNat length) : Between start target level := by
  unfold moved at h
  simp only [Between, UInt8.le_iff_toNat_le, h]
  split <;> omega

theorem between_toward (level target slew : UInt8) :
    Between level target (toward level target slew) :=
  between_of_moved (toNat_toward_eq_moved level target slew)

theorem Between.linear {start stop level : UInt8} (h : Between start stop level) :
    Between (Brightness.linear start) (Brightness.linear stop) (Brightness.linear level) := by
  rcases h with ⟨hstart, hstop⟩ | ⟨hstop, hstart⟩
  · exact .inl ⟨Brightness.linear_mono hstart, Brightness.linear_mono hstop⟩
  · exact .inr ⟨Brightness.linear_mono hstop, Brightness.linear_mono hstart⟩

theorem Between.mem_range {start stop level : UInt8} (h : Between start stop level) {low high : Nat}
    (hstart : low ≤ start.toNat ∧ start.toNat ≤ high)
    (hstop : low ≤ stop.toNat ∧ stop.toNat ≤ high) :
    low ≤ level.toNat ∧ level.toNat ≤ high := by
  simp only [Between, UInt8.le_iff_toNat_le] at h
  omega

theorem toward_le_toward {left right : UInt8} (h : left ≤ right) (target slew : UInt8) :
    toward left target slew ≤ toward right target slew := by
  rw [UInt8.le_iff_toNat_le] at h ⊢
  rw [toNat_toward, toNat_toward]
  split <;> split <;> omega

theorem distance_toward_toward_le (left right target slew : UInt8) :
    distance (toward left target slew) (toward right target slew) ≤ distance left right := by
  unfold distance
  rw [toNat_toward, toNat_toward]
  -- The levels may come from the same side of the target or from both.
  split <;> split <;> omega

end Slew

/-- The phase and the ticks spent in it after some ticks from the start of a pattern. -/
def Pattern.place (pattern : Pattern) (ticks : Nat) : Phase × Nat :=
  let first := pattern.first.ticks.toNat
  let second := pattern.second.ticks.toNat
  if first = 0 then (.first, 0)
  else if second = 0 then if ticks < first then (.first, ticks) else (.second, 0)
  else
    let round := ticks % (first + second)
    if round < first then (.first, round) else (.second, round - first)

theorem Pattern.place_zero (pattern : Pattern) : pattern.place 0 = (.first, 0) := by
  rw [place]
  by_cases hfirst : pattern.first.ticks.toNat = 0
  · simp only [hfirst, if_true]
  · have hpos : 0 < pattern.first.ticks.toNat := Nat.pos_of_ne_zero hfirst
    simp only [hfirst, hpos, Nat.zero_mod, if_true, ite_self]

namespace Cursor

def place (cursor : Cursor) : Phase × Nat :=
  (cursor.phase, cursor.elapsed.toNat)

private theorem mod_succ_eq (n period : Nat) (hpos : 0 < period) :
    (n + 1) % period = if n % period + 1 = period then 0 else n % period + 1 := by
  have hlt := Nat.mod_lt n hpos
  rw [← Nat.mod_add_mod n period 1]
  split
  · next hlast => rw [hlast, Nat.mod_self]
  · next hmore => exact Nat.mod_eq_of_lt (by omega)

theorem count_place (cursor : Cursor) (fade : Fade) :
    (cursor.count fade).place =
      if fade.ticks.toNat = 0 then cursor.place
      else if fade.ticks.toNat ≤ cursor.elapsed.toNat + 1 then (cursor.phase.other, 0)
      else (cursor.phase, cursor.elapsed.toNat + 1) := by
  split
  · next hzero =>
    have hendless : fade.endless = true := by
      rw [Fade.endless, beq_iff_eq, ← UInt8.toNat_inj, hzero]
      rfl
    rw [cursor.count_of_endless hendless]
  split
  · next hpos hle => rw [cursor.count_of_le (Nat.pos_of_ne_zero hpos) hle]; rfl
  · next hpos hlt =>
    have hmore : cursor.elapsed.toNat + 1 < fade.ticks.toNat := Nat.lt_of_not_le hlt
    have hticks := fade.ticks.toNat_lt
    have hsucc : (cursor.elapsed + 1).toNat = cursor.elapsed.toNat + 1 := by
      rw [UInt8.toNat_add]
      simp only [UInt8.reduceToNat]
      omega
    rw [cursor.count_of_lt hmore]
    change (cursor.phase, (cursor.elapsed + 1).toNat) = _
    rw [hsucc]

theorem place_step (cursor : Cursor) (pattern : Pattern) :
    (cursor.step pattern).place = (cursor.count (pattern.fade cursor.phase)).place := by
  change (Cursor.count { cursor with color := _ } (pattern.fade cursor.phase)).place = _
  rw [count_place, count_place]
  rfl

theorem step_place_of_place {cursor : Cursor} {phase : Phase} {elapsed : Nat}
    (h : cursor.place = (phase, elapsed)) (pattern : Pattern) :
    (cursor.step pattern).place =
      if (pattern.fade phase).ticks.toNat = 0 then (phase, elapsed)
      else if (pattern.fade phase).ticks.toNat ≤ elapsed + 1 then (phase.other, 0)
      else (phase, elapsed + 1) := by
  obtain ⟨rfl, rfl⟩ := Prod.mk.inj h
  rw [place_step, count_place]
  rfl

theorem step_place_congr {left right : Cursor} (h : left.place = right.place) (pattern : Pattern) :
    (left.step pattern).place = (right.step pattern).place := by
  rw [step_place_of_place h, step_place_of_place rfl]

theorem step_place {cursor : Cursor} {pattern : Pattern} {ticks : Nat}
    (h : cursor.place = pattern.place ticks) :
    (cursor.step pattern).place = pattern.place (ticks + 1) := by
  have hphase : cursor.phase = (pattern.place ticks).1 := congrArg Prod.fst h
  have helapsed : cursor.elapsed.toNat = (pattern.place ticks).2 := congrArg Prod.snd h
  rw [place_step, count_place, place, helapsed, hphase]
  unfold Pattern.place
  by_cases hfirst : pattern.first.ticks.toNat = 0
  · simp only [hfirst, if_true, Pattern.fade]
  by_cases hsecond : pattern.second.ticks.toNat = 0
  · simp only [if_neg hfirst, if_pos hsecond]
    by_cases hbefore : ticks < pattern.first.ticks.toNat
    · simp only [if_pos hbefore, Pattern.fade, if_neg hfirst]
      by_cases hlast : pattern.first.ticks.toNat ≤ ticks + 1
      · rw [if_pos hlast, if_neg (by omega)]
        rfl
      · rw [if_neg hlast, if_pos (by omega)]
    · simp only [if_neg hbefore, Pattern.fade, if_pos hsecond]
      rw [if_neg (by omega)]
  · have hpos : 0 < pattern.first.ticks.toNat + pattern.second.ticks.toNat := by omega
    have hround := mod_succ_eq ticks _ hpos
    have hlt := Nat.mod_lt ticks hpos
    simp only [if_neg hfirst, if_neg hsecond, hround]
    generalize ticks % (pattern.first.ticks.toNat + pattern.second.ticks.toNat) = round at hlt ⊢
    by_cases hbefore : round < pattern.first.ticks.toNat
    · have hmore : ¬ round + 1 = pattern.first.ticks.toNat + pattern.second.ticks.toNat := by omega
      simp only [if_pos hbefore, if_neg hmore, Pattern.fade, if_neg hfirst]
      by_cases hlast : pattern.first.ticks.toNat ≤ round + 1
      · have hzero : round + 1 - pattern.first.ticks.toNat = 0 := by omega
        rw [if_pos hlast, if_neg (by omega), hzero]
        rfl
      · rw [if_neg hlast, if_pos (by omega)]
    · simp only [if_neg hbefore, Pattern.fade, if_neg hsecond]
      by_cases hlast : round + 1 = pattern.first.ticks.toNat + pattern.second.ticks.toNat
      · rw [if_pos (by omega), if_pos hlast, if_pos (by omega)]
        rfl
      · have hnext : round - pattern.first.ticks.toNat + 1 =
            round + 1 - pattern.first.ticks.toNat := by omega
        rw [if_neg (by omega), if_neg hlast, if_neg (by omega), hnext]

/-- Two ticks of the first fade and three of the second make a round. -/
example :
    (List.range 7).map (fun ticks =>
        (Cursor.start.play ⟨⟨.white, 7, 2⟩, ⟨.black, 0, 3⟩⟩ ticks).place) =
      [(.first, 0), (.first, 1), (.second, 0), (.second, 1), (.second, 2), (.first, 0), (.first, 1)] := by
  decide

end Cursor

end LampPanel
