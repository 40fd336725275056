/-!
# Colours

A colour has one byte per channel. Fades move a level toward its target by at most the slew, and a
curve of three straight segments takes perceived levels to linear duties.
-/

namespace LampPanel

inductive Channel where
  | red
  | green
  | blue
deriving DecidableEq

/-- A level for each channel, on the perceived scale or as a linear duty. -/
structure Rgb where
  red : UInt8
  green : UInt8
  blue : UInt8
deriving DecidableEq

namespace Rgb

def level (color : Rgb) : Channel → UInt8
  | .red => color.red
  | .green => color.green
  | .blue => color.blue

def ofLevels (levels : Channel → UInt8) : Rgb :=
  ⟨levels .red, levels .green, levels .blue⟩

@[simp] theorem level_ofLevels (levels : Channel → UInt8) (channel : Channel) :
    (ofLevels levels).level channel = levels channel := by
  cases channel <;> rfl

theorem ext_level {left right : Rgb} (h : ∀ channel, left.level channel = right.level channel) :
    left = right := by
  have hred := h .red
  have hgreen := h .green
  have hblue := h .blue
  cases left
  cases right
  simp_all only [level]

def gray (level : UInt8) : Rgb :=
  ofLevels fun _ => level

def black : Rgb := gray 0

def white : Rgb := gray 255

@[simp]
theorem level_gray (value : UInt8) (channel : Channel) : (gray value).level channel = value :=
  level_ofLevels _ channel

@[simp] theorem level_black (channel : Channel) : black.level channel = 0 :=
  level_gray 0 channel

@[simp] theorem level_white (channel : Channel) : white.level channel = 255 :=
  level_gray 255 channel

def map (f : UInt8 → UInt8) (color : Rgb) : Rgb :=
  ofLevels fun channel => f (color.level channel)

@[simp] theorem level_map (f : UInt8 → UInt8) (color : Rgb) (channel : Channel) :
    (color.map f).level channel = f (color.level channel) :=
  level_ofLevels _ channel

end Rgb

namespace Brightness

/-- The linear duty of a perceived level. -/
def linear (level : UInt8) : UInt8 :=
  if level < 128 then level / 2
  else if level < 192 then 64 + (level - 128)
  else 128 + (level - 192) * 2

theorem toNat_linear (level : UInt8) :
    (linear level).toNat =
      if level.toNat < 128 then level.toNat / 2
      else if level.toNat < 192 then level.toNat - 64
      else 2 * level.toNat - 256 := by
  have hlevel := level.toNat_lt
  unfold linear
  simp only [UInt8.lt_iff_toNat_lt, UInt8.reduceToNat]
  split
  · simp
  split
  · rw [UInt8.toNat_add, UInt8.toNat_sub_of_le _ _ (by simp [UInt8.le_iff_toNat_le]; omega)]
    simp only [UInt8.reduceToNat]
    omega
  · rw [UInt8.toNat_add, UInt8.toNat_mul,
      UInt8.toNat_sub_of_le _ _ (by simp [UInt8.le_iff_toNat_le]; omega)]
    simp only [UInt8.reduceToNat]
    omega

theorem linear_le (level : UInt8) : (linear level).toNat ≤ 254 := by
  have hlevel := level.toNat_lt
  rw [toNat_linear]
  split
  · omega
  split <;> omega

theorem linear_mono {low high : UInt8} (h : low ≤ high) : linear low ≤ linear high := by
  rw [UInt8.le_iff_toNat_le] at h ⊢
  rw [toNat_linear, toNat_linear]
  repeat' split
  all_goals omega

@[simp] theorem linear_zero : linear 0 = 0 := rfl

@[simp] theorem linear_full : linear 255 = 254 := rfl

def table : List UInt8 :=
  (List.range 256).map fun level => linear (UInt8.ofNat level)

@[simp] theorem table_length : table.length = 256 := by
  simp [table]

theorem table_getElem? (level : UInt8) : table[level.toNat]? = some (linear level) := by
  have hlevel := level.toNat_lt
  simp [table, List.getElem?_range hlevel]

end Brightness

namespace Rgb

def linear (color : Rgb) : Rgb :=
  color.map Brightness.linear

@[simp] theorem level_linear (color : Rgb) (channel : Channel) :
    color.linear.level channel = Brightness.linear (color.level channel) :=
  level_map _ color channel

end Rgb

namespace Slew

/-- The level after one step of at most `slew` toward `target`. -/
def toward (level target slew : UInt8) : UInt8 :=
  if level < target then level + min slew (target - level)
  else level - min slew (level - target)

theorem toNat_min (left right : UInt8) :
    (min left right).toNat = min left.toNat right.toNat := by
  rw [Std.min_eq_if, Nat.min_def]
  simp only [UInt8.le_iff_toNat_le]
  split <;> rfl

theorem toNat_toward (level target slew : UInt8) :
    (toward level target slew).toNat =
      if level.toNat < target.toNat then min target.toNat (level.toNat + slew.toNat)
      else max target.toNat (level.toNat - slew.toNat) := by
  have htarget := target.toNat_lt
  have hlevel := level.toNat_lt
  unfold toward
  simp only [UInt8.lt_iff_toNat_lt]
  split
  · rw [UInt8.toNat_add, toNat_min,
      UInt8.toNat_sub_of_le _ _ (by rw [UInt8.le_iff_toNat_le]; omega)]
    omega
  · have hgap : (level - target).toNat = level.toNat - target.toNat :=
      UInt8.toNat_sub_of_le _ _ (by rw [UInt8.le_iff_toNat_le]; omega)
    rw [UInt8.toNat_sub_of_le _ _ (by rw [UInt8.le_iff_toNat_le, toNat_min, hgap]; omega),
      toNat_min, hgap]
    omega

@[simp] theorem toward_self (level slew : UInt8) : toward level level slew = level := by
  rw [← UInt8.toNat_inj, toNat_toward]
  simp

@[simp] theorem toward_zero (level target : UInt8) : toward level target 0 = level := by
  rw [← UInt8.toNat_inj, toNat_toward]
  simp only [UInt8.reduceToNat]
  split <;> omega

@[simp] theorem toward_full (level target : UInt8) : toward level target 255 = target := by
  have htarget := target.toNat_lt
  have hlevel := level.toNat_lt
  rw [← UInt8.toNat_inj, toNat_toward]
  simp only [UInt8.reduceToNat]
  split <;> omega

end Slew

namespace Rgb

def toward (color target : Rgb) (slew : UInt8) : Rgb :=
  ofLevels fun channel => Slew.toward (color.level channel) (target.level channel) slew

@[simp] theorem level_toward (color target : Rgb) (slew : UInt8) (channel : Channel) :
    (color.toward target slew).level channel =
      Slew.toward (color.level channel) (target.level channel) slew :=
  level_ofLevels _ channel

end Rgb

end LampPanel
