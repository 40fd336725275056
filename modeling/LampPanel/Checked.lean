import LampPanel.Modulator
import LampPanel.Pattern

/-!
# Arithmetic that traps

Operations as a device has them that stops at a result out of range, and the lamp built from them.
-/

namespace LampPanel

/-- What a checking device stops at. -/
inductive Trap where
  /-- The result is greater than the greatest word. -/
  | overflow
  /-- The result is less than zero. -/
  | underflow
  /-- There is no entry at the index. -/
  | outOfRange
deriving DecidableEq

namespace Checked

def add (left right : UInt8) : Except Trap UInt8 :=
  if left.toNat + right.toNat < UInt8.size then .ok (left + right) else .error .overflow

def sub (left right : UInt8) : Except Trap UInt8 :=
  if right ≤ left then .ok (left - right) else .error .underflow

def mul (left right : UInt8) : Except Trap UInt8 :=
  if left.toNat * right.toNat < UInt8.size then .ok (left * right) else .error .overflow

def addWide (left right : UInt16) : Except Trap UInt16 :=
  if left.toNat + right.toNat < UInt16.size then .ok (left + right) else .error .overflow

def entry {α : Type} (entries : List α) (i : Nat) : Except Trap α :=
  match entries[i]? with
  | some found => .ok found
  | none => .error .outOfRange

def slice {α : Type} (entries : List α) (length : Nat) : Except Trap (List α) :=
  if length ≤ entries.length then .ok (entries.take length) else .error .outOfRange

/-- Puts `source` in place of as many entries from `first` on. -/
def overwrite {α : Type} (entries : List α) (first : Nat) (source : List α) :
    Except Trap (List α) :=
  if first + source.length ≤ entries.length then
    .ok (entries.take first ++ source ++ entries.drop (first + source.length))
  else .error .outOfRange

@[simp] theorem ok_bind {α β : Type} (value : α) (next : α → Except Trap β) :
    (Except.ok value >>= next) = next value := rfl

@[simp] theorem pure_eq_ok {α : Type} (value : α) : (pure value : Except Trap α) = .ok value := rfl

theorem add_eq {left right : UInt8} (h : left.toNat + right.toNat < UInt8.size) :
    add left right = .ok (left + right) :=
  if_pos h

theorem sub_eq {left right : UInt8} (h : right ≤ left) : sub left right = .ok (left - right) :=
  if_pos h

theorem mul_eq {left right : UInt8} (h : left.toNat * right.toNat < UInt8.size) :
    mul left right = .ok (left * right) :=
  if_pos h

theorem addWide_eq {left right : UInt16} (h : left.toNat + right.toNat < UInt16.size) :
    addWide left right = .ok (left + right) :=
  if_pos h

theorem entry_eq {α : Type} {entries : List α} {i : Nat} {found : α}
    (h : entries[i]? = some found) : entry entries i = .ok found := by
  rw [entry, h]

end Checked

open Checked

def Slew.towardChecked (level target slew : UInt8) : Except Trap UInt8 :=
  if level < target then do
    let gap ← sub target level
    add level (min slew gap)
  else do
    let gap ← sub level target
    sub level (min slew gap)

theorem Slew.towardChecked_eq (level target slew : UInt8) :
    towardChecked level target slew = .ok (toward level target slew) := by
  have hlevel := level.toNat_lt
  have htarget := target.toNat_lt
  rw [towardChecked, toward]
  by_cases hrising : level < target
  · have hle : level ≤ target := UInt8.le_of_lt hrising
    have hgap : (target - level).toNat = target.toNat - level.toNat :=
      UInt8.toNat_sub_of_le _ _ hle
    have hfits : level.toNat + (min slew (target - level)).toNat < UInt8.size := by
      rw [toNat_min, hgap]
      rw [UInt8.le_iff_toNat_le] at hle
      show _ < 256
      omega
    rw [if_pos hrising, if_pos hrising, sub_eq hle, ok_bind, add_eq hfits]
  · have hle : target ≤ level := UInt8.not_lt.mp hrising
    have hgap : (level - target).toNat = level.toNat - target.toNat :=
      UInt8.toNat_sub_of_le _ _ hle
    have hfits : min slew (level - target) ≤ level := by
      rw [UInt8.le_iff_toNat_le, toNat_min, hgap]
      omega
    rw [if_neg hrising, if_neg hrising, sub_eq hle, ok_bind, sub_eq hfits]

namespace Brightness

def linearChecked (level : UInt8) : Except Trap UInt8 :=
  if level < 128 then .ok (level / 2)
  else if level < 192 then do
    let above ← sub level 128
    add 64 above
  else do
    let above ← sub level 192
    let doubled ← mul above 2
    add 128 doubled

theorem linearChecked_eq (level : UInt8) : linearChecked level = .ok (linear level) := by
  have hlevel := level.toNat_lt
  rw [linearChecked, linear]
  by_cases hlow : level < 128
  · rw [if_pos hlow, if_pos hlow]
  rw [if_neg hlow, if_neg hlow]
  by_cases hmiddle : level < 192
  · have hle : 128 ≤ level := UInt8.not_lt.mp hlow
    have habove : (level - 128).toNat = level.toNat - 128 := UInt8.toNat_sub_of_le _ _ hle
    have hfits : (64 : UInt8).toNat + (level - 128).toNat < UInt8.size := by
      rw [habove]
      show 64 + (level.toNat - 128) < 256
      omega
    rw [if_pos hmiddle, if_pos hmiddle, sub_eq hle, ok_bind, add_eq hfits]
  · have hle : 192 ≤ level := UInt8.not_lt.mp hmiddle
    have habove : (level - 192).toNat = level.toNat - 192 := UInt8.toNat_sub_of_le _ _ hle
    have hdouble : (level - 192).toNat * (2 : UInt8).toNat < UInt8.size := by
      rw [habove]
      show (level.toNat - 192) * 2 < 256
      omega
    have hfits : (128 : UInt8).toNat + ((level - 192) * 2).toNat < UInt8.size := by
      rw [UInt8.toNat_mul, habove]
      show 128 + (level.toNat - 192) * 2 % 256 < 256
      omega
    rw [if_neg hmiddle, if_neg hmiddle, sub_eq hle, ok_bind, mul_eq hdouble, ok_bind, add_eq hfits]

def tableChecked : Except Trap (List UInt8) :=
  (List.range 256).mapM fun level => linearChecked (UInt8.ofNat level)

theorem tableChecked_eq : tableChecked = .ok table := by
  have hlinear : (fun level => linearChecked (UInt8.ofNat level)) =
      fun level => pure (linear (UInt8.ofNat level)) := by
    funext level
    exact linearChecked_eq (UInt8.ofNat level)
  rw [tableChecked, hlinear, List.mapM_pure]
  rfl

def lookUpChecked (level : UInt8) : Except Trap UInt8 := do
  let duties ← tableChecked
  entry duties level.toNat

theorem lookUpChecked_eq (level : UInt8) : lookUpChecked level = .ok (linear level) := by
  rw [lookUpChecked, tableChecked_eq, ok_bind]
  exact entry_eq (table_getElem? level)

end Brightness

namespace Rgb

def ofLevelsChecked (levels : Channel → Except Trap UInt8) : Except Trap Rgb := do
  let red ← levels .red
  let green ← levels .green
  let blue ← levels .blue
  return ⟨red, green, blue⟩

theorem ofLevelsChecked_eq {checked : Channel → Except Trap UInt8} {levels : Channel → UInt8}
    (h : ∀ channel, checked channel = .ok (levels channel)) :
    ofLevelsChecked checked = .ok (ofLevels levels) := by
  rw [ofLevelsChecked, h, h, h]
  rfl

def linearChecked (color : Rgb) : Except Trap Rgb :=
  ofLevelsChecked fun channel => Brightness.lookUpChecked (color.level channel)

theorem linearChecked_eq (color : Rgb) : color.linearChecked = .ok color.linear := by
  rw [linearChecked, linear, map]
  apply ofLevelsChecked_eq
  intro channel
  exact Brightness.lookUpChecked_eq _

end Rgb

namespace Fade

def applyChecked (fade : Fade) (color : Rgb) : Except Trap Rgb :=
  Rgb.ofLevelsChecked fun channel =>
    Slew.towardChecked (color.level channel) (fade.target.level channel) fade.stride

theorem applyChecked_eq (fade : Fade) (color : Rgb) :
    fade.applyChecked color = .ok (fade.apply color) := by
  rw [applyChecked, apply, Rgb.toward]
  apply Rgb.ofLevelsChecked_eq
  intro channel
  exact Slew.towardChecked_eq _ _ _

end Fade

namespace Modulator

def advanceChecked (modulator : Modulator) : Except Trap Modulator := do
  let next ← addWide modulator.subframe 1
  return { modulator with subframe := if modulator.period ≤ next then 0 else next }

theorem advanceChecked_eq {modulator : Modulator}
    (h : modulator.subframe.toNat < modulator.period.toNat) :
    modulator.advanceChecked = .ok modulator.advance := by
  have hperiod := modulator.period.toNat_lt
  have hfits : modulator.subframe.toNat + (1 : UInt16).toNat < UInt16.size := by
    show modulator.subframe.toNat + 1 < 65536
    omega
  rw [advanceChecked, addWide_eq hfits]
  rfl

/-- Nothing else keeps the count of subframes from an overflow. -/
example : advanceChecked ⟨65535, 65535⟩ = .error .overflow := rfl

def tickChecked (modulator : Modulator) (duty : Rgb) : Except Trap (Modulator × Pins) := do
  let advanced ← modulator.advanceChecked
  return (advanced, pins modulator.subframe duty)

theorem tickChecked_eq {modulator : Modulator}
    (h : modulator.subframe.toNat < modulator.period.toNat) (duty : Rgb) :
    modulator.tickChecked duty = .ok (modulator.tick duty) := by
  rw [tickChecked, advanceChecked_eq h]
  rfl

end Modulator

end LampPanel
