import LampPanel.Keypad
import Mathlib.Tactic.Tauto

/-!
# Levels and presses of the buttons

The registers of a keypad are compared with the samples that one button has seen.
-/

namespace LampPanel

namespace Keypad

/-- The level of the latest two samples in a row that agree. The samples stand newest first, and a
released one is taken to come before all of them. -/
def lastRepeated : List Bool → Bool
  | [] => false
  | level :: levels => if level = levels.headD false then level else lastRepeated levels

def Event.level? (button : Button) : Event → Option Bool
  | .sample raw => some (raw.contains button)
  | .take _ => none

/-- What the samples of a run read of a button, newest first. -/
def levels (button : Button) (events : List Event) : List Bool :=
  (events.filterMap (Event.level? button)).reverse

theorem levels_append (button : Button) (before after : List Event) :
    levels button (before ++ after) = levels button after ++ levels button before := by
  rw [levels, List.filterMap_append, List.reverse_append]
  rfl

theorem levels_takes (button : Button) (masks : List Buttons) :
    levels button (masks.map .take) = [] := by
  induction masks with
  | nil => rfl
  | cons mask masks ih => exact ih

/-- The registers of the keypad hold what the samples of a button, newest first, amount to. -/
structure Filters (keypad : Keypad) (button : Button) (levels : List Bool) : Prop where
  high_eq : keypad.high = 0
  held_eq : keypad.held.contains button = lastRepeated levels
  doubted_eq : keypad.doubted.contains button = (levels.headD false != lastRepeated levels)

variable {keypad : Keypad} {button : Button} {levels : List Bool}

theorem filters_released (button : Button) : released.Filters button [] where
  high_eq := rfl
  held_eq := by rw [held_released, Buttons.contains_empty, lastRepeated]
  doubted_eq := by
    rw [doubted_released, Buttons.contains_empty]
    rfl

theorem Filters.sample (h : keypad.Filters button levels) (raw : Buttons) :
    (keypad.sample raw).Filters button (raw.contains button :: levels) := by
  -- Levels are two-valued: a sample unlike the one before it is like the doubted level.
  have hrepeated : lastRepeated (raw.contains button :: levels) =
      bif levels.headD false != lastRepeated levels then raw.contains button
      else lastRepeated levels := by
    rw [lastRepeated]
    cases raw.contains button <;> cases levels.headD false <;> cases lastRepeated levels <;> rfl
  constructor
  · exact high_sample h.high_eq raw
  · rw [contains_held_sample h.high_eq, h.held_eq, h.doubted_eq, hrepeated]
  · rw [contains_doubted_sample, h.held_eq, h.doubted_eq, hrepeated, List.headD_cons]
    cases raw.contains button <;> cases levels.headD false <;> cases lastRepeated levels <;> rfl

theorem Filters.take (h : keypad.Filters button levels) (mask : Buttons) :
    (keypad.take mask).1.Filters button levels where
  high_eq := h.high_eq
  held_eq := h.held_eq
  doubted_eq := h.doubted_eq

theorem Filters.run (h : keypad.Filters button levels) (events : List Event) :
    (keypad.run events).Filters button (Keypad.levels button events ++ levels) := by
  induction events generalizing keypad levels with
  | nil => exact h
  | cons event events ih =>
    have hlevels := levels_append button [event] events
    rw [List.singleton_append] at hlevels
    rw [run_cons, hlevels, List.append_assoc]
    cases event with
    | sample raw => exact ih (h.sample raw)
    | take mask => exact ih (h.take mask)

theorem filters_run (events : List Event) (button : Button) :
    (released.run events).Filters button (Keypad.levels button events) := by
  have h := (filters_released button).run events
  rw [List.append_nil] at h
  exact h

theorem Filters.turns_iff (h : keypad.Filters button levels) (raw : Buttons) :
    (keypad.sample raw).held.contains button ≠ keypad.held.contains button ↔
      raw.contains button ≠ keypad.held.contains button ∧
        levels.headD false ≠ keypad.held.contains button := by
  rw [contains_held_sample h.high_eq, h.doubted_eq, ← h.held_eq]
  cases raw.contains button <;> cases levels.headD false <;>
    cases keypad.held.contains button <;> decide

theorem Filters.kept (h : keypad.Filters button levels) {raw : Buttons}
    (hagree : raw.contains button = keypad.held.contains button ∨
      levels.headD false = keypad.held.contains button) :
    (keypad.sample raw).held.contains button = keypad.held.contains button := by
  apply Decidable.byContradiction
  intro hturned
  obtain ⟨hraw, hlatest⟩ := (h.turns_iff raw).mp hturned
  cases hagree with
  | inl hagree => exact hraw hagree
  | inr hagree => exact hlatest hagree

/-- The level of a button is that of its latest two samples in a row that agree. It turns over at
the second one in a row that disagrees with it, whatever the other buttons and the takings. -/
theorem debounced (events : List Event) (button : Button) :
    let keypad := released.run events
    let level := keypad.held.contains button
    level = lastRepeated (Keypad.levels button events) ∧
      (∀ raw, (keypad.sample raw).held.contains button ≠ level ↔
        raw.contains button ≠ level ∧ (Keypad.levels button events).headD false ≠ level) ∧
      (∀ (agreeing : Buttons) (masks : List Buttons) (raw : Buttons),
        agreeing.contains button = level →
        (((keypad.sample agreeing).run (masks.map .take)).sample raw).held.contains button =
          level) ∧
      (∀ other, Keypad.levels button other = Keypad.levels button events →
        (released.run other).held.contains button = level) ∧
      keypad.level &&& 0xF0 = 0 := by
  intro keypad level
  have hfilters : keypad.Filters button (Keypad.levels button events) := filters_run events button
  refine ⟨hfilters.held_eq, hfilters.turns_iff, ?_, ?_, level_run_and released events⟩
  · intro agreeing masks raw hagree
    have hkept : (keypad.sample agreeing).held.contains button = level :=
      hfilters.kept (.inl hagree)
    have hsample := hfilters.sample agreeing
    have htakes := hsample.run (masks.map .take)
    rw [levels_takes, List.nil_append] at htakes
    have hheld : ((keypad.sample agreeing).run (masks.map .take)).held.contains button = level := by
      rw [htakes.held_eq, ← hsample.held_eq, hkept]
    have hlatest : (agreeing.contains button :: Keypad.levels button events).headD false =
        ((keypad.sample agreeing).run (masks.map .take)).held.contains button := by
      rw [List.headD_cons, hagree, hheld]
    rw [htakes.kept (.inr hlatest), hheld]
  · intro other hsame
    rw [(filters_run other button).held_eq, hsame, ← hfilters.held_eq]

def raws (events : List Event) : List Buttons :=
  events.filterMap fun
    | .sample raw => some raw
    | .take _ => none

/-- The keypad as if no press had ever been seen. -/
def unpressed (keypad : Keypad) : Keypad :=
  { keypad with pressed := 0 }

@[simp] theorem held_unpressed (keypad : Keypad) : keypad.unpressed.held = keypad.held := rfl

@[simp] theorem unpressed_take (keypad : Keypad) (mask : Buttons) :
    (keypad.take mask).1.unpressed = keypad.unpressed := rfl

theorem unpressed_sample (keypad : Keypad) (raw : Buttons) :
    (keypad.sample raw).unpressed = (keypad.unpressed.sample raw).unpressed := rfl

theorem unpressed_run (keypad : Keypad) (events : List Event) :
    (keypad.run events).unpressed =
      (raws events).foldl (fun keypad raw => (keypad.sample raw).unpressed) keypad.unpressed := by
  induction events generalizing keypad with
  | nil => rfl
  | cons event events ih =>
    rw [run_cons, ih]
    cases event with
    | sample raw => rfl
    | take mask => rfl

/-- None of the events takes presses of the button. -/
def Untaken (button : Button) (events : List Event) : Prop :=
  ∀ mask, Event.take mask ∈ events → button ∉ mask

theorem untaken_sample (button : Button) (raw : Buttons) (events : List Event) :
    Untaken button (.sample raw :: events) ↔ Untaken button events := by
  simp only [Untaken, List.mem_cons, reduceCtorEq, false_or]

theorem untaken_take (button : Button) (mask : Buttons) (events : List Event) :
    Untaken button (.take mask :: events) ↔ button ∉ mask ∧ Untaken button events := by
  simp only [Untaken, List.mem_cons, Event.take.injEq]
  constructor
  · intro h
    exact ⟨h mask (.inl rfl), fun other hother => h other (.inr hother)⟩
  · rintro ⟨hmask, hrest⟩ other (rfl | hother)
    · exact hmask
    · exact hrest other hother

/-- At some event of the run the level of the button rises, and its presses are not taken after. -/
def RoseSinceTaken (keypad : Keypad) (button : Button) (events : List Event) : Prop :=
  ∃ before event after, events = before ++ event :: after ∧
    button ∉ (keypad.run before).held ∧ button ∈ ((keypad.run before).next event).held ∧
    Untaken button after

theorem roseSinceTaken_cons (keypad : Keypad) (button : Button) (event : Event)
    (events : List Event) :
    keypad.RoseSinceTaken button (event :: events) ↔
      (button ∉ keypad.held ∧ button ∈ (keypad.next event).held ∧ Untaken button events) ∨
        (keypad.next event).RoseSinceTaken button events := by
  constructor
  · rintro ⟨before, rising, after, hsplit, hrise⟩
    cases before with
    | nil =>
      obtain ⟨rfl, rfl⟩ := List.cons.inj hsplit
      exact .inl hrise
    | cons first before =>
      obtain ⟨rfl, rfl⟩ := List.cons.inj hsplit
      exact .inr ⟨before, rising, after, rfl, hrise⟩
  · rintro (hrise | ⟨before, rising, after, rfl, hrise⟩)
    · exact ⟨[], event, events, rfl, hrise⟩
    · exact ⟨event :: before, rising, after, rfl, hrise⟩

theorem mem_presses_sample (keypad : Keypad) (raw : Buttons) (button : Button) :
    button ∈ (keypad.sample raw).presses ↔
      button ∈ keypad.presses ∨ button ∉ keypad.held ∧ button ∈ (keypad.sample raw).held := by
  simp only [Buttons.mem_iff, contains_presses_sample, Bool.or_eq_true, Bool.and_eq_true,
    Bool.not_eq_true', Bool.not_eq_true]
  rw [and_comm]

theorem mem_presses_take (keypad : Keypad) (mask : Buttons) (button : Button) :
    button ∈ (keypad.take mask).1.presses ↔ button ∈ keypad.presses ∧ button ∉ mask := by
  simp only [Buttons.mem_iff, contains_presses_take, Bool.and_eq_true, Bool.not_eq_true',
    Bool.not_eq_true]

theorem mem_presses_run_iff (keypad : Keypad) (button : Button) (events : List Event) :
    button ∈ (keypad.run events).presses ↔
      keypad.RoseSinceTaken button events ∨ button ∈ keypad.presses ∧ Untaken button events := by
  induction events generalizing keypad with
  | nil =>
    have hnone : ¬ keypad.RoseSinceTaken button [] := by
      rintro ⟨before, event, after, hsplit, _⟩
      exact List.append_ne_nil_of_right_ne_nil before (List.cons_ne_nil _ _) hsplit.symm
    have huntaken : Untaken button [] := fun _ hmem => nomatch hmem
    simp only [run_nil, hnone, huntaken, false_or, and_true]
  | cons event events ih =>
    -- A rise at the first event counts only if the events after it leave the press alone.
    rw [run_cons, ih, roseSinceTaken_cons]
    cases event with
    | sample raw =>
      have hpresses := mem_presses_sample keypad raw button
      rw [untaken_sample]
      simp only [next]
      tauto
    | take mask =>
      have hpresses := mem_presses_take keypad mask button
      have hheld : (keypad.take mask).1.held = keypad.held := keypad.held_take mask
      rw [untaken_take]
      simp only [next, hheld]
      tauto

/-- A press is pending exactly if the level rose since presses of the button were last taken. A
taking hands out the pending presses that it asks for, and changes no level. -/
theorem presses_accounted (events : List Event) (button : Button) :
    let keypad := released.run events
    (button ∈ keypad.presses ↔ released.RoseSinceTaken button events) ∧
      (∀ mask, button ∈ (keypad.take mask).2 ↔
        button ∈ mask ∧ released.RoseSinceTaken button events) ∧
      ∀ other, raws other = raws events → (released.run other).held = keypad.held := by
  intro keypad
  have hpresses : button ∈ keypad.presses ↔ released.RoseSinceTaken button events := by
    have hrun := released.mem_presses_run_iff button events
    have hnone : button ∉ released.presses := by
      rw [presses_released, Buttons.mem_iff, Buttons.contains_empty]
      exact Bool.false_ne_true
    rw [hrun, or_iff_left (fun hpending => hnone hpending.1)]
  refine ⟨hpresses, ?_, ?_⟩
  · intro mask
    rw [take_presses, Buttons.mem_inter, hpresses, and_comm]
  · intro other hsame
    have hrun : (released.run other).unpressed = keypad.unpressed := by
      rw [unpressed_run, hsame, ← unpressed_run]
    rw [← held_unpressed, hrun, held_unpressed]

end Keypad

end LampPanel
