import LampPanel.Proofs.Panel.Independence

/-!
# How samples pace the ticks

Every sample is counted toward a tick or dropped because the count is full, and every tick spends
the samples of its length.
-/

namespace LampPanel

/-- After each sample the next sample or poll is a poll. -/
def Attended (events : List Event) : Prop :=
  ∀ before raw after, events = before ++ .sample raw :: after →
    after.find? Event.isTimed = some .poll

theorem attended_nil : Attended [] := by
  intro before raw after hsplit
  exact absurd hsplit.symm (List.append_ne_nil_of_right_ne_nil before (List.cons_ne_nil _ _))

theorem attended_cons {event : Event} {events : List Event} :
    Attended (event :: events) ↔
      (event.raw?.isSome = true → events.find? Event.isTimed = some .poll) ∧ Attended events := by
  constructor
  · intro h
    constructor
    · intro hsample
      cases event with
      | sample raw => exact h [] raw events rfl
      | subframe | receive _ | poll | take _ => exact absurd hsample Bool.false_ne_true
    · intro before raw after hsplit
      exact h (event :: before) raw after (congrArg (event :: ·) hsplit)
  · intro h before raw after hsplit
    cases before with
    | nil =>
      obtain ⟨rfl, rfl⟩ := List.cons.inj hsplit
      exact h.1 rfl
    | cons first before => exact h.2 before raw after (List.cons.inj hsplit).2

instance decidableAttended : (events : List Event) → Decidable (Attended events)
  | [] => .isTrue attended_nil
  | _ :: events =>
    have := decidableAttended events
    decidable_of_iff _ attended_cons.symm

namespace Panel

variable {settings : Settings} {panel : Panel}

end Panel

end LampPanel
