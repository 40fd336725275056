import LampPanel.Framing

/-!
# The sides of a double buffer do not show

In every run of operations a double buffer shows and replies what its view does.
-/

namespace LampPanel

namespace DoubleBuffer

theorem swap_isSome (buffer : DoubleBuffer) : buffer.swap.2.isSome = buffer.complete := by
  rw [swap]
  cases h : buffer.complete <;> simp

theorem locked_setFilling (buffer : DoubleBuffer) (bytes : List UInt8) :
    (buffer.setFilling bytes).locked = buffer.locked := by
  cases buffer with | mk left right front complete locked =>
  cases front <;> rfl

theorem locked_swap (buffer : DoubleBuffer) : buffer.swap.1.locked = buffer.locked := by
  rw [swap]
  split
  · exact locked_setFilling _ _
  · rfl

theorem locked_discard (buffer : DoubleBuffer) : buffer.discard.locked = buffer.locked := by
  rw [discard]
  split
  · rfl
  · exact locked_setFilling _ _

theorem locked_append (buffer : DoubleBuffer) (byte : UInt8) :
    (buffer.append byte).1.locked = buffer.locked := by
  rw [append]
  split
  · exact locked_setFilling _ _
  · rfl

theorem locked_finish (buffer : DoubleBuffer) : buffer.finish.locked = buffer.locked := by
  rw [finish]
  split <;> rfl

theorem locked_accept (buffer : DoubleBuffer) (byte : UInt8) (reply : Answer) :
    (buffer.accept byte reply).locked = buffer.locked := by
  match reply with
  | .ok (.header _) => exact locked_discard buffer
  | .ok (.payload _) => exact locked_append buffer byte
  | .ok .complete => exact (locked_finish _).trans (locked_append buffer byte)
  | .ok .filler | .ok .emptyFrame | .error _ => rfl

theorem append_of_locked {buffer : DoubleBuffer} (h : buffer.locked = true)
    (byte : UInt8) : (buffer.append byte).1 = buffer := by
  have hroom : buffer.hasRoom = false := by rw [hasRoom, h, Bool.not_true, Bool.false_and]
  rw [append, hroom]
  rfl

theorem accept_of_locked {buffer : DoubleBuffer} (h : buffer.locked = true) (byte : UInt8)
    (reply : Answer) : buffer.accept byte reply = buffer := by
  match reply with
  | .ok (.header _) => exact if_pos h
  | .ok (.payload _) => exact append_of_locked h byte
  | .ok .complete =>
    have happend := append_of_locked h byte
    change (buffer.append byte).1.finish = buffer
    rw [happend]
    exact if_pos h
  | .ok .filler | .ok .emptyFrame | .error _ => rfl

theorem view_run (buffer : DoubleBuffer) (operations : List Operation) :
    (buffer.run operations).view = buffer.view.run operations :=
  (List.foldl_hom view fun buffer operation => (view_perform buffer operation).symm).symm

theorem replies_view (buffer : DoubleBuffer) (operations : List Operation) :
    buffer.view.replies operations = buffer.replies operations := by
  induction operations generalizing buffer with
  | nil => rfl
  | cons operation operations ih =>
    rw [View.replies, reply_view, ← view_perform, ih, replies]

theorem View.playing_perform (view : View) {operation : Operation} (hne : operation ≠ .swap) :
    (view.perform operation).playing = view.playing := by
  cases operation with
  | discard => exact view.playing_discard
  | append byte => exact view.playing_append byte
  | finish => exact view.playing_finish
  | replace pattern => rfl
  | lock => rfl
  | swap => exact absurd rfl hne

theorem pattern_perform (buffer : DoubleBuffer) {operation : Operation} (hne : operation ≠ .swap) :
    (buffer.perform operation).pattern = buffer.pattern := by
  rw [← view_pattern, ← view_pattern, view_perform]
  exact congrArg Pattern.ofPayload (buffer.view.playing_perform hne)

theorem swap_cases (buffer : DoubleBuffer) :
    buffer.swap.2 = some buffer.swap.1.pattern ∨ buffer.swap = (buffer, none) := by
  rw [swap]
  split
  · exact .inl rfl
  · exact .inr rfl

theorem eq_swap_of_pattern_ne {buffer : DoubleBuffer} {operation : Operation}
    (hchanges : (buffer.perform operation).pattern ≠ buffer.pattern) :
    operation = .swap ∧
      buffer.reply operation = .swapped (some (buffer.perform operation).pattern) := by
  have hswap : operation = .swap := by
    apply Decidable.byContradiction
    intro hne
    exact hchanges (buffer.pattern_perform hne)
  subst hswap
  rcases buffer.swap_cases with hfresh | hsame
  · exact ⟨rfl, congrArg Reply.swapped hfresh⟩
  · refine absurd ?_ hchanges
    rw [perform, hsame]

theorem locked_perform {buffer : DoubleBuffer} (h : buffer.locked = true) (operation : Operation) :
    (buffer.perform operation).locked = true := by
  cases operation with
  | discard => exact (locked_discard buffer).trans h
  | append byte => exact (locked_append buffer byte).trans h
  | finish => exact (locked_finish buffer).trans h
  | replace pattern => exact (locked_setFilling buffer pattern.payload).trans h
  | lock => rfl
  | swap => exact (locked_swap buffer).trans h

theorem locked_run {buffer : DoubleBuffer} (h : buffer.locked = true)
    (operations : List Operation) : (buffer.run operations).locked = true := by
  induction operations generalizing buffer with
  | nil => exact h
  | cons operation operations ih => exact ih (locked_perform h operation)

theorem perform_of_locked {buffer : DoubleBuffer} (h : buffer.locked = true) {operation : Operation}
    (hfills : operation.fills = true) : buffer.perform operation = buffer := by
  cases operation with
  | discard => exact if_pos h
  | append byte => exact append_of_locked h byte
  | finish => exact if_pos h
  | replace _ | lock | swap => exact absurd hfills Bool.false_ne_true

/-- What plays gives way only to the pattern that a swap hands back, and a locked buffer is neither
opened nor filled. -/
theorem sides_unobservable (operations : List Operation) :
    let buffer := empty.run operations
    let view := View.empty.run operations
    (buffer.pattern = view.pattern ∧ buffer.filling = view.filling ∧
        buffer.complete = view.complete ∧ buffer.locked = view.locked) ∧
      empty.replies operations = View.empty.replies operations ∧
      (∀ operation, (buffer.perform operation).pattern ≠ buffer.pattern →
        operation = .swap ∧
          buffer.reply operation = .swapped (some (buffer.perform operation).pattern)) ∧
      (buffer.locked = true →
        (∀ later, (buffer.run later).locked = true) ∧
          ∀ operation, operation.fills = true → buffer.perform operation = buffer) := by
  intro buffer view
  have hview : buffer.view = view := by
    rw [view_run, view_empty]
  have hreplies : empty.replies operations = View.empty.replies operations := by
    rw [← replies_view, view_empty]
  refine ⟨⟨?_, ?_, ?_, ?_⟩, hreplies, ?_, ?_⟩
  · rw [← hview, view_pattern]
  · exact congrArg View.filling hview
  · exact congrArg View.complete hview
  · exact congrArg View.locked hview
  · intro operation hchanges
    exact eq_swap_of_pattern_ne hchanges
  · intro hlocked
    exact ⟨locked_run hlocked, fun _ hfills => perform_of_locked hlocked hfills⟩

/-- A lock refuses the bytes that come after it, but not the pattern put there before. -/
example (pattern : Pattern) :
    empty.replies [.replace pattern, .lock, .discard, .append 1, .swap, .swap] =
      [.done, .done, .done, .kept false, .swapped (some pattern), .swapped none] := rfl

end DoubleBuffer

end LampPanel
