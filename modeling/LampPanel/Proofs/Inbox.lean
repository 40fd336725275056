import LampPanel.Framing

/-!
# Receiving without buffers

An inbox collects whole payloads and knows nothing of buffers, capacities or flags. Framing and
double buffer follow it through every byte and every swap.
-/

namespace LampPanel

/-- Between frames, or in a payload of known length of which some bytes have come. -/
inductive Intake where
  | idle
  | collecting (length : Nat) (bytes : List UInt8)
deriving DecidableEq

def Intake.isIdle : Intake → Bool
  | .idle => true
  | .collecting _ _ => false

/-- The payload under way and the last whole one, unless it was taken or withdrawn. -/
structure Inbox where
  intake : Intake
  completed : Option (List UInt8)
deriving DecidableEq

namespace Inbox

def empty : Inbox := ⟨.idle, none⟩

def receive (inbox : Inbox) (byte : UInt8) : Inbox :=
  match inbox.intake with
  | .idle =>
    if Grammar.announced byte = 0 then inbox
    else ⟨.collecting (Grammar.announced byte) [], none⟩
  | .collecting length bytes =>
    if bytes.length + 1 = length then ⟨.idle, some (bytes ++ [byte])⟩
    else { inbox with intake := .collecting length (bytes ++ [byte]) }

/-- The pattern that the whole payload stands for, once cut and padded to ten bytes. -/
def pattern? (inbox : Inbox) : Option Pattern :=
  inbox.completed.map fun payload => .ofPayload (Pattern.padded payload)

theorem pattern?_completed (payload : List UInt8) :
    pattern? ⟨.idle, some payload⟩ = some (.ofPayload payload) := by
  rw [pattern?, Option.map_some, Pattern.ofPayload_padded]

theorem pattern?_payload (pattern : Pattern) :
    pattern? ⟨.idle, some pattern.payload⟩ = some pattern := by
  rw [pattern?_completed, Pattern.ofPayload_payload]

def takeCompleted (inbox : Inbox) : Inbox :=
  { inbox with completed := none }

end Inbox

namespace DoubleBuffer

def View.accept (view : View) (byte : UInt8) : Answer → View
  | .ok (.header _) => view.discard
  | .ok (.payload _) => view.append byte
  | .ok .complete => (view.append byte).finish
  | .ok .filler | .ok .emptyFrame | .error _ => view

@[simp] theorem view_accept (buffer : DoubleBuffer) (byte : UInt8) (reply : Answer) :
    (buffer.accept byte reply).view = buffer.view.accept byte reply := by
  match reply with
  | .ok (.header _) => exact view_discard buffer
  | .ok (.payload _) => exact view_append buffer byte
  | .ok .complete =>
    change (buffer.append byte).1.finish.view = (buffer.view.append byte).finish
    rw [view_finish, view_append]
  | .ok .filler | .ok .emptyFrame | .error _ => rfl

theorem View.playing_accept (view : View) (byte : UInt8) (reply : Answer) :
    (view.accept byte reply).playing = view.playing := by
  match reply with
  | .ok (.header _) => exact view.playing_discard
  | .ok (.payload _) => exact view.playing_append byte
  | .ok .complete => exact (View.playing_finish _).trans (view.playing_append byte)
  | .ok .filler | .ok .emptyFrame | .error _ => rfl

theorem pattern_accept (buffer : DoubleBuffer) (byte : UInt8) (reply : Answer) :
    (buffer.accept byte reply).pattern = buffer.pattern := by
  rw [← view_pattern, ← view_pattern, view_accept]
  exact congrArg Pattern.ofPayload (buffer.view.playing_accept byte reply)

end DoubleBuffer

open DoubleBuffer (View)

namespace Inbox

variable {framing : Framing} {view : View} {inbox : Inbox}

/-- The position in the stream and the view of an open buffer, beside the inbox they stand for. Only
the bytes for which there is room are kept. -/
inductive Follows : Framing → View → Inbox → Prop where
  | empty (playing : List UInt8) :
      Follows .boundary ⟨playing, [], false, false⟩ ⟨.idle, none⟩
  | completed (playing payload : List UInt8) :
      Follows .boundary ⟨playing, payload.take DoubleBuffer.capacity, true, false⟩
        ⟨.idle, some payload⟩
  | collecting (playing : List UInt8) {expected received : UInt8} {bytes : List UInt8}
      (hreceived : received.toNat = bytes.length) (hlt : bytes.length < expected.toNat) :
      Follows (.inside expected received)
        ⟨playing, bytes.take DoubleBuffer.capacity, false, false⟩
        ⟨.collecting expected.toNat bytes, none⟩

theorem Follows.complete_eq (h : Follows framing view inbox) :
    view.complete = inbox.completed.isSome := by
  cases h <;> rfl

theorem Follows.locked_eq (h : Follows framing view inbox) : view.locked = false := by
  cases h <;> rfl

theorem Follows.isBoundary_eq (h : Follows framing view inbox) :
    framing.isBoundary = inbox.intake.isIdle := by
  cases h <;> rfl

private theorem append_take (playing bytes : List UInt8) (byte : UInt8) :
    View.append ⟨playing, bytes.take DoubleBuffer.capacity, false, false⟩ byte =
      ⟨playing, (bytes ++ [byte]).take DoubleBuffer.capacity, false, false⟩ := by
  have hroom : View.hasRoom ⟨playing, bytes.take DoubleBuffer.capacity, false, false⟩ =
      decide (bytes.length < DoubleBuffer.capacity) := by
    change decide ((bytes.take DoubleBuffer.capacity).length < DoubleBuffer.capacity) = _
    rw [List.length_take, decide_eq_decide]
    omega
  rw [View.append, hroom]
  by_cases hshort : bytes.length < DoubleBuffer.capacity
  · have hmore : (bytes ++ [byte]).length ≤ DoubleBuffer.capacity := by
      rw [List.length_append, List.length_singleton]
      exact hshort
    rw [if_pos (decide_eq_true hshort), List.take_of_length_le (Nat.le_of_lt hshort),
      List.take_of_length_le hmore]
  · rw [decide_eq_false hshort, if_neg Bool.false_ne_true,
      List.take_append_of_le_length (Nat.le_of_not_lt hshort)]

private theorem accept_opening_of_announced_eq_zero (view : View) {byte : UInt8}
    (h : Grammar.announced byte = 0) : view.accept byte (Grammar.opening byte) = view := by
  rw [Grammar.announced] at h
  rw [Grammar.opening]
  by_cases htag : byte.toNat / 16 = 8
  · rw [if_pos htag] at h
    rw [if_pos htag, if_pos h]
    rfl
  · rw [if_neg htag]
    split <;> rfl

private theorem opening_of_announced_ne_zero {byte : UInt8} (h : Grammar.announced byte ≠ 0) :
    Grammar.opening byte = .ok (.header (UInt8.ofNat (Grammar.announced byte))) := by
  rw [Grammar.announced] at h ⊢
  rw [Grammar.opening]
  by_cases htag : byte.toNat / 16 = 8
  · rw [if_pos htag] at h
    rw [if_pos htag, if_pos htag, if_neg h]
  · rw [if_neg htag] at h
    exact absurd rfl h

theorem Follows.opened (hopen : view.locked = false) {byte : UInt8}
    (hannounced : Grammar.announced byte ≠ 0) :
    Follows (Framing.boundary.next byte) (view.accept byte (Framing.boundary.answer byte))
      ⟨.collecting (Grammar.announced byte) [], none⟩ := by
  obtain ⟨hanswer, hnext⟩ := Grammar.boundary_step byte
  have hlt := Grammar.announced_lt byte
  have hlength : (UInt8.ofNat (Grammar.announced byte)).toNat = Grammar.announced byte := by
    rw [UInt8.toNat_ofNat']
    omega
  have hview : view.discard = ⟨view.playing, [], false, false⟩ := by
    rw [View.discard, hopen]
    rfl
  have hzero : (0 : UInt8).toNat = ([] : List UInt8).length := rfl
  have hpos : ([] : List UInt8).length < (UInt8.ofNat (Grammar.announced byte)).toNat := by
    rw [hlength]
    exact Nat.pos_of_ne_zero hannounced
  have hfollows := Follows.collecting view.playing hzero hpos
  rw [hlength] at hfollows
  rw [hanswer, hnext, opening_of_announced_ne_zero hannounced, if_neg hannounced]
  change Follows (.inside (UInt8.ofNat (Grammar.announced byte)) 0) view.discard _
  rw [hview]
  exact hfollows

private theorem Follows.receive_idle {completed : Option (List UInt8)}
    (h : Follows .boundary view ⟨.idle, completed⟩) (byte : UInt8) :
    Follows (Framing.boundary.next byte) (view.accept byte (Framing.boundary.answer byte))
      (Inbox.receive ⟨.idle, completed⟩ byte) := by
  by_cases hannounced : Grammar.announced byte = 0
  · obtain ⟨hanswer, hnext⟩ := Grammar.boundary_step byte
    have hinbox : Inbox.receive ⟨.idle, completed⟩ byte = ⟨.idle, completed⟩ := if_pos hannounced
    rw [hanswer, hnext, accept_opening_of_announced_eq_zero view hannounced, if_pos hannounced,
      hinbox]
    exact h
  · have hinbox : Inbox.receive ⟨.idle, completed⟩ byte =
        ⟨.collecting (Grammar.announced byte) [], none⟩ := if_neg hannounced
    rw [hinbox]
    exact Follows.opened h.locked_eq hannounced

private theorem Follows.receive_collecting {expected received : UInt8} {bytes : List UInt8}
    (playing : List UInt8) (hreceived : received.toNat = bytes.length)
    (hlt : bytes.length < expected.toNat) (byte : UInt8) :
    Follows ((Framing.inside expected received).next byte)
      (View.accept ⟨playing, bytes.take DoubleBuffer.capacity, false, false⟩ byte
        ((Framing.inside expected received).answer byte))
      (Inbox.receive ⟨.collecting expected.toNat bytes, none⟩ byte) := by
  by_cases hlast : bytes.length + 1 = expected.toNat
  · have hinbox : Inbox.receive ⟨.collecting expected.toNat bytes, none⟩ byte =
        ⟨.idle, some (bytes ++ [byte])⟩ := if_pos hlast
    obtain ⟨hnext, hanswer⟩ :=
      @Framing.next_last expected received byte (by omega)
    rw [hnext, hanswer, hinbox]
    change Follows .boundary (View.append _ byte).finish _
    rw [append_take]
    exact .completed playing (bytes ++ [byte])
  · have hinbox : Inbox.receive ⟨.collecting expected.toNat bytes, none⟩ byte =
        ⟨.collecting expected.toNat (bytes ++ [byte]), none⟩ := if_neg hlast
    have hleft : received.toNat + (expected.toNat - bytes.length - 2 + 2) = expected.toNat := by
      omega
    obtain ⟨hnext, hanswer, hmore⟩ := Framing.next_inside byte hleft
    rw [hnext, hanswer, hinbox]
    change Follows _ (View.append _ byte) _
    rw [append_take]
    have hlength : (bytes ++ [byte]).length = bytes.length + 1 := by
      rw [List.length_append, List.length_singleton]
    exact .collecting playing (by omega) (by omega)

/-- A byte takes framing and buffer to what the inbox becomes. -/
theorem Follows.receive (h : Follows framing view inbox) (byte : UInt8) :
    Follows (framing.next byte) (view.accept byte (framing.answer byte)) (inbox.receive byte) := by
  cases h with
  | empty playing => exact Follows.receive_idle (.empty playing) byte
  | completed playing payload => exact Follows.receive_idle (.completed playing payload) byte
  | collecting playing hreceived hlt => exact Follows.receive_collecting playing hreceived hlt byte

theorem Follows.swap (h : Follows framing view inbox) :
    Follows framing view.swap inbox.takeCompleted := by
  cases h with
  | empty playing => exact .empty playing
  | completed playing payload => exact .empty _
  | collecting playing hreceived hlt => exact .collecting playing hreceived hlt

theorem Follows.fresh_eq (h : Follows framing view inbox) : view.fresh? = inbox.pattern? := by
  cases h with
  | empty playing => rfl
  | completed playing payload =>
    rw [pattern?_completed, ← Pattern.ofPayload_take]
    rfl
  | collecting playing hreceived hlt => rfl

theorem Follows.pattern_swap (h : Follows framing view inbox) :
    view.swap.pattern = inbox.pattern?.getD view.pattern := by
  rw [← h.fresh_eq, View.swap, View.fresh?]
  split <;> rfl

end Inbox

namespace Intake

theorem eq_idle_of_isIdle {intake : Intake} (h : intake.isIdle = true) : intake = .idle := by
  cases intake with
  | idle => rfl
  | collecting length bytes => exact absurd h Bool.false_ne_true

def next (intake : Intake) (byte : UInt8) : Intake :=
  match intake with
  | .idle =>
    if Grammar.announced byte = 0 then .idle else .collecting (Grammar.announced byte) []
  | .collecting length bytes =>
    if bytes.length + 1 = length then .idle else .collecting length (bytes ++ [byte])

theorem foldl_next_collecting {length : Nat} {bytes more : List UInt8}
    (hroom : bytes.length + more.length < length) :
    more.foldl next (.collecting length bytes) = .collecting length (bytes ++ more) := by
  induction more generalizing bytes with
  | nil => rw [List.foldl_nil, List.append_nil]
  | cons byte more ih =>
    rw [List.length_cons] at hroom
    have hmore : (Intake.collecting length bytes).next byte =
        .collecting length (bytes ++ [byte]) := if_neg (by omega)
    rw [List.foldl_cons, hmore, ih, List.append_assoc, List.singleton_append]
    rw [List.length_append, List.length_singleton]
    omega

def whole? (intake : Intake) (byte : UInt8) : Option (List UInt8) :=
  match intake with
  | .idle => none
  | .collecting length bytes => if bytes.length + 1 = length then some (bytes ++ [byte]) else none

end Intake

namespace Grammar

structure Cut where
  /-- The payloads of the whole frames in order. Frames without one are passed over. -/
  payloads : List (List UInt8)
  /-- Where the stream ends: between frames, or in one, with its length and the payload so far. -/
  ending : Intake
deriving DecidableEq

def cut : List UInt8 → Cut
  | [] => ⟨[], .idle⟩
  | byte :: rest =>
    if rest.length < announced byte then ⟨[], .collecting (announced byte) rest⟩
    else
      let later := cut (rest.drop (announced byte))
      if announced byte = 0 then later
      else ⟨rest.take (announced byte) :: later.payloads, later.ending⟩
termination_by bytes => bytes.length
decreasing_by simp only [List.length_cons, List.length_drop]; omega

/-- The cut with one more byte, which may complete a payload. -/
def Cut.extend (before : Cut) (byte : UInt8) : Cut :=
  ⟨before.payloads ++ (before.ending.whole? byte).toList, before.ending.next byte⟩

@[simp] theorem cut_nil : cut [] = ⟨[], .idle⟩ := by
  rw [cut]

variable {byte : UInt8} {rest : List UInt8}

theorem cut_of_lt (h : rest.length < announced byte) :
    cut (byte :: rest) = ⟨[], .collecting (announced byte) rest⟩ := by
  rw [cut, if_pos h]

theorem cut_of_le (h : announced byte ≤ rest.length) :
    cut (byte :: rest) =
      if announced byte = 0 then cut (rest.drop (announced byte))
      else ⟨rest.take (announced byte) :: (cut (rest.drop (announced byte))).payloads,
        (cut (rest.drop (announced byte))).ending⟩ := by
  rw [cut, if_neg (by omega)]

private theorem cut_singleton (byte : UInt8) : cut [byte] = (cut []).extend byte := by
  rw [cut_nil, Cut.extend, Intake.next, Intake.whole?]
  by_cases hnone : announced byte = 0
  · have hle : announced byte ≤ ([] : List UInt8).length := Nat.le_of_eq hnone
    rw [cut_of_le hle, if_pos hnone, if_pos hnone, List.drop_nil, cut_nil]
    rfl
  · have hlt : ([] : List UInt8).length < announced byte := Nat.pos_of_ne_zero hnone
    rw [cut_of_lt hlt, if_neg hnone]
    rfl

private theorem cut_open_concat (h : rest.length < announced byte) (last : UInt8) :
    cut (byte :: (rest ++ [last])) = Cut.extend ⟨[], .collecting (announced byte) rest⟩ last := by
  have hlength : (rest ++ [last]).length = rest.length + 1 := by simp
  rw [Cut.extend, Intake.next, Intake.whole?]
  by_cases hlast : rest.length + 1 = announced byte
  · -- The frame takes all that there is, and nothing is left to cut.
    have hle : announced byte ≤ (rest ++ [last]).length := by omega
    have hall : (rest ++ [last]).take (announced byte) = rest ++ [last] :=
      List.take_of_length_le (by omega)
    have hnothing : (rest ++ [last]).drop (announced byte) = [] :=
      List.drop_of_length_le (by omega)
    rw [cut_of_le hle, hall, hnothing, cut_nil, if_neg (by omega), if_pos hlast, if_pos hlast]
    rfl
  · have hlt : (rest ++ [last]).length < announced byte := by omega
    rw [cut_of_lt hlt, if_neg hlast, if_neg hlast]
    rfl

/-- The cut is extended byte by byte, although it is read off from the front. -/
theorem cut_concat (bytes : List UInt8) (last : UInt8) :
    cut (bytes ++ [last]) = (cut bytes).extend last := by
  fun_induction cut bytes with
  | case1 =>
    rw [← cut_nil]
    exact cut_singleton last
  | case2 byte rest hopen => exact cut_open_concat hopen last
  | case3 byte rest hwhole later hnone ih =>
    have hle : announced byte ≤ rest.length := Nat.not_lt.mp hwhole
    have hmore : announced byte ≤ (rest ++ [last]).length := Nat.le_trans hle (by simp)
    rw [List.cons_append, cut_of_le hmore, if_pos hnone, List.drop_append_of_le_length hle, ih]
  | case4 byte rest hwhole later hsome ih =>
    have hle : announced byte ≤ rest.length := Nat.not_lt.mp hwhole
    have hmore : announced byte ≤ (rest ++ [last]).length := Nat.le_trans hle (by simp)
    rw [List.cons_append, cut_of_le hmore, if_neg hsome, List.drop_append_of_le_length hle,
      List.take_append_of_le_length hle, ih]
    rfl

end Grammar

namespace Inbox

theorem intake_receive (inbox : Inbox) (byte : UInt8) :
    (inbox.receive byte).intake = inbox.intake.next byte := by
  obtain ⟨intake, completed⟩ := inbox
  cases intake with
  | idle => exact apply_ite Inbox.intake _ _ _
  | collecting length bytes => exact apply_ite Inbox.intake _ _ _

theorem completed_receive {inbox : Inbox} {byte : UInt8} {payload : List UInt8}
    (h : (inbox.receive byte).completed = some payload) :
    inbox.intake.whole? byte = some payload ∨
      inbox.intake.whole? byte = none ∧ inbox.completed = some payload := by
  obtain ⟨intake, completed⟩ := inbox
  cases intake with
  | idle =>
    simp only [receive] at h
    split at h
    · exact .inr ⟨rfl, h⟩
    · exact absurd h (Option.some_ne_none payload).symm
  | collecting length bytes =>
    simp only [receive] at h
    split at h
    · next hlast => exact .inl ((if_pos hlast).trans h)
    · next hmore => exact .inr ⟨if_neg hmore, h⟩

/-- An inbox that received the bytes of a stream, and of which some payloads were taken. -/
structure Reads (inbox : Inbox) (bytes : List UInt8) : Prop where
  intake_eq : inbox.intake = (Grammar.cut bytes).ending
  completed_eq : ∀ payload, inbox.completed = some payload →
    (Grammar.cut bytes).payloads.getLast? = some payload

variable {inbox : Inbox} {bytes : List UInt8}

theorem reads_empty : empty.Reads [] where
  intake_eq := by rw [Grammar.cut_nil]; rfl
  completed_eq := nofun

theorem Reads.receive (h : inbox.Reads bytes) (byte : UInt8) :
    (inbox.receive byte).Reads (bytes ++ [byte]) := by
  constructor
  · rw [intake_receive, h.intake_eq, Grammar.cut_concat]
    rfl
  · intro payload hpayload
    rw [Grammar.cut_concat, Grammar.Cut.extend, ← h.intake_eq]
    rcases completed_receive hpayload with hnew | ⟨hnone, hold⟩
    · rw [hnew, Option.toList_some, List.getLast?_concat]
    · rw [hnone, Option.toList_none, List.append_nil]
      exact h.completed_eq payload hold

theorem Reads.takeCompleted (h : inbox.Reads bytes) : inbox.takeCompleted.Reads bytes where
  intake_eq := h.intake_eq
  completed_eq := nofun

end Inbox

end LampPanel
