import LampPanel.DoubleBuffer

/-!
# Frames in the byte stream

A header byte announces up to fifteen bytes of payload. The framing is a state machine; the grammar
cuts a stream into frames without one, and gives the same answers.
-/

namespace LampPanel

inductive FramingError where
  /-- The high half is neither the tag nor zero. -/
  | badHeader (byte : UInt8)
deriving DecidableEq

def hexByte (byte : UInt8) : String :=
  let digit n := (Nat.digitChar n).toUpper
  String.ofList [digit (byte.toNat / 16), digit (byte.toNat % 16)]

def FramingError.message : FramingError → String
  | .badHeader byte => "invalid header byte 0x" ++ hexByte byte

/-- What an accepted byte was. -/
inductive Reception where
  | filler
  | emptyFrame
  /-- A header that announces a payload of the given length. -/
  | header (length : UInt8)
  /-- A payload byte before the last; the given number is still to come. -/
  | payload (remaining : UInt8)
  | complete
deriving DecidableEq

abbrev Answer := Except FramingError Reception

instance : DecidableEq Answer
  | .ok left, .ok right => decidable_of_iff (left = right) (by rw [Except.ok.injEq])
  | .error left, .error right => decidable_of_iff (left = right) (by rw [Except.error.injEq])
  | .ok _, .error _ => isFalse nofun
  | .error _, .ok _ => isFalse nofun

/-- The position in the stream: between frames, or in a payload of which some bytes have come. -/
inductive Framing where
  | boundary
  | inside (expected received : UInt8)
deriving DecidableEq, Inhabited

namespace Framing

def tag : UInt8 := 0x80

def header (length : UInt8) : UInt8 := tag ||| length

def classify (byte : UInt8) : Answer :=
  let length := byte &&& 0x0F
  if byte &&& 0xF0 = tag then .ok (if length = 0 then .emptyFrame else .header length)
  else if byte &&& 0xF0 = 0 then .ok .filler
  else .error (.badHeader byte)

theorem toNat_and_low (byte : UInt8) : (byte &&& 0x0F).toNat = byte.toNat % 16 :=
  Nat.and_two_pow_sub_one_eq_mod byte.toNat 4

theorem toNat_and_high (byte : UInt8) : (byte &&& 0xF0).toNat = byte.toNat / 16 * 16 := by
  have hmask : (byte &&& 0xF0).toBitVec = byte.toBitVec >>> 4 <<< 4 := by
    rw [BitVec.shiftLeft_ushiftRight]
    rfl
  have hlt := byte.toNat_lt
  rw [← UInt8.toNat_toBitVec, hmask, BitVec.toNat_shiftLeft, BitVec.toNat_ushiftRight,
    Nat.shiftRight_eq_div_pow, Nat.shiftLeft_eq, UInt8.toNat_toBitVec]
  exact Nat.mod_eq_of_lt (by omega)

theorem classify_eq (byte : UInt8) : classify byte =
    if byte.toNat / 16 = 8 then
      .ok (if byte.toNat % 16 = 0 then .emptyFrame else .header (UInt8.ofNat (byte.toNat % 16)))
    else if byte.toNat / 16 = 0 then .ok .filler
    else .error (.badHeader byte) := by
  have htag : byte &&& 0xF0 = tag ↔ byte.toNat / 16 = 8 := by
    rw [← UInt8.toNat_inj, toNat_and_high]
    change _ = 128 ↔ _
    omega
  have hfiller : byte &&& 0xF0 = 0 ↔ byte.toNat / 16 = 0 := by
    rw [← UInt8.toNat_inj, toNat_and_high]
    change _ = 0 ↔ _
    omega
  have hempty : byte &&& 0x0F = 0 ↔ byte.toNat % 16 = 0 := by
    rw [← UInt8.toNat_inj, toNat_and_low]
    rfl
  have hlength : byte &&& 0x0F = UInt8.ofNat (byte.toNat % 16) := by
    rw [← toNat_and_low, UInt8.ofNat_toNat]
  rw [classify]
  simp only [htag, hfiller, hempty]
  rw [hlength]

def answer : Framing → UInt8 → Answer
  | .boundary, byte => classify byte
  | .inside expected received, _ =>
    if received + 1 = expected then .ok .complete
    else .ok (.payload (expected - (received + 1)))

def next : Framing → UInt8 → Framing
  | .boundary, byte =>
    match classify byte with
    | .ok (.header length) => .inside length 0
    | _ => .boundary
  | .inside expected received, _ =>
    if received + 1 = expected then .boundary
    else .inside expected (received + 1)

theorem toNat_succ_of_lt {expected received : UInt8} (h : received.toNat < expected.toNat) :
    (received + 1).toNat = received.toNat + 1 := by
  have hexpected := expected.toNat_lt
  rw [UInt8.toNat_add]
  simp only [UInt8.reduceToNat]
  omega

def isBoundary : Framing → Bool
  | .boundary => true
  | .inside _ _ => false

theorem isBoundary_iff {framing : Framing} : framing.isBoundary = true ↔ framing = .boundary := by
  cases framing <;> simp [isBoundary]

end Framing

namespace DoubleBuffer

/-- What a byte does to the buffer, given the answer to it: a header empties the filled side, and
payload bytes are added to it. -/
def accept (buffer : DoubleBuffer) (byte : UInt8) : Answer → DoubleBuffer
  | .ok (.header _) => buffer.discard
  | .ok (.payload _) => (buffer.append byte).1
  | .ok .complete => (buffer.append byte).1.finish
  | .ok .filler | .ok .emptyFrame | .error _ => buffer

end DoubleBuffer

namespace Framing

def receive (framing : Framing) (buffer : DoubleBuffer) (byte : UInt8) :
    Framing × DoubleBuffer × Answer :=
  let reply := framing.answer byte
  (framing.next byte, buffer.accept byte reply, reply)

end Framing

def Pattern.frame (pattern : Pattern) : List UInt8 :=
  Framing.header (UInt8.ofNat byteLength) :: pattern.payload

namespace Framing

def answers : Framing → List UInt8 → List Answer
  | _, [] => []
  | framing, byte :: bytes => framing.answer byte :: (framing.next byte).answers bytes

def after (framing : Framing) (bytes : List UInt8) : Framing :=
  bytes.foldl next framing

@[simp] theorem after_nil (framing : Framing) : framing.after [] = framing := rfl

@[simp] theorem after_cons (framing : Framing) (byte : UInt8) (bytes : List UInt8) :
    framing.after (byte :: bytes) = (framing.next byte).after bytes := rfl

theorem after_append (framing : Framing) (left right : List UInt8) :
    framing.after (left ++ right) = (framing.after left).after right :=
  List.foldl_append

/-- The answers to the last `left` bytes of a payload. -/
def countdown : Nat → List Answer
  | 0 => []
  | 1 => [.ok .complete]
  | left + 2 => .ok (.payload (UInt8.ofNat (left + 1))) :: countdown (left + 1)

theorem next_inside {expected received : UInt8} {left : Nat} (byte : UInt8)
    (h : received.toNat + (left + 2) = expected.toNat) :
    (inside expected received).next byte = inside expected (received + 1) ∧
      (inside expected received).answer byte = .ok (.payload (UInt8.ofNat (left + 1))) ∧
      (received + 1).toNat + (left + 1) = expected.toNat := by
  have hexpected := expected.toNat_lt
  have hfewer : received.toNat < expected.toNat := by omega
  have hsucc := toNat_succ_of_lt hfewer
  have hne : ¬ received + 1 = expected := by
    rw [← UInt8.toNat_inj, hsucc]
    omega
  have hremaining : expected - (received + 1) = UInt8.ofNat (left + 1) := by
    rw [← UInt8.toNat_inj, UInt8.toNat_sub_of_le _ _ (by rw [UInt8.le_iff_toNat_le]; omega), hsucc,
      UInt8.toNat_ofNat']
    omega
  refine ⟨?_, ?_, by omega⟩
  · simp only [next, if_neg hne]
  · simp only [answer, if_neg hne, hremaining]

theorem next_last {expected received : UInt8} (byte : UInt8)
    (h : received.toNat + 1 = expected.toNat) :
    (inside expected received).next byte = boundary ∧
      (inside expected received).answer byte = .ok .complete := by
  have hfewer : received.toNat < expected.toNat := by omega
  have heq : received + 1 = expected := by
    rw [← UInt8.toNat_inj, toNat_succ_of_lt hfewer, h]
  exact ⟨if_pos heq, if_pos heq⟩

theorem answers_inside {expected received : UInt8} {left : Nat} (bytes : List UInt8)
    (hpos : 0 < left) (h : received.toNat + left = expected.toNat) :
    (inside expected received).answers bytes =
      (countdown left).take bytes.length ++ boundary.answers (bytes.drop left) := by
  induction bytes generalizing received left with
  | nil => simp only [answers, List.length_nil, List.take_zero, List.drop_nil, List.append_nil]
  | cons byte bytes ih =>
    match left, hpos with
    | 1, _ =>
      obtain ⟨hnext, hanswer⟩ := next_last byte h
      simp only [answers, hnext, hanswer, countdown, List.length_cons, List.take_succ_cons,
        List.take_nil, List.drop_succ_cons, List.drop_zero, List.cons_append, List.nil_append]
    | left + 2, _ =>
      obtain ⟨hnext, hanswer, hleft⟩ := next_inside byte h
      simp only [answers, hnext, hanswer, countdown, List.length_cons, List.take_succ_cons,
        List.drop_succ_cons, List.cons_append, ih (Nat.succ_pos left) hleft]

theorem after_inside {expected received : UInt8} {left : Nat} (bytes : List UInt8)
    (hpos : 0 < left) (h : received.toNat + left = expected.toNat) :
    (inside expected received).after bytes =
      if bytes.length < left then inside expected (received + UInt8.ofNat bytes.length)
      else boundary.after (bytes.drop left) := by
  induction bytes generalizing received left with
  | nil =>
    rw [if_pos (by exact hpos)]
    simp
  | cons byte bytes ih =>
    match left, hpos with
    | 1, _ =>
      obtain ⟨hnext, _⟩ := next_last byte h
      rw [if_neg (by simp), after_cons, hnext]
      rfl
    | left + 2, _ =>
      obtain ⟨hnext, _, hleft⟩ := next_inside byte h
      rw [after_cons, hnext, ih (Nat.succ_pos left) hleft]
      simp only [List.length_cons, List.drop_succ_cons, Nat.add_lt_add_iff_right]
      have hcount : received + 1 + UInt8.ofNat bytes.length =
          received + UInt8.ofNat (bytes.length + 1) := by
        rw [UInt8.add_assoc, UInt8.ofNat_add, UInt8.add_comm (UInt8.ofNat bytes.length)]
        rfl
      rw [hcount]

end Framing

namespace Grammar

/-- The answer to the first byte of a frame, by the halves of the byte. -/
def opening (byte : UInt8) : Answer :=
  if byte.toNat / 16 = 8 then
    .ok (if byte.toNat % 16 = 0 then .emptyFrame else .header (UInt8.ofNat (byte.toNat % 16)))
  else if byte.toNat / 16 = 0 then .ok .filler
  else .error (.badHeader byte)

/-- The number of payload bytes that belong to a first byte. -/
def announced (byte : UInt8) : Nat :=
  if byte.toNat / 16 = 8 then byte.toNat % 16 else 0

def answers : List UInt8 → List Answer
  | [] => []
  | byte :: rest =>
    opening byte :: (Framing.countdown (announced byte)).take rest.length ++
      answers (rest.drop (announced byte))
termination_by bytes => bytes.length
decreasing_by simp only [List.length_cons, List.length_drop]; omega

/-- Whether a stream that starts between frames also ends there. -/
def closed : List UInt8 → Bool
  | [] => true
  | byte :: rest =>
    decide (announced byte ≤ rest.length) && closed (rest.drop (announced byte))
termination_by bytes => bytes.length
decreasing_by simp only [List.length_cons, List.length_drop]; omega

theorem announced_lt (byte : UInt8) : announced byte < 16 := by
  unfold announced
  split <;> omega

theorem announced_header_pattern :
    announced (Framing.header (UInt8.ofNat Pattern.byteLength)) = Pattern.byteLength := by
  decide

theorem boundary_step (byte : UInt8) :
    Framing.boundary.answer byte = opening byte ∧
      Framing.boundary.next byte =
        if announced byte = 0 then .boundary
        else .inside (UInt8.ofNat (announced byte)) 0 := by
  constructor
  · exact Framing.classify_eq byte
  · rw [Framing.next, Framing.classify_eq, announced]
    by_cases htag : byte.toNat / 16 = 8
    · by_cases hempty : byte.toNat % 16 = 0
      · rw [if_pos htag, if_pos htag, if_pos hempty, if_pos hempty]
      · rw [if_pos htag, if_pos htag, if_neg hempty, if_neg hempty]
    · rw [if_neg htag, if_neg htag, if_pos rfl]
      by_cases hfiller : byte.toNat / 16 = 0
      · rw [if_pos hfiller]
      · rw [if_neg hfiller]

private theorem toNat_announced (byte : UInt8) :
    (0 : UInt8).toNat + announced byte = (UInt8.ofNat (announced byte)).toNat := by
  have hlt := announced_lt byte
  rw [UInt8.toNat_ofNat']
  simp only [UInt8.reduceToNat]
  omega

theorem answers_boundary (bytes : List UInt8) : Framing.boundary.answers bytes = answers bytes := by
  fun_induction answers bytes with
  | case1 => rfl
  | case2 byte rest ih =>
    obtain ⟨hanswer, hnext⟩ := boundary_step byte
    rw [Framing.answers, hanswer, hnext, List.cons_append]
    congr 1
    split
    · next hzero =>
      rw [← ih, hzero]
      simp only [Framing.countdown, List.take_nil, List.drop_zero, List.nil_append]
    · next hpos =>
      rw [Framing.answers_inside rest (Nat.pos_of_ne_zero hpos) (toNat_announced byte), ih]

theorem after_boundary (bytes : List UInt8) :
    (Framing.boundary.after bytes).isBoundary = closed bytes := by
  fun_induction closed bytes with
  | case1 => rfl
  | case2 byte rest ih =>
    obtain ⟨_, hnext⟩ := boundary_step byte
    rw [Framing.after_cons, hnext]
    split
    · next hzero =>
      rw [← ih, hzero]
      simp
    · next hpos =>
      rw [Framing.after_inside rest (Nat.pos_of_ne_zero hpos) (toNat_announced byte)]
      split
      · next hlt =>
        rw [decide_eq_false (by omega)]
        rfl
      · next hle =>
        rw [ih, decide_eq_true (by omega), Bool.true_and]

end Grammar

structure Link where
  framing : Framing
  buffer : DoubleBuffer
deriving DecidableEq

namespace Link

/-- A byte from the host, or an operation that the buffer is asked for otherwise. -/
inductive Event where
  | receive (byte : UInt8)
  | operate (operation : DoubleBuffer.Operation)
deriving DecidableEq

def Event.byte? : Event → Option UInt8
  | .receive byte => some byte
  | .operate _ => none

def bytes (events : List Event) : List UInt8 :=
  events.filterMap Event.byte?

def receive (link : Link) (byte : UInt8) : Link :=
  let (framing, buffer, _) := link.framing.receive link.buffer byte
  ⟨framing, buffer⟩

def answer (link : Link) (byte : UInt8) : Answer :=
  (link.framing.receive link.buffer byte).2.2

def next (link : Link) : Event → Link
  | .receive byte => link.receive byte
  | .operate operation => { link with buffer := link.buffer.perform operation }

def run (link : Link) (events : List Event) : Link :=
  events.foldl next link

def answers (link : Link) : List Event → List Answer
  | [] => []
  | event :: events => (event.byte?.map link.answer).toList ++ (link.next event).answers events

@[simp] theorem run_nil (link : Link) : link.run [] = link := rfl

@[simp] theorem run_cons (link : Link) (event : Event) (events : List Event) :
    link.run (event :: events) = (link.next event).run events := rfl

theorem run_append (link : Link) (before after : List Event) :
    link.run (before ++ after) = (link.run before).run after :=
  List.foldl_append

@[simp] theorem bytes_nil : bytes [] = [] := rfl

@[simp] theorem bytes_receive (byte : UInt8) (events : List Event) :
    bytes (.receive byte :: events) = byte :: bytes events := rfl

@[simp] theorem bytes_operate (operation : DoubleBuffer.Operation) (events : List Event) :
    bytes (.operate operation :: events) = bytes events := rfl

theorem bytes_append (before after : List Event) :
    bytes (before ++ after) = bytes before ++ bytes after :=
  List.filterMap_append

end Link

end LampPanel
