import LampPanel.Proofs.DoubleBuffer
import LampPanel.Proofs.Inbox
import Mathlib.Data.List.Basic

/-!
# A link reads frames by their grammar

Fifteen bytes of filler end whatever frame is open, since no payload is longer; the next frame then
arrives as it was sent.
-/

namespace LampPanel

namespace Link

theorem framing_run (link : Link) (events : List Event) :
    (link.run events).framing = link.framing.after (bytes events) := by
  induction events generalizing link with
  | nil => rfl
  | cons event events ih =>
    rw [run_cons, ih]
    cases event with
    | receive byte => rfl
    | operate operation => rfl

theorem answers_eq (link : Link) (events : List Event) :
    link.answers events = link.framing.answers (bytes events) := by
  induction events generalizing link with
  | nil => rfl
  | cons event events ih =>
    rw [answers, ih]
    cases event with
    | receive byte => rfl
    | operate operation => rfl

/-- A link gives the answers of the grammar to its bytes, and stands between frames where the
grammar ends one, whatever its buffer holds and whatever is done to it meanwhile. -/
theorem segmented_by_grammar (buffer : DoubleBuffer) (events : List Event) :
    let link : Link := ⟨.boundary, buffer⟩
    link.answers events = Grammar.answers (bytes events) ∧
      (link.run events).framing.isBoundary = Grammar.closed (bytes events) := by
  intro link
  constructor
  · rw [answers_eq]
    exact Grammar.answers_boundary (bytes events)
  · rw [framing_run]
    exact Grammar.after_boundary (bytes events)

end Link

namespace Grammar

theorem closed_filler {filler : List UInt8} (h : ∀ byte ∈ filler, byte.toNat / 16 = 0) :
    closed filler = true := by
  induction filler with
  | nil => rw [closed]
  | cons byte filler ih =>
    obtain ⟨hbyte, hfiller⟩ := List.forall_mem_cons.mp h
    have hnone : announced byte = 0 := if_neg (by omega)
    rw [closed, hnone, List.drop_zero, ih hfiller]
    simp

/-- Any stream is closed by as much filler as the longest payload. -/
theorem closed_append_filler (stream : List UInt8) {filler : List UInt8}
    (h : ∀ byte ∈ filler, byte.toNat / 16 = 0) (hlong : 15 ≤ filler.length) :
    closed (stream ++ filler) = true := by
  fun_induction closed stream with
  | case1 => exact closed_filler h
  | case2 byte rest ih =>
    have hlt := announced_lt byte
    have hroom : announced byte ≤ (rest ++ filler).length := by
      rw [List.length_append]
      omega
    rw [List.cons_append, closed, decide_eq_true hroom, Bool.true_and, List.drop_append]
    by_cases hclosed : announced byte ≤ rest.length
    · rw [Nat.sub_eq_zero_of_le hclosed, List.drop_zero]
      exact ih
    · -- The frame that the stream leaves open takes its last bytes from the filler.
      rw [List.drop_of_length_le (by omega), List.nil_append]
      apply closed_filler
      intro byte hbyte
      exact h byte (List.mem_of_mem_drop hbyte)

end Grammar

namespace Link

/-- Nothing is asked of the buffer but swaps. -/
def OnlySwaps (events : List Event) : Prop :=
  ∀ event ∈ events, event.byte? = none → event = .operate .swap

instance (events : List Event) : Decidable (OnlySwaps events) :=
  inferInstanceAs (Decidable (∀ event ∈ events, event.byte? = none → event = .operate .swap))

theorem OnlySwaps.head {operation : DoubleBuffer.Operation} {events : List Event}
    (h : OnlySwaps (.operate operation :: events)) : operation = .swap :=
  Event.operate.inj (h _ List.mem_cons_self rfl)

theorem OnlySwaps.tail {event : Event} {events : List Event} (h : OnlySwaps (event :: events)) :
    OnlySwaps events :=
  (List.forall_mem_cons.mp h).2

theorem onlySwaps_append {before after : List Event} :
    OnlySwaps (before ++ after) ↔ OnlySwaps before ∧ OnlySwaps after :=
  List.forall_mem_append

def Follows (link : Link) (inbox : Inbox) : Prop :=
  Inbox.Follows link.framing link.buffer.view inbox

variable {link : Link} {inbox : Inbox}

theorem Follows.receive (h : link.Follows inbox) (byte : UInt8) :
    (link.receive byte).Follows (inbox.receive byte) := by
  have hfollows := Inbox.Follows.receive h byte
  rw [← DoubleBuffer.view_accept] at hfollows
  exact hfollows

theorem Follows.swap (h : link.Follows inbox) :
    (link.next (.operate .swap)).Follows inbox.takeCompleted := by
  have hfollows := Inbox.Follows.swap h
  rw [← DoubleBuffer.view_swap] at hfollows
  exact hfollows

theorem Follows.swap_snd (h : link.Follows inbox) : link.buffer.swap.2 = inbox.pattern? := by
  rw [DoubleBuffer.swap_snd]
  exact Inbox.Follows.fresh_eq h

theorem Follows.collecting_run {length : Nat} {payload : List UInt8} {events : List Event}
    (h : link.Follows ⟨.collecting length payload, none⟩) (hswaps : OnlySwaps events)
    (hroom : payload.length + (bytes events).length < length) :
    (link.run events).Follows ⟨.collecting length (payload ++ bytes events), none⟩ := by
  induction events generalizing link payload with
  | nil => simpa using h
  | cons event events ih =>
    cases event with
    | receive byte =>
      rw [bytes_receive, List.length_cons] at hroom
      have hmore : Inbox.receive ⟨.collecting length payload, none⟩ byte =
          ⟨.collecting length (payload ++ [byte]), none⟩ := if_neg (by omega)
      have hnext := h.receive byte
      rw [hmore] at hnext
      have hlater := ih hnext hswaps.tail (by simp; omega)
      rw [List.append_assoc, List.singleton_append] at hlater
      exact hlater
    | operate operation =>
      obtain rfl := hswaps.head
      exact ih h.swap hswaps.tail hroom

theorem follows_opened_run {header : UInt8} {payload : List UInt8} {events : List Event}
    (hidle : link.framing = .boundary) (hopen : link.buffer.locked = false)
    (hswaps : OnlySwaps events) (hbytes : bytes events = header :: payload)
    (hroom : payload.length < Grammar.announced header) :
    (link.run events).Follows ⟨.collecting (Grammar.announced header) payload, none⟩ := by
  induction events generalizing link with
  | nil => simp at hbytes
  | cons event events ih =>
    cases event with
    | receive byte =>
      rw [bytes_receive] at hbytes
      obtain ⟨rfl, rfl⟩ := List.cons.inj hbytes
      have hview : link.buffer.view.locked = false := hopen
      have hopened := Inbox.Follows.opened hview (Nat.ne_zero_of_lt hroom)
      rw [← DoubleBuffer.view_accept, ← hidle] at hopened
      have hfollows : (link.receive byte).Follows
          ⟨.collecting (Grammar.announced byte) [], none⟩ := hopened
      exact hfollows.collecting_run hswaps.tail (by simpa using hroom)
    | operate operation =>
      obtain rfl := hswaps.head
      exact ih hidle ((DoubleBuffer.locked_swap _).trans hopen) hswaps.tail hbytes

theorem locked_run {events : List Event} (hswaps : OnlySwaps events) :
    (link.run events).buffer.locked = link.buffer.locked := by
  induction events generalizing link with
  | nil => rfl
  | cons event events ih =>
    rw [run_cons, ih hswaps.tail]
    cases event with
    | receive byte => exact DoubleBuffer.locked_accept link.buffer byte _
    | operate operation =>
      obtain rfl := hswaps.head
      exact DoubleBuffer.locked_swap link.buffer

theorem follows_completed_run {header : UInt8} {front : List UInt8} {events : List Event}
    (hidle : link.framing = .boundary) (hopen : link.buffer.locked = false)
    (hswaps : OnlySwaps events) (hbytes : bytes events = header :: front)
    (hlength : Grammar.announced header = front.length + 1) (last : UInt8) :
    (link.run (events ++ [.receive last])).Follows ⟨.idle, some (front ++ [last])⟩ := by
  have hfollows := follows_opened_run hidle hopen hswaps hbytes (by omega)
  rw [hlength] at hfollows
  have hcomplete : Inbox.receive ⟨.collecting (front.length + 1) front, none⟩ last =
      ⟨.idle, some (front ++ [last])⟩ := if_pos rfl
  have hreceived := hfollows.receive last
  rw [hcomplete] at hreceived
  rw [run_append]
  exact hreceived

theorem exists_front_of_frame {front : List UInt8} {last : UInt8} {pattern : Pattern}
    (h : front ++ [last] = pattern.frame) :
    ∃ collected, front = Framing.header (UInt8.ofNat Pattern.byteLength) :: collected ∧
      collected ++ [last] = pattern.payload ∧ collected.length + 1 = 10 := by
  cases front with
  | nil => exact absurd (congrArg List.length h) nofun
  | cons header collected =>
    obtain ⟨rfl, hpayload⟩ := List.cons.inj h
    have hlength : (collected ++ [last]).length = 10 := congrArg List.length hpayload
    rw [List.length_append, List.length_singleton] at hlength
    exact ⟨collected, rfl, hpayload, hlength⟩

theorem swap_snd_frame {events : List Event} {pattern : Pattern} {last : UInt8}
    (hidle : link.framing = .boundary) (hopen : link.buffer.locked = false)
    (hswaps : OnlySwaps events) (hframe : bytes events ++ [last] = pattern.frame) :
    (link.run (events ++ [.receive last])).buffer.swap.2 = some pattern := by
  obtain ⟨collected, hbytes, hpayload, hlength⟩ := exists_front_of_frame hframe
  have hannounced := Grammar.announced_header_pattern.trans hlength.symm
  have hfollows := follows_completed_run hidle hopen hswaps hbytes hannounced last
  rw [hpayload] at hfollows
  exact hfollows.swap_snd.trans (Inbox.pattern?_payload pattern)

/-- Fifteen bytes of filler bring a link back between frames. It takes in the next frame as it was
sent: swaps before the last byte find nothing, and the first one after it brings in the pattern. -/
theorem resynchronised (received : List UInt8) {buffer : DoubleBuffer}
    (hopen : buffer.locked = false) {filling sending : List Event} {pattern : Pattern} {last : UInt8}
    (hfilling : ∀ byte ∈ bytes filling, byte.toNat / 16 = 0) (hlong : 15 ≤ (bytes filling).length)
    (hframe : bytes sending ++ [last] = pattern.frame) (hswaps : OnlySwaps (filling ++ sending)) :
    let filled := (Link.mk (Framing.boundary.after received) buffer).run filling
    filled.framing = .boundary ∧
      filled.answers (sending ++ [.receive last]) =
        .ok (.header 10) :: ([9, 8, 7, 6, 5, 4, 3, 2, 1].map fun left => .ok (.payload left)) ++
          [.ok .complete] ∧
      (∀ before after, sending = before ++ after → bytes before ≠ [] →
        (filled.run before).buffer.swap.2 = none) ∧
      (filled.run (sending ++ [.receive last])).buffer.swap.2 = some pattern := by
  intro filled
  obtain ⟨hbefore, hswaps⟩ := onlySwaps_append.mp hswaps
  have hidle : filled.framing = .boundary := by
    rw [← Framing.isBoundary_iff, framing_run, ← Framing.after_append, Grammar.after_boundary]
    exact Grammar.closed_append_filler received hfilling hlong
  have hfilled : filled.buffer.locked = false := (locked_run hbefore).trans hopen
  refine ⟨hidle, ?_, ?_, swap_snd_frame hidle hfilled hswaps hframe⟩
  · rw [answers_eq, bytes_append, bytes_receive, bytes_nil, hframe, hidle]
    rfl
  · rintro before after rfl hheader
    obtain ⟨collected, hbytes, -, hlength⟩ := exists_front_of_frame hframe
    rw [bytes_append] at hbytes
    cases hheaded : bytes before with
    | nil => exact absurd hheaded hheader
    | cons header front =>
      rw [hheaded, List.cons_append] at hbytes
      obtain ⟨rfl, rfl⟩ := List.cons.inj hbytes
      rw [List.length_append] at hlength
      have hannounced := Grammar.announced_header_pattern.trans hlength.symm
      have hfollows :=
        follows_opened_run hidle hfilled (onlySwaps_append.mp hswaps).1 hheaded (by omega)
      exact hfollows.swap_snd

/-- The bytes before end with a header of the longest payload, and a payload waits that a swap takes
out meanwhile. Bytes of the frame look like headers. -/
theorem resynchronised_after_longest :
    let buffer : DoubleBuffer := ⟨[9], [1, 2], .right, true, false⟩
    let filling := List.replicate 14 (Event.receive 0x0F) ++
      [.operate .swap, .receive 0, .operate .swap]
    let filled := (Link.mk (Framing.boundary.after [0x81, 7, 0x8F]) buffer).run filling
    let pattern : Pattern := ⟨⟨⟨0x8A, 0x95, 0x80⟩, 40, 2⟩, ⟨.white, 0, 0x81⟩⟩
    let sending := [Event.receive 0x8A, .operate .swap] ++ pattern.payload.dropLast.map .receive
    filled.framing = .boundary ∧
      (filled.run sending).buffer.swap.2 = none ∧
      (filled.run (sending ++ [.receive 0x81])).buffer.swap.2 = some pattern := by
  intro buffer filling filled pattern sending
  have hopen : buffer.locked = false := rfl
  have hfilling : ∀ byte ∈ bytes filling, byte.toNat / 16 = 0 := by decide +kernel
  have hlong : 15 ≤ (bytes filling).length := by decide
  have hframe : bytes sending ++ [0x81] = pattern.frame := by decide
  have hswaps : OnlySwaps (filling ++ sending) := by decide
  obtain ⟨hidle, _, hnone, hswapped⟩ :=
    resynchronised [0x81, 7, 0x8F] hopen hfilling hlong hframe hswaps
  exact ⟨hidle, hnone sending [] (List.append_nil _).symm (by decide), hswapped⟩

end Link

theorem Grammar.announced_of_toNat_eq {header : UInt8} {length : Nat}
    (h : header.toNat = 0x80 + length) (hlt : length < 16) : announced header = length := by
  rw [announced, if_pos (by omega)]
  omega

namespace Link

def receiving (bytes : List UInt8) : List Event :=
  bytes.map .receive

theorem receiving_append (before after : List UInt8) :
    receiving (before ++ after) = receiving before ++ receiving after :=
  List.map_append

@[simp]
theorem bytes_receiving (received : List UInt8) : bytes (receiving received) = received := by
  induction received with
  | nil => rfl
  | cons byte received ih => exact congrArg (byte :: ·) ih

theorem onlySwaps_receiving (received : List UInt8) : OnlySwaps (receiving received) := by
  intro event hevent hnone
  obtain ⟨byte, _, rfl⟩ := List.mem_map.mp hevent
  exact absurd hnone nofun

variable {link : Link}

theorem swap_snd_payload (hidle : link.framing = .boundary) (hopen : link.buffer.locked = false)
    {header : UInt8} {payload : List UInt8} (hheader : header.toNat = 0x80 + payload.length)
    (hpos : 1 ≤ payload.length) (hlong : payload.length ≤ 15) :
    (link.run (receiving (header :: payload))).buffer.swap.2 = some (.ofPayload payload) := by
  have hannounced := Grammar.announced_of_toNat_eq hheader (by omega)
  rcases List.eq_nil_or_concat' payload with rfl | ⟨front, last, rfl⟩
  · exact absurd hpos (by decide)
  · rw [List.length_append, List.length_singleton] at hannounced
    have hfollows := follows_completed_run hidle hopen (onlySwaps_receiving (header :: front))
      (bytes_receiving _) hannounced last
    rw [← List.cons_append, receiving_append]
    exact hfollows.swap_snd.trans (Inbox.pattern?_completed _)

/-- A pattern is read back as it was written. A frame of one to fifteen bytes brings in the pattern
that its bytes read as, whatever an open buffer held before. -/
theorem read_as_sent (pattern : Pattern) (left right : List UInt8) :
    Pattern.ofPayload pattern.payload = pattern ∧
      (Pattern.ofPayload left).payload = Pattern.padded left ∧
      (Pattern.ofPayload left = Pattern.ofPayload right ↔
        Pattern.padded left = Pattern.padded right) ∧
      pattern.frame = 0x8A :: pattern.payload ∧
      ∀ buffer : DoubleBuffer, buffer.locked = false →
        let after bytes := (Link.mk .boundary buffer).run (receiving bytes)
        (∀ (header : UInt8) (payload : List UInt8), header.toNat = 0x80 + payload.length →
          1 ≤ payload.length → payload.length ≤ 15 →
            (after (header :: payload)).buffer.swap.2 = some (.ofPayload payload)) ∧
        (after pattern.frame).buffer.swap.2 = some pattern := by
  have hframe : pattern.frame = 0x8A :: pattern.payload := rfl
  have hten : pattern.payload.length = 10 := rfl
  refine ⟨Pattern.ofPayload_payload pattern, Pattern.payload_ofPayload left,
    Pattern.ofPayload_eq_iff left right, hframe, ?_⟩
  intro buffer hopen after
  have hsent : ∀ (header : UInt8) (payload : List UInt8), header.toNat = 0x80 + payload.length →
      1 ≤ payload.length → payload.length ≤ 15 →
        (after (header :: payload)).buffer.swap.2 = some (.ofPayload payload) := by
    intro header payload hheader hpos hlong
    exact swap_snd_payload rfl hopen hheader hpos hlong
  refine ⟨hsent, ?_⟩
  rw [hframe, hsent 0x8A pattern.payload rfl (by omega) (by omega), Pattern.ofPayload_payload]

/-- Of twelve bytes that look like headers the last two are dropped, and nothing is left of the
payload that was complete before. -/
theorem read_as_sent_oversized :
    let buffer : DoubleBuffer := ⟨[7, 7], [1, 2, 3, 4, 5, 6, 7, 8, 9, 10], .left, true, false⟩
    let payload : List UInt8 := [0x8A, 0x80, 3, 0x95, 5, 0x81, 7, 8, 0x8F, 10, 11, 12]
    let pattern : Pattern := ⟨⟨⟨0x8A, 0x80, 3⟩, 0x95, 5⟩, ⟨⟨0x81, 7, 8⟩, 0x8F, 10⟩⟩
    buffer.locked = false ∧ (0x8C : UInt8).toNat = 0x80 + payload.length ∧
      Pattern.ofPayload payload = pattern ∧
      ((Link.mk .boundary buffer).run (receiving (0x8C :: payload))).buffer.swap.2 =
        some pattern := by
  intro buffer payload pattern
  obtain ⟨_, _, hread, _, hsent⟩ := read_as_sent pattern payload pattern.payload
  have hpattern : Pattern.ofPayload payload = pattern := hread.mpr rfl
  refine ⟨rfl, rfl, hpattern, ?_⟩
  rw [(hsent buffer rfl).1 0x8C payload rfl (by decide) (by decide), hpattern]

end Link

end LampPanel
