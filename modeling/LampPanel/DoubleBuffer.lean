import LampPanel.Pattern

/-!
# The double buffer between host and lamp

One buffer plays while the other is filled; they change places only when the filled one is complete.
The view forgets which physical buffer is which.
-/

namespace LampPanel

inductive Side where
  | left
  | right
deriving DecidableEq

def Side.other : Side → Side
  | .left => .right
  | .right => .left

@[simp] theorem Side.other_other (side : Side) : side.other.other = side := by
  cases side <;> rfl

/-- Two payload buffers, the side that plays, whether the other one is complete, and whether
filling is shut off. -/
structure DoubleBuffer where
  left : List UInt8
  right : List UInt8
  front : Side
  complete : Bool
  locked : Bool
deriving DecidableEq

namespace DoubleBuffer

def capacity : Nat := Pattern.byteLength

def empty : DoubleBuffer := ⟨[], [], .left, false, false⟩

instance : Inhabited DoubleBuffer where
  default := empty

def side (buffer : DoubleBuffer) : Side → List UInt8
  | .left => buffer.left
  | .right => buffer.right

def setSide (buffer : DoubleBuffer) (bytes : List UInt8) : Side → DoubleBuffer
  | .left => { buffer with left := bytes }
  | .right => { buffer with right := bytes }

def playing (buffer : DoubleBuffer) : List UInt8 :=
  buffer.side buffer.front

def filling (buffer : DoubleBuffer) : List UInt8 :=
  buffer.side buffer.front.other

def pattern (buffer : DoubleBuffer) : Pattern :=
  .ofPayload buffer.playing

def setFilling (buffer : DoubleBuffer) (bytes : List UInt8) : DoubleBuffer :=
  buffer.setSide bytes buffer.front.other

/-- Empties the filled side for a new payload, which also withdraws a complete one. -/
def discard (buffer : DoubleBuffer) : DoubleBuffer :=
  if buffer.locked then buffer
  else { buffer.setFilling [] with complete := false }

def hasRoom (buffer : DoubleBuffer) : Bool :=
  !buffer.locked && buffer.filling.length < capacity

/-- Adds a byte to the filled side, and tells whether there was room for it. -/
def append (buffer : DoubleBuffer) (byte : UInt8) : DoubleBuffer × Bool :=
  if buffer.hasRoom then (buffer.setFilling (buffer.filling ++ [byte]), true)
  else (buffer, false)

def finish (buffer : DoubleBuffer) : DoubleBuffer :=
  if buffer.locked then buffer
  else { buffer with complete := true }

/-- Fills the other side with a whole pattern at once, even if filling is shut off. -/
def replace (buffer : DoubleBuffer) (pattern : Pattern) : DoubleBuffer :=
  { buffer.setFilling pattern.payload with complete := true }

/-- Shuts filling off for good. -/
def lock (buffer : DoubleBuffer) : DoubleBuffer :=
  { buffer with locked := true }

/-- Lets a complete payload change places with the playing one, which is then emptied. The pattern
that now plays is returned if they did. -/
def swap (buffer : DoubleBuffer) : DoubleBuffer × Option Pattern :=
  if buffer.complete then
    let swapped := { buffer with complete := false, front := buffer.front.other }
    let cleared := swapped.setFilling []
    (cleared, some cleared.pattern)
  else (buffer, none)

/-- The two payloads by role, and the two flags. -/
structure View where
  playing : List UInt8
  filling : List UInt8
  complete : Bool
  locked : Bool
deriving DecidableEq

namespace View

def empty : View := ⟨[], [], false, false⟩

def pattern (view : View) : Pattern :=
  .ofPayload view.playing

def discard (view : View) : View :=
  if view.locked then view else { view with filling := [], complete := false }

def hasRoom (view : View) : Bool :=
  !view.locked && view.filling.length < 10

def append (view : View) (byte : UInt8) : View :=
  if view.hasRoom then { view with filling := view.filling ++ [byte] } else view

def finish (view : View) : View :=
  if view.locked then view else { view with complete := true }

def replace (view : View) (pattern : Pattern) : View :=
  { view with filling := pattern.payload, complete := true }

def lock (view : View) : View :=
  { view with locked := true }

def swap (view : View) : View :=
  if view.complete then ⟨view.filling, [], false, view.locked⟩ else view

/-- The pattern that a swap brings into play. -/
def fresh? (view : View) : Option Pattern :=
  if view.complete then some (.ofPayload view.filling) else none

theorem playing_discard (view : View) : view.discard.playing = view.playing := by
  rw [discard]
  split <;> rfl

theorem playing_append (view : View) (byte : UInt8) :
    (view.append byte).playing = view.playing := by
  rw [append]
  split <;> rfl

theorem playing_finish (view : View) : view.finish.playing = view.playing := by
  rw [finish]
  split <;> rfl

end View

def view (buffer : DoubleBuffer) : View :=
  ⟨buffer.playing, buffer.filling, buffer.complete, buffer.locked⟩

@[simp] theorem view_empty : empty.view = .empty := rfl

@[simp] theorem view_pattern (buffer : DoubleBuffer) : buffer.view.pattern = buffer.pattern := rfl

theorem view_setFilling (buffer : DoubleBuffer) (bytes : List UInt8) :
    (buffer.setFilling bytes).view = { buffer.view with filling := bytes } := by
  cases buffer with | mk left right front complete locked =>
  cases front <;> rfl

@[simp]
theorem view_discard (buffer : DoubleBuffer) : buffer.discard.view = buffer.view.discard := by
  cases buffer with | mk left right front complete locked =>
  cases locked <;> cases front <;> rfl

@[simp] theorem view_hasRoom (buffer : DoubleBuffer) : buffer.view.hasRoom = buffer.hasRoom := rfl

@[simp] theorem view_append (buffer : DoubleBuffer) (byte : UInt8) :
    (buffer.append byte).1.view = buffer.view.append byte := by
  unfold append View.append
  rw [view_hasRoom]
  split
  · exact view_setFilling _ _
  · rfl

theorem append_snd (buffer : DoubleBuffer) (byte : UInt8) :
    (buffer.append byte).2 = buffer.hasRoom := by
  unfold append
  split
  · next h => exact h.symm
  · next h => exact (Bool.eq_false_iff.mpr h).symm

@[simp] theorem view_finish (buffer : DoubleBuffer) : buffer.finish.view = buffer.view.finish := by
  cases buffer with | mk left right front complete locked =>
  cases locked <;> rfl

@[simp] theorem view_replace (buffer : DoubleBuffer) (pattern : Pattern) :
    (buffer.replace pattern).view = buffer.view.replace pattern := by
  cases buffer with | mk left right front complete locked =>
  cases front <;> rfl

@[simp] theorem view_lock (buffer : DoubleBuffer) : buffer.lock.view = buffer.view.lock := rfl

@[simp] theorem view_swap (buffer : DoubleBuffer) : buffer.swap.1.view = buffer.view.swap := by
  cases buffer with | mk left right front complete locked =>
  cases complete <;> cases front <;> rfl

theorem swap_snd (buffer : DoubleBuffer) : buffer.swap.2 = buffer.view.fresh? := by
  cases buffer with | mk left right front complete locked =>
  cases complete <;> cases front <;> rfl

inductive Operation where
  | discard
  | append (byte : UInt8)
  | finish
  | replace (pattern : Pattern)
  | lock
  | swap
deriving DecidableEq

/-- Whether the operation is one of those that fill a side byte by byte. -/
def Operation.fills : Operation → Bool
  | .discard | .append _ | .finish => true
  | .replace _ | .lock | .swap => false

/-- What an operation hands back: nothing, whether a byte was kept, or the pattern that now plays.
-/
inductive Reply where
  | done
  | kept (room : Bool)
  | swapped (fresh : Option Pattern)
deriving DecidableEq

def perform (buffer : DoubleBuffer) : Operation → DoubleBuffer
  | .discard => buffer.discard
  | .append byte => (buffer.append byte).1
  | .finish => buffer.finish
  | .replace pattern => buffer.replace pattern
  | .lock => buffer.lock
  | .swap => buffer.swap.1

def reply (buffer : DoubleBuffer) : Operation → Reply
  | .append byte => .kept (buffer.append byte).2
  | .swap => .swapped buffer.swap.2
  | .discard | .finish | .replace _ | .lock => .done

def run (buffer : DoubleBuffer) (operations : List Operation) : DoubleBuffer :=
  operations.foldl perform buffer

def replies (buffer : DoubleBuffer) : List Operation → List Reply
  | [] => []
  | operation :: operations =>
    buffer.reply operation :: (buffer.perform operation).replies operations

namespace View

def perform (view : View) : Operation → View
  | .discard => view.discard
  | .append byte => view.append byte
  | .finish => view.finish
  | .replace pattern => view.replace pattern
  | .lock => view.lock
  | .swap => view.swap

def reply (view : View) : Operation → Reply
  | .append _ => .kept view.hasRoom
  | .swap => .swapped view.fresh?
  | .discard | .finish | .replace _ | .lock => .done

def run (view : View) (operations : List Operation) : View :=
  operations.foldl perform view

def replies (view : View) : List Operation → List Reply
  | [] => []
  | operation :: operations => view.reply operation :: (view.perform operation).replies operations

end View

@[simp] theorem view_perform (buffer : DoubleBuffer) (operation : Operation) :
    (buffer.perform operation).view = buffer.view.perform operation := by
  cases operation with
  | discard => exact view_discard buffer
  | append byte => exact view_append buffer byte
  | finish => exact view_finish buffer
  | replace pattern => exact view_replace buffer pattern
  | lock => exact view_lock buffer
  | swap => exact view_swap buffer

@[simp] theorem reply_view (buffer : DoubleBuffer) (operation : Operation) :
    buffer.view.reply operation = buffer.reply operation := by
  cases operation with
  | append byte =>
    rw [View.reply, reply, append_snd, view_hasRoom]
  | swap => rw [View.reply, reply, swap_snd]
  | discard | finish | replace _ | lock => rfl

end DoubleBuffer

end LampPanel
