import Fingerprints.Runs.History
import Fingerprints.Wire.Message

/-!
# The circular log

`fpc_debug_circular_log` and `fpc_debug_get_circular_log` of `debug/fpc_debug.c`. Messages are written
one behind the other with a newline each, from the beginning of the buffer again where one does not fit
behind the last, and the output is what is left behind the end, then what is in front of it.

A message that is longer than the buffer is not accepted, but its first bytes are written behind the
end before that is found out.

* **`run_logInv`**: what is written stays inside the buffer, and in front of the end lie the last of
  the accepted messages, in every run;
* **`recent_step_iff`**: a message keeps the output a suffix of the accepted messages exactly when it
  is accepted, or comes before the buffer was full, or is cut off to what was there anyway;
* **`circularLog_iff`**: so for all states of a run.
-/

namespace Fpc.CircularLog

open Runs Wire

/-! ## The log (`fpc_debug.h`, `fpc_debug.c`) -/

/-- What `vsnprintf` makes of a format and its arguments, without a NUL. -/
structure Message where
  text : List UInt8
  noNul : 0 ∉ text

/-- `fpc_debug_log_context_t`: the buffer at `log`, the offset of `end` in it, and `full`. The writes
that were made, as offsets and lengths, come with it. -/
structure LogContext where
  buffer : List UInt8
  endPos : Nat
  full : Bool
  writes : List (Nat × Nat)
  deriving DecidableEq, Repr

/-- `FPC_CONFIG_LOGGING_IN_RELEASE_BUFFER_SIZE`. Pointers into the buffer are subtracted, and their
difference is a signed word. -/
abbrev BufferSize := { n : Nat // n < 2 ^ 31 }

/-- The size where the configuration does not set it. -/
def defaultBufferSize : BufferSize := ⟨4096, by decide⟩

/-- `MAX_LOG_STRING_LENGTH` -/
def maxLogStringLength (bufferSize : BufferSize) : Nat := bufferSize - 1

/-- The context before the first message. -/
def LogContext.zeroed (bufferSize : BufferSize) : LogContext :=
  { buffer := List.replicate bufferSize.val 0, endPos := 0, full := false, writes := [] }

def LogContext.write (context : LogContext) (pos : Nat) (bytes : List UInt8) : LogContext :=
  { context with
    buffer := overlay context.buffer pos bytes
    writes := context.writes ++ [(pos, bytes.length)] }

/-- `vsnprintf`: as much of the text as there is room for, and a NUL. -/
def vsnprintfBytes (size : Nat) (text : List UInt8) : List UInt8 :=
  if size = 0 then [] else text.take (size - 1) ++ [0]

/-- What `vsnprintf` returns: the length of the whole text, negative where an `int` does not hold it. -/
def vsnprintfLength (text : List UInt8) : Int :=
  if text.length < 2 ^ 31 then text.length else -1

/-- The end of `fpc_debug_circular_log`. -/
def endMessage (length : Nat) (context : LogContext) : LogContext :=
  let context := { context with endPos := context.endPos + length }
  let context := context.write context.endPos [10]
  { context with endPos := context.endPos + 1 }

/-- `fpc_debug_circular_log`, and whether it comes to its end: it accepts the message. -/
def fpcDebugCircularLog (bufferSize : BufferSize) (message : Message) (context : LogContext) :
    LogContext × Bool :=
  let maxLength := maxLogStringLength bufferSize
  let bufferUsed := context.endPos
  let bufferLeft := maxLength - bufferUsed
  let length := vsnprintfLength message.text
  let context := context.write context.endPos (vsnprintfBytes bufferLeft message.text)
  if length < 0 ∨ length.toNat ≥ maxLength then (context, false)
  else if length.toNat ≥ bufferLeft then
    let context := context.write context.endPos (List.replicate bufferLeft 0)
    let context := { context with full := true, endPos := 0 }
    let context := context.write context.endPos (vsnprintfBytes maxLength message.text)
    (endMessage length.toNat context, true)
  else (endMessage length.toNat context, true)

/-- "Too small buffer" -/
def tooSmallBuffer : List UInt8 :=
  [84, 111, 111, 32, 115, 109, 97, 108, 108, 32, 98, 117, 102, 102, 101, 114]

/-- `fpc_debug_get_circular_log`: what it writes to the beginning of a buffer of a size, and the size
behind the call. -/
def fpcDebugGetCircularLog (bufferSize : BufferSize) (context : LogContext) (size : Nat) :
    List UInt8 × Nat :=
  if size < bufferSize then (vsnprintfBytes size tooSmallBuffer, size)
  else if context.full then
    (context.buffer.drop context.endPos ++ context.buffer.take context.endPos, bufferSize.val)
  else (context.buffer.take context.endPos, context.endPos)

/-! ## Runs -/

/-- A message that is logged, with the context that it finds. -/
structure Moment where
  before : LogContext
  message : Message

/-- Messages are logged, from the empty buffer on. -/
def logSystem (bufferSize : BufferSize) : System LogContext Moment where
  init s := s = .zeroed bufferSize
  step s m s' := m.before = s ∧ s' = (fpcDebugCircularLog bufferSize m.message s).1

/-- A message is accepted: the end pointer is advanced for it. -/
def Accepts (bufferSize : BufferSize) (m : Moment) : Prop :=
  (fpcDebugCircularLog bufferSize m.message m.before).2 = true

instance (bufferSize : BufferSize) (m : Moment) : Decidable (Accepts bufferSize m) :=
  inferInstanceAs (Decidable (_ = _))

/-- The accepted messages, each with a newline. -/
def accepted (bufferSize : BufferSize) : List Moment → List UInt8 :=
  collect fun m => if Accepts bufferSize m then m.message.text ++ [10] else []

/-- Bytes without the NUL bytes among them. -/
def withoutNul (bytes : List UInt8) : List UInt8 := bytes.filter fun b => b ≠ 0

/-- The writes that were made stay inside the buffer, its end is behind its start by less than its
size, and the output is a suffix of the accepted messages. -/
structure LogOk (bufferSize : BufferSize) (history : List Moment) (s : LogContext) : Prop where
  inside : ∀ w ∈ s.writes, w.1 + w.2 ≤ bufferSize
  endPos : s.endPos ≤ bufferSize - 1
  recent : ∀ size : Nat, bufferSize.val ≤ size →
    withoutNul (fpcDebugGetCircularLog bufferSize s size).1 <:+ accepted bufferSize history

/-! ## What a message leaves -/

section

variable {bufferSize : BufferSize} {lower upper : List UInt8} {full : Bool} {writes : List (Nat × Nat)}
  {message : Message}

/-- A context with `lower` in front of its end and `upper` behind it. -/
def between (lower upper : List UInt8) (full : Bool) (writes : List (Nat × Nat)) : LogContext :=
  { buffer := lower ++ upper, endPos := lower.length, full := full, writes := writes }

theorem write_between (bytes : List UInt8) :
    (between lower upper full writes).write lower.length bytes =
      between lower (bytes ++ upper.drop bytes.length) full
        (writes ++ [(lower.length, bytes.length)]) := by
  unfold LogContext.write between
  simp only [overlay, List.take_left', ← List.drop_drop, List.drop_left']

/-- The newline goes over the NUL behind the text. -/
theorem endMessage_between (text : List UInt8) :
    endMessage text.length (between lower (text ++ 0 :: upper) full writes) =
      between (lower ++ (text ++ [10])) upper full
        (writes ++ [(lower.length + text.length, 1)]) := by
  have hsplit : lower ++ (text ++ 0 :: upper) = (lower ++ text) ++ (0 :: upper) :=
    (List.append_assoc _ _ _).symm
  have hlength : lower.length + text.length = (lower ++ text).length := List.length_append.symm
  unfold endMessage LogContext.write between
  simp only [hsplit, hlength, overlay, List.take_left', ← List.drop_drop, List.drop_left']
  simp [Nat.add_assoc]

/-- A text that there is room for is written whole. -/
theorem vsnprintfBytes_of_lt {size : Nat} {text : List UInt8} (h : text.length < size) :
    vsnprintfBytes size text = text ++ [0] := by
  unfold vsnprintfBytes
  rw [if_neg (by omega), List.take_of_length_le (by omega)]

theorem length_vsnprintfBytes_le (size : Nat) (text : List UInt8) :
    (vsnprintfBytes size text).length ≤ size := by
  unfold vsnprintfBytes
  split
  · exact Nat.zero_le _
  · simp
    omega

/-- A message is short enough. -/
def Message.Short (message : Message) (bufferSize : BufferSize) : Prop :=
  message.text.length < maxLogStringLength bufferSize

instance : Decidable (message.Short bufferSize) := inferInstanceAs (Decidable (_ < _))

theorem short_iff : message.Short bufferSize ↔ ¬ (vsnprintfLength message.text < 0 ∨
    (vsnprintfLength message.text).toNat ≥ maxLogStringLength bufferSize) := by
  have hsize := bufferSize.2
  unfold Message.Short vsnprintfLength maxLogStringLength
  split <;> omega

theorem length_of_short (h : message.Short bufferSize) :
    (vsnprintfLength message.text).toNat = message.text.length := by
  have hsize := bufferSize.2
  unfold Message.Short maxLogStringLength at h
  unfold vsnprintfLength
  rw [if_pos (by omega)]
  rfl

/-- What is left behind the end, for `vsnprintf`. -/
def bufferLeft (bufferSize : BufferSize) (lower : List UInt8) : Nat :=
  maxLogStringLength bufferSize - lower.length

/-- A message that is too long: what there is room for of it stays behind the end. -/
theorem circularLog_rejects (hlong : ¬ message.Short bufferSize) :
    let bytes := vsnprintfBytes (bufferLeft bufferSize lower) message.text
    fpcDebugCircularLog bufferSize message (between lower upper full writes) =
      (between lower (bytes ++ upper.drop bytes.length) full
        (writes ++ [(lower.length, bytes.length)]), false) := by
  have hwrite := @write_between lower upper full writes
    (vsnprintfBytes (bufferLeft bufferSize lower) message.text)
  unfold fpcDebugCircularLog
  dsimp only
  rw [if_pos (not_not.mp (mt short_iff.mpr hlong))]
  exact congrArg (·, false) hwrite

/-- A message that fits behind the last one. -/
theorem circularLog_fits (hshort : message.Short bufferSize)
    (hfits : message.text.length < bufferLeft bufferSize lower) :
    fpcDebugCircularLog bufferSize message (between lower upper full writes) =
      (between (lower ++ (message.text ++ [10])) (upper.drop (message.text.length + 1)) full
        (writes ++ [(lower.length, message.text.length + 1),
          (lower.length + message.text.length, 1)]), true) := by
  have hwrite := @write_between lower upper full writes (message.text ++ [0])
  unfold fpcDebugCircularLog
  dsimp only
  rw [if_neg (short_iff.mp hshort), length_of_short hshort]
  show (if message.text.length ≥ bufferLeft bufferSize lower then _ else _) = _
  rw [if_neg (by omega)]
  show (endMessage _ ((between lower upper full writes).write lower.length
    (vsnprintfBytes (bufferLeft bufferSize lower) message.text)), true) = _
  rw [vsnprintfBytes_of_lt hfits, hwrite, List.append_assoc, List.singleton_append,
    endMessage_between, List.length_append, List.append_assoc]
  rfl

/-- A message that does not fit there: what is behind the end is cleared, and the message is written
to the beginning, over what is the oldest now. -/
theorem circularLog_wraps (hshort : message.Short bufferSize)
    (hwraps : bufferLeft bufferSize lower ≤ message.text.length) :
    let left := bufferLeft bufferSize lower
    let cleared := lower ++ (List.replicate left 0 ++ upper.drop left)
    fpcDebugCircularLog bufferSize message (between lower upper full writes) =
      (between (message.text ++ [10]) (cleared.drop (message.text.length + 1)) true
        (writes ++ [(lower.length, (vsnprintfBytes left message.text).length),
          (lower.length, left), (0, message.text.length + 1), (message.text.length, 1)]), true) := by
  intro left cleared
  have hle := length_vsnprintfBytes_le left message.text
  have hwrite := @write_between lower upper full writes (vsnprintfBytes left message.text)
  have hclear := @write_between lower
    (vsnprintfBytes left message.text ++ upper.drop (vsnprintfBytes left message.text).length) full
    (writes ++ [(lower.length, (vsnprintfBytes left message.text).length)]) (List.replicate left 0)
  rw [List.length_replicate, List.drop_append, List.drop_of_length_le hle, List.nil_append,
    List.drop_drop, Nat.add_sub_cancel' hle] at hclear
  have hagain := @write_between [] cleared true (writes ++
    [(lower.length, (vsnprintfBytes left message.text).length)] ++ [(lower.length, left)])
    (message.text ++ [0])
  unfold fpcDebugCircularLog
  dsimp only
  rw [if_neg (short_iff.mp hshort), length_of_short hshort]
  show (if message.text.length ≥ left then _ else _) = _
  rw [if_pos hwraps]
  show (endMessage _ (LogContext.write { (((between lower upper full writes).write lower.length
    (vsnprintfBytes left message.text)).write lower.length (List.replicate left 0)) with
      full := true, endPos := 0 } 0
    (vsnprintfBytes (maxLogStringLength bufferSize) message.text)), true) = _
  rw [vsnprintfBytes_of_lt hshort, hwrite, hclear]
  show (endMessage _ ((between [] cleared true (writes ++
    [(lower.length, (vsnprintfBytes left message.text).length)] ++ [(lower.length, left)])).write
      ([] : List UInt8).length (message.text ++ [0])), true) = _
  rw [hagain, List.append_assoc, List.singleton_append, endMessage_between, List.length_append]
  simp

/-! ## What holds of the buffer -/

@[simp] theorem withoutNul_append (a b : List UInt8) :
    withoutNul (a ++ b) = withoutNul a ++ withoutNul b := List.filter_append a b

theorem withoutNul_eq_self {bytes : List UInt8} (h : 0 ∉ bytes) : withoutNul bytes = bytes := by
  rw [withoutNul, List.filter_eq_self]
  intro b hb
  simpa using ne_of_mem_of_not_mem hb h

theorem withoutNul_eq_nil {bytes : List UInt8} (h : ∀ b ∈ bytes, b = 0) : withoutNul bytes = [] := by
  rw [withoutNul, List.filter_eq_nil_iff]
  intro b hb
  simp [h b hb]

theorem withoutNul_drop (bytes : List UInt8) (n : Nat) :
    withoutNul (bytes.drop n) <:+ withoutNul bytes := (List.drop_suffix n bytes).filter _

/-- The buffer behind some accepted messages, whatever was not accepted. The last byte is never
written. -/
structure Holds (bufferSize : BufferSize) (messages lower upper : List UInt8) (full : Bool)
    (writes : List (Nat × Nat)) : Prop where
  length : lower.length + upper.length = bufferSize
  endPos : lower.length ≤ maxLogStringLength bufferSize
  inside : ∀ w ∈ writes, w.1 + w.2 ≤ bufferSize
  last : ∀ b ∈ upper.drop (bufferLeft bufferSize lower), b = 0
  front : 0 ∉ lower
  recent : lower <:+ messages
  whole : full = false → lower = messages

/-- What is output of a full buffer is the end of the messages. -/
def Recent (messages lower upper : List UInt8) (full : Bool) : Prop :=
  full = true → withoutNul upper ++ lower <:+ messages

variable {messages : List UInt8}

/-- What of a message that is too long was there anyway, behind the end. -/
def CutOffRecent (bufferSize : BufferSize) (messages lower text : List UInt8) : Prop :=
  text.take (bufferLeft bufferSize lower - 1) ++ lower <:+ messages

theorem mem_writes {more : List (Nat × Nat)} (h : ∀ w ∈ writes, w.1 + w.2 ≤ bufferSize)
    (hmore : ∀ w ∈ more, w.1 + w.2 ≤ bufferSize) : ∀ w ∈ writes ++ more, w.1 + w.2 ≤ bufferSize :=
  List.forall_mem_append.mpr ⟨h, hmore⟩

/-- A message that is not accepted stays in front of the last byte. -/
theorem Holds.rejects (h : Holds bufferSize messages lower upper full writes)
    (message : Message) :
    let bytes := vsnprintfBytes (bufferLeft bufferSize lower) message.text
    Holds bufferSize messages lower (bytes ++ upper.drop bytes.length) full
        (writes ++ [(lower.length, bytes.length)]) := by
  intro bytes
  have hle : bytes.length ≤ bufferLeft bufferSize lower := length_vsnprintfBytes_le _ _
  have hlength := h.length
  have hend := h.endPos
  have hdrop : (bytes ++ upper.drop bytes.length).drop (bufferLeft bufferSize lower)
      = upper.drop (bufferLeft bufferSize lower) := by
    rw [List.drop_append, List.drop_of_length_le hle, List.nil_append, List.drop_drop,
      Nat.add_sub_cancel' hle]
  unfold bufferLeft maxLogStringLength at hle
  unfold maxLogStringLength at hend
  refine ⟨?_, h.endPos, mem_writes h.inside ?_, ?_, h.front, h.recent, h.whole⟩
  · rw [List.length_append, List.length_drop]
    omega
  · simp
    omega
  · rw [hdrop]
    exact h.last

/-- Of a message that is too long all but a NUL is written that there is room for. -/
theorem Holds.withoutNul_rejected (h : Holds bufferSize messages lower upper full writes)
    (hlong : ¬ message.Short bufferSize) :
    let bytes := vsnprintfBytes (bufferLeft bufferSize lower) message.text
    withoutNul (bytes ++ upper.drop bytes.length)
      = message.text.take (bufferLeft bufferSize lower - 1) := by
  intro bytes
  have htake : 0 ∉ message.text.take (bufferLeft bufferSize lower - 1) :=
    fun hmem => message.noNul (List.mem_of_mem_take hmem)
  have hlast := withoutNul_eq_nil h.last
  unfold Message.Short at hlong
  by_cases hleft : bufferLeft bufferSize lower = 0
  · have hbytes : bytes = [] := if_pos hleft
    rw [hleft] at hlast
    rw [hbytes, hleft]
    exact hlast
  · have hbytes : bytes = message.text.take (bufferLeft bufferSize lower - 1) ++ [0] := if_neg hleft
    have hfull : bytes.length = bufferLeft bufferSize lower := by
      rw [hbytes, List.length_append, List.length_take, List.length_singleton]
      unfold bufferLeft at *
      omega
    rw [withoutNul_append, hfull, hlast, hbytes, withoutNul_append, withoutNul_eq_self htake,
      List.append_nil]
    exact List.append_nil _

theorem noNul_message (message : Message) : 0 ∉ message.text ++ [10] := by
  simp [message.noNul]

theorem Holds.fits (h : Holds bufferSize messages lower upper full writes)
    (hfits : message.text.length < bufferLeft bufferSize lower) :
    Holds bufferSize (messages ++ (message.text ++ [10])) (lower ++ (message.text ++ [10]))
      (upper.drop (message.text.length + 1)) full
      (writes ++ [(lower.length, message.text.length + 1),
        (lower.length + message.text.length, 1)]) := by
  have hlength := h.length
  have hend := h.endPos
  have hnew : (lower ++ (message.text ++ [10])).length = lower.length + (message.text.length + 1) := by
    simp
  have hleft : message.text.length + 1 + bufferLeft bufferSize (lower ++ (message.text ++ [10]))
      = bufferLeft bufferSize lower := by
    unfold bufferLeft at hfits ⊢
    rw [hnew]
    omega
  unfold bufferLeft maxLogStringLength at hfits
  unfold maxLogStringLength at hend
  refine ⟨?_, ?_, mem_writes h.inside ?_, ?_, ?_, ?_, ?_⟩
  · rw [hnew, List.length_drop]
    omega
  · rw [hnew]
    unfold maxLogStringLength
    omega
  · simp
    omega
  · rw [List.drop_drop, hleft]
    exact h.last
  · exact List.not_mem_append h.front (noNul_message message)
  · obtain ⟨front, hfront⟩ := h.recent
    exact ⟨front, by rw [← hfront, List.append_assoc]⟩
  · intro hfull
    rw [h.whole hfull]

theorem Holds.wraps (h : Holds bufferSize messages lower upper full writes)
    (hshort : message.Short bufferSize) :
    let left := bufferLeft bufferSize lower
    let cleared := lower ++ (List.replicate left 0 ++ upper.drop left)
    Holds bufferSize (messages ++ (message.text ++ [10])) (message.text ++ [10])
      (cleared.drop (message.text.length + 1)) true
      (writes ++ [(lower.length, (vsnprintfBytes left message.text).length),
          (lower.length, left), (0, message.text.length + 1), (message.text.length, 1)]) := by
  intro left cleared
  have hlength := h.length
  have hend := h.endPos
  have hle := length_vsnprintfBytes_le left message.text
  have hleft : lower.length + left = maxLogStringLength bufferSize := Nat.add_sub_cancel' hend
  have hcleared : cleared.length = bufferSize := by
    unfold maxLogStringLength at hleft hend
    simp [cleared]
    omega
  have hbehind : message.text.length + 1 + bufferLeft bufferSize (message.text ++ [10])
      = lower.length + left := by
    rw [hleft]
    unfold bufferLeft Message.Short at *
    simp
    omega
  have hdrop : cleared.drop (lower.length + left) = upper.drop left := by
    rw [← List.drop_drop, List.drop_left' rfl]
    exact List.drop_left' List.length_replicate
  unfold Message.Short maxLogStringLength at hshort
  unfold maxLogStringLength at hleft
  refine ⟨?_, ?_, mem_writes h.inside ?_, ?_, noNul_message message, List.suffix_append _ _, nofun⟩
  · rw [List.length_drop, hcleared]
    simp
    omega
  · unfold maxLogStringLength
    simp
    omega
  · simp
    omega
  · rw [List.drop_drop, hbehind, hdrop]
    exact h.last

/-- Of what was in front of the end before only the last is left. -/
theorem Holds.recent_wraps (h : Holds bufferSize messages lower upper full writes) :
    let left := bufferLeft bufferSize lower
    let cleared := lower ++ (List.replicate left 0 ++ upper.drop left)
    Recent (messages ++ (message.text ++ [10])) (message.text ++ [10])
      (cleared.drop (message.text.length + 1)) true := by
  intro left cleared _
  have hcleared : withoutNul cleared = lower := by
    have hzeros : withoutNul (List.replicate left 0) = [] :=
      withoutNul_eq_nil fun b hb => List.eq_of_mem_replicate hb
    simp only [cleared, withoutNul_append]
    rw [withoutNul_eq_self h.front, hzeros, withoutNul_eq_nil h.last, List.append_nil,
      List.append_nil]
  obtain ⟨front, hfront⟩ := (withoutNul_drop cleared (message.text.length + 1)).trans
    (hcleared ▸ h.recent)
  exact ⟨front, by rw [← hfront, List.append_assoc]⟩

/-- A message that is written behind the last one takes away the oldest. -/
theorem recent_fits (h : Recent messages lower upper full) :
    Recent (messages ++ (message.text ++ [10])) (lower ++ (message.text ++ [10]))
      (upper.drop (message.text.length + 1)) full := by
  intro hfull
  obtain ⟨gone, hgone⟩ := withoutNul_drop upper (message.text.length + 1)
  obtain ⟨front, hfront⟩ := h hfull
  refine ⟨front ++ gone, ?_⟩
  rw [← hfront, ← hgone]
  simp only [List.append_assoc]

/-! ## Runs of messages -/

/-- What holds in every run. -/
def LogInv (bufferSize : BufferSize) (history : List Moment) (s : LogContext) : Prop :=
  ∃ lower upper full writes, s = between lower upper full writes ∧
    Holds bufferSize (accepted bufferSize history) lower upper full writes

/-- A message that keeps the output what was accepted last: it is accepted, or it comes before the
buffer was full, or what there is room for of it was there anyway. -/
def KeepsRecent (bufferSize : BufferSize) (history : List Moment) (m : Moment) : Prop :=
  m.message.Short bufferSize ∨ m.before.full = false ∨
    CutOffRecent bufferSize (accepted bufferSize history)
      (m.before.buffer.take m.before.endPos) m.message.text

@[simp] theorem take_between : (between lower upper full writes).buffer.take
    (between lower upper full writes).endPos = lower := List.take_left' rfl

/-- The output is the end of the messages where it is of a full buffer. -/
theorem Holds.logOk_iff {history : List Moment}
    (h : Holds bufferSize (accepted bufferSize history) lower upper full writes) :
    LogOk bufferSize history (between lower upper full writes) ↔
      Recent (accepted bufferSize history) lower upper full := by
  have houtput : ∀ size : Nat, bufferSize.val ≤ size →
      (fpcDebugGetCircularLog bufferSize (between lower upper full writes) size).1
        = if full then upper ++ lower else lower := by
    intro size hsize
    unfold fpcDebugGetCircularLog between
    dsimp only
    rw [if_neg (by omega), List.drop_left' rfl, List.take_left' rfl]
    cases full <;> rfl
  cases full with
  | false =>
    refine iff_of_true ⟨h.inside, h.endPos, ?_⟩ nofun
    intro size hsize
    rw [houtput size hsize, if_neg (by decide), withoutNul_eq_self h.front]
    exact h.recent
  | true =>
    have hrecent : ∀ size : Nat, bufferSize.val ≤ size →
        withoutNul (fpcDebugGetCircularLog bufferSize (between lower upper true writes) size).1
          = withoutNul upper ++ lower := by
      intro size hsize
      rw [houtput size hsize, if_pos rfl, withoutNul_append, withoutNul_eq_self h.front]
    constructor
    · intro hok _
      rw [← hrecent bufferSize.val le_rfl]
      exact hok.recent bufferSize.val le_rfl
    · intro hok
      refine ⟨h.inside, h.endPos, ?_⟩
      intro size hsize
      rw [hrecent size hsize]
      exact hok rfl

theorem accepted_cons (m : Moment) (history : List Moment) :
    accepted bufferSize (m :: history) = accepted bufferSize history ++
      if Accepts bufferSize m then m.message.text ++ [10] else [] := rfl

/-- What was accepted are the texts of messages, and newlines. Induction on the history. -/
theorem mem_accepted {history : List Moment} {b : UInt8} (h : b ∈ accepted bufferSize history) :
    b = 10 ∨ ∃ m ∈ history, b ∈ m.message.text := by
  induction history with
  | nil => cases h
  | cons m history ih =>
    rw [accepted_cons, List.mem_append] at h
    cases h with
    | inl hbefore =>
      obtain hnewline | ⟨m', hm', htext⟩ := ih hbefore
      · exact Or.inl hnewline
      · exact Or.inr ⟨m', List.mem_cons_of_mem m hm', htext⟩
    | inr hlast =>
      split at hlast
      · obtain htext | hnewline := List.mem_append.mp hlast
        · exact Or.inr ⟨m, List.mem_cons_self, htext⟩
        · exact Or.inl (List.mem_singleton.mp hnewline)
      · cases hlast

/-- What a message leaves, and whether the output is what was accepted last behind it, where it was in
front of it. -/
theorem Holds.step {history : List Moment}
    (h : Holds bufferSize (accepted bufferSize history) lower upper full writes)
    (message : Message) :
    let m : Moment := ⟨between lower upper full writes, message⟩
    ∃ lower' upper' full' writes',
      (fpcDebugCircularLog bufferSize message (between lower upper full writes)).1
          = between lower' upper' full' writes' ∧
        Holds bufferSize (accepted bufferSize (m :: history)) lower' upper' full' writes' ∧
        (Recent (accepted bufferSize history) lower upper full →
          (Recent (accepted bufferSize (m :: history)) lower' upper' full' ↔
            KeepsRecent bufferSize history m)) := by
  intro m
  by_cases hshort : message.Short bufferSize
  · by_cases hfits : message.text.length < bufferLeft bufferSize lower
    · have hlog := @circularLog_fits bufferSize lower upper full writes message hshort hfits
      have haccepts : Accepts bufferSize m := congrArg Prod.snd hlog
      rw [accepted_cons, if_pos haccepts]
      exact ⟨_, _, _, _, congrArg Prod.fst hlog, h.fits hfits,
        fun hrecent => iff_of_true (recent_fits hrecent) (Or.inl hshort)⟩
    · have hlog := @circularLog_wraps bufferSize lower upper full writes message hshort
        (Nat.le_of_not_lt hfits)
      have haccepts : Accepts bufferSize m := congrArg Prod.snd hlog
      rw [accepted_cons, if_pos haccepts]
      exact ⟨_, _, _, _, congrArg Prod.fst hlog, h.wraps hshort,
        fun _ => iff_of_true h.recent_wraps (Or.inl hshort)⟩
  · have hlog := @circularLog_rejects bufferSize lower upper full writes message hshort
    have haccepts : ¬ Accepts bufferSize m := by
      unfold Accepts
      rw [congrArg Prod.snd hlog]
      exact Bool.false_ne_true
    rw [accepted_cons, if_neg haccepts, List.append_nil]
    refine ⟨_, _, _, _, congrArg Prod.fst hlog, h.rejects message, fun _ => ?_⟩
    unfold Recent KeepsRecent CutOffRecent
    rw [h.withoutNul_rejected hshort]
    simp only [m, take_between, hshort, false_or]
    cases full with
    | false => exact iff_of_true nofun (Or.inl rfl)
    | true => exact ⟨fun hall => Or.inr (hall rfl), fun hor _ => hor.resolve_left nofun⟩

end

section

variable {bufferSize : BufferSize} {history : List Moment} {s s' : LogContext} {m : Moment}

/-- The log before the first message. -/
theorem holds_zeroed (bufferSize : BufferSize) :
    Holds bufferSize (accepted bufferSize []) [] (List.replicate bufferSize.val 0) false [] where
  length := by simp
  endPos := Nat.zero_le _
  inside := nofun
  last b hb := List.eq_of_mem_replicate (List.mem_of_mem_drop hb)
  front := nofun
  recent := List.suffix_rfl
  whole _ := rfl

theorem run_logInv (hrun : (logSystem bufferSize).Run history s) : LogInv bufferSize history s := by
  refine hrun.invariant ?_ ?_
  · intro s hinit
    rw [show s = .zeroed bufferSize from hinit]
    exact ⟨[], _, false, [], rfl, holds_zeroed bufferSize⟩
  · intro history s m s' _ hinv hstep
    obtain ⟨lower, upper, full, writes, rfl, hholds⟩ := hinv
    obtain ⟨lower', upper', full', writes', hlog, hholds', _⟩ := hholds.step m.message
    refine ⟨lower', upper', full', writes', hstep.2.trans hlog, ?_⟩
    rw [← hstep.1] at hholds'
    exact hholds'

/-- A message keeps the log as it is claimed to be exactly when it keeps the output the end of what
was accepted. -/
theorem recent_step_iff (hrun : (logSystem bufferSize).Run history s)
    (hok : LogOk bufferSize history s) (hstep : (logSystem bufferSize).step s m s') :
    LogOk bufferSize (m :: history) s' ↔ KeepsRecent bufferSize history m := by
  obtain ⟨lower, upper, full, writes, rfl, hholds⟩ := run_logInv hrun
  obtain ⟨lower', upper', full', writes', hlog, hholds', hrecent⟩ := hholds.step m.message
  have hm : (⟨between lower upper full writes, m.message⟩ : Moment) = m := by rw [← hstep.1]
  rw [hm] at hholds' hrecent
  rw [hstep.2.trans hlog, hholds'.logOk_iff]
  exact hrecent (hholds.logOk_iff.mp hok)

/-- **When the log returns the most recent messages.** In all states of a run exactly when each message
that is too long comes before the buffer was full, or is cut off to what was there anyway. -/
theorem circularLog_iff (hrun : (logSystem bufferSize).Run history s) :
    (LogOk bufferSize history s ∧ ∀ later m past, history = later ++ m :: past →
      LogOk bufferSize past m.before) ↔
      ∀ later m past, history = later ++ m :: past → KeepsRecent bufferSize past m := by
  apply hrun.throughout_history_iff
  · intro s m s' hstep
    exact hstep.1
  · intro s hinit
    rw [show s = .zeroed bufferSize from hinit]
    exact (holds_zeroed bufferSize).logOk_iff.mpr nofun
  · intro history s m s' hrun hok hstep
    exact recent_step_iff hrun hok hstep

theorem run_log (hrun : (logSystem bufferSize).Run history s) (message : Message) :
    (logSystem bufferSize).Run (⟨s, message⟩ :: history)
      (fpcDebugCircularLog bufferSize message s).1 := hrun.step ⟨rfl, rfl⟩

end

/-- A message of one byte again and again. -/
def repeated (n : Nat) (b : UInt8) (h : b ≠ 0) : Message where
  text := List.replicate n b
  noNul hmem := h (List.eq_of_mem_replicate hmem).symm

@[simp] theorem length_repeated (n : Nat) (b : UInt8) (h : b ≠ 0) :
    (repeated n b h).text.length = n := List.length_replicate

theorem mem_repeated {n : Nat} {b c : UInt8} (h : b ≠ 0) (hmem : c ∈ (repeated n b h).text) : c = b :=
  List.eq_of_mem_replicate hmem

/-- A buffer of eight bytes: two messages, the second from the beginning again, behind one that is too
long. -/
theorem circularLog_wrapped :
    ∃ (history : List Moment) (s : LogContext), (logSystem ⟨8, by decide⟩).Run history s ∧
      s.full = true ∧ LogOk ⟨8, by decide⟩ history s ∧
      ∀ later m past, history = later ++ m :: past → LogOk ⟨8, by decide⟩ past m.before := by
  have hzeroed : (logSystem ⟨8, by decide⟩).Run [] (.zeroed _) := .init rfl
  have hlong := run_log (run_log hzeroed (repeated 3 97 (by decide))) (repeated 9 98 (by decide))
  have hwrapped := run_log hlong (repeated 4 99 (by decide))
  refine ⟨_, _, hwrapped, by decide, (circularLog_iff hwrapped).mpr ?_⟩
  rw [System.forall_split_cons, System.forall_split_cons, System.forall_split_cons]
  refine ⟨Or.inl (by decide), Or.inr (Or.inl (by decide)), Or.inl (by decide), ?_⟩
  intro later m past hsplit
  simp at hsplit

/-- A message that fills the buffer, one that does not fit behind it, and one that is too long: its
first bytes are output in front of the second. -/
theorem circularLog_cutOff :
    ¬ ∀ (history : List Moment) (s : LogContext), (logSystem defaultBufferSize).Run history s →
      LogOk defaultBufferSize history s := by
  intro h
  have hsize : maxLogStringLength defaultBufferSize = 4095 := rfl
  have hzeroed : (logSystem defaultBufferSize).Run []
      (between [] (List.replicate defaultBufferSize.val 0) false []) := .init rfl
  have hfilled := run_log hzeroed (repeated 4093 97 (by decide))
  rw [circularLog_fits (by simp [Message.Short, hsize]) (by simp [bufferLeft, hsize])] at hfilled
  have hwrapped := run_log hfilled (repeated 1 98 (by decide))
  rw [circularLog_wraps (by simp [Message.Short, hsize]) (by simp [bufferLeft, hsize])] at hwrapped
  have hlong := run_log hwrapped (repeated 4096 99 (by decide))
  obtain hshort | hfull | hthere :=
    (recent_step_iff hwrapped (h _ _ hwrapped) ⟨rfl, rfl⟩).mp (h _ _ hlong)
  · simp [Message.Short, hsize] at hshort
  · cases hfull
  · rw [take_between, CutOffRecent] at hthere
    -- its first byte is in none of the accepted messages
    have hfirst : (99 : UInt8) ∈ (repeated 4096 99 (by decide)).text.take
        (bufferLeft defaultBufferSize ((repeated 1 98 (by decide)).text ++ [10]) - 1) := by
      simp [repeated, bufferLeft, hsize, List.take_replicate, -List.reduceReplicate]
    have haccepted := hthere.subset (List.mem_append_left _ hfirst)
    obtain hnewline | ⟨m, hm, htext⟩ := mem_accepted haccepted
    · exact absurd hnewline (by decide)
    · simp only [List.mem_cons, List.not_mem_nil, or_false] at hm
      obtain rfl | rfl := hm
      · exact absurd (mem_repeated (by decide) htext) (by decide)
      · exact absurd (mem_repeated (by decide) htext) (by decide)

end Fpc.CircularLog
