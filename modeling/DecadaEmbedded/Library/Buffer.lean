import Mathlib.Data.List.TakeWhile

/-!
# Character arrays and the string functions of C

A buffer is an array of `size` bytes with the memory that lies behind it, and it remembers where it
was written. A write behind the array still lands in that memory; `Inside` says that there is none.
-/

namespace DecadaEmbedded.Library

structure Buffer where
  size : Nat
  cells : List UInt8
  writes : List Nat
deriving DecidableEq, Repr

namespace Buffer

def store (buffer : Buffer) (i : Nat) (byte : UInt8) : Buffer :=
  { buffer with cells := buffer.cells.set i byte, writes := buffer.writes ++ [i] }

def write (buffer : Buffer) (start : Nat) : List UInt8 → Buffer
  | [] => buffer
  | byte :: rest => (buffer.store start byte).write (start + 1) rest

/-- The string that starts a buffer. -/
def text (buffer : Buffer) : List UInt8 := buffer.cells.takeWhile (· ≠ 0)

def strlen (buffer : Buffer) : Nat := buffer.text.length

/-- Copies a string and its terminator. -/
def strcpy (buffer : Buffer) (source : List UInt8) : Buffer :=
  buffer.write 0 (source.takeWhile (· ≠ 0) ++ [0])

/-- Prints a text into `room` bytes from `start`: its end is cut off, but not the terminator. -/
def snprintf (buffer : Buffer) (start room : Nat) (printed : List UInt8) : Buffer :=
  if room = 0 then buffer else buffer.write start (printed.take (room - 1) ++ [0])

def Inside (buffer : Buffer) : Prop := ∀ i ∈ buffer.writes, i < buffer.size

variable (buffer : Buffer) (start : Nat) (bytes : List UInt8)

@[simp] theorem size_write : (buffer.write start bytes).size = buffer.size := by
  induction bytes generalizing buffer start with
  | nil => rfl
  | cons byte rest ih =>
      rw [write, ih]
      rfl

@[simp] theorem length_write : (buffer.write start bytes).cells.length = buffer.cells.length := by
  induction bytes generalizing buffer start with
  | nil => rfl
  | cons byte rest ih =>
      rw [write, ih]
      exact List.length_set

variable {buffer start bytes}

theorem take_write_of_fits (fits : start + bytes.length ≤ buffer.cells.length) :
    (buffer.write start bytes).cells.take (start + bytes.length) = buffer.cells.take start ++ bytes := by
  induction bytes generalizing buffer start with
  | nil => simp [write]
  | cons byte rest ih =>
      rw [List.length_cons] at fits
      have stored : (buffer.store start byte).cells.take (start + 1) = buffer.cells.take start ++ [byte] := by
        rw [store, List.take_add_one, List.take_set_of_le (Nat.le_refl start), List.getElem?_set_self (by omega)]
        rfl
      have later := @ih (buffer.store start byte) (start + 1) (by simp only [store, List.length_set]; omega)
      rw [write, List.length_cons, show start + (rest.length + 1) = start + 1 + rest.length by omega, later,
        stored, List.append_assoc]
      rfl

theorem take_write_append {more : List UInt8}
    (fits : start + (bytes.length + more.length) ≤ buffer.cells.length) :
    (buffer.write start (bytes ++ more)).cells.take (start + bytes.length) =
      buffer.cells.take start ++ bytes := by
  have whole := @take_write_of_fits buffer start (bytes ++ more) (by rwa [List.length_append])
  have shorter := congrArg (List.take (start + bytes.length)) whole
  rw [List.take_take, List.length_append, Nat.min_eq_left (by omega), ← List.append_assoc] at shorter
  rw [shorter]
  apply List.take_left'
  rw [List.length_append, List.length_take, Nat.min_eq_left (by omega)]

theorem inside_write_iff :
    (buffer.write start bytes).Inside ↔
      buffer.Inside ∧ (bytes = [] ∨ start + bytes.length ≤ buffer.size) := by
  induction bytes generalizing buffer start with
  | nil => simp [write]
  | cons byte rest ih =>
      have stored : (buffer.store start byte).Inside ↔ buffer.Inside ∧ start < buffer.size := by
        simp only [Inside, store, List.forall_mem_append, List.forall_mem_singleton]
      rw [write, ih, stored, and_assoc]
      apply and_congr_right
      intro _
      rw [List.length_cons, show (buffer.store start byte).size = buffer.size from rfl]
      rcases rest with _ | ⟨next, rest⟩
      · simp only [true_or, and_true, reduceCtorEq, false_or, List.length_nil]
        omega
      · simp only [reduceCtorEq, false_or, List.length_cons]
        omega

theorem takeWhile_append_zero {pre : List UInt8} (nonzero : ∀ byte ∈ pre, byte ≠ 0)
    (rest : List UInt8) : (pre ++ 0 :: rest).takeWhile (· ≠ 0) = pre := by
  rw [List.takeWhile_append_of_pos (by simpa using nonzero)]
  simp

/-- A buffer that holds a text and its terminator is read back as the text. -/
theorem text_of_take {printed : List UInt8} (nonzero : ∀ byte ∈ printed, byte ≠ 0)
    (held : buffer.cells.take (printed.length + 1) = printed ++ [0]) : buffer.text = printed := by
  have split := List.take_append_drop (printed.length + 1) buffer.cells
  rw [held, List.append_assoc] at split
  rw [text, ← split]
  exact takeWhile_append_zero nonzero _

theorem text_strcpy {source : List UInt8}
    (room : (source.takeWhile (· ≠ 0)).length < buffer.cells.length) :
    (buffer.strcpy source).text = source.takeWhile (· ≠ 0) := by
  apply text_of_take
  · intro byte member
    simpa using List.mem_takeWhile_imp member
  · have copied := @take_write_of_fits buffer 0 (source.takeWhile (· ≠ 0) ++ [0])
      (by rw [List.length_append, List.length_singleton]; omega)
    simpa [strcpy] using copied

/-- A copy stays inside an array as long as the string exactly when the string ends earlier. -/
theorem inside_strcpy_iff (fresh : buffer.writes = []) {source : List UInt8}
    (exactly : buffer.size = source.length) :
    (buffer.strcpy source).Inside ↔ 0 ∈ source := by
  have untouched : buffer.Inside := by simp [Inside, fresh]
  rw [strcpy, inside_write_iff, exactly]
  simp only [untouched, true_and, List.append_eq_nil_iff, List.cons_ne_nil, and_false, false_or, Nat.zero_add,
    List.length_append, List.length_singleton]
  constructor
  · intro shorter
    by_contra absent
    have whole : source.takeWhile (· ≠ 0) = source := by
      rw [List.takeWhile_eq_self_iff]
      intro byte member
      simpa using fun zero : byte = 0 => absent (zero ▸ member)
    rw [whole] at shorter
    omega
  · intro present
    have shorter := (List.takeWhile_prefix (l := source) (· ≠ 0)).length_le
    rcases Nat.lt_or_eq_of_le shorter with less | same
    · exact less
    · have whole := (List.takeWhile_prefix (l := source) (· ≠ 0)).eq_of_length same
      rw [List.takeWhile_eq_self_iff] at whole
      simpa using whole 0 present

end Buffer

end DecadaEmbedded.Library
