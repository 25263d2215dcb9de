import Mathlib.Data.List.Perm.Basic
import Mathlib.Data.List.Range
import Mathlib.Logic.Function.Basic

/-!
# A mailbox: a pool of slots and a FIFO queue of them

The free list is a stack. Freeing pushes the slot whenever the used count is not zero, whether or
not the slot is free already. `Owns mail held` says that every slot is in exactly one place: on the
free list, in the queue, or with one of the threads that hold `held`.
-/

namespace DecadaEmbedded.Library

structure Mail (Message : Type*) where
  free : List Nat
  used : Nat
  queue : List Nat
  memory : Nat → Message

namespace Mail
variable {Message : Type*}

def init (capacity : Nat) (zero : Message) : Mail Message :=
  ⟨List.range capacity, 0, [], fun _ => zero⟩

def tryCalloc (zero : Message) (mail : Mail Message) : Option (Nat × Mail Message) :=
  match mail.free with
  | [] => none
  | slot :: free =>
      some (slot, { mail with
        free, used := mail.used + 1, memory := Function.update mail.memory slot zero })

def write (slot : Nat) (message : Message) (mail : Mail Message) : Mail Message :=
  { mail with memory := Function.update mail.memory slot message }

def put (slot : Nat) (mail : Mail Message) : Mail Message :=
  { mail with queue := mail.queue ++ [slot] }

def tryGet (mail : Mail Message) : Option (Nat × Mail Message) :=
  match mail.queue with
  | [] => none
  | slot :: queue => some (slot, { mail with queue })

def release (slot : Nat) (mail : Mail Message) : Mail Message :=
  if mail.used = 0 then mail
  else { mail with free := slot :: mail.free, used := mail.used - 1 }

def queued (mail : Mail Message) : List Message := mail.queue.map mail.memory

structure Owns (capacity : Nat) (mail : Mail Message) (held : List Nat) : Prop where
  partition : (mail.free ++ mail.queue ++ held).Perm (List.range capacity)
  used : mail.used = mail.queue.length + held.length

variable {capacity : Nat} {mail next : Mail Message} {held : List Nat} {slot : Nat}

theorem owns_init (capacity : Nat) (zero : Message) : Owns capacity (init capacity zero) [] :=
  ⟨by simp [init], rfl⟩

theorem Owns.nodup (owns : Owns capacity mail held) : (mail.free ++ mail.queue ++ held).Nodup :=
  owns.partition.nodup_iff.mpr List.nodup_range

theorem Owns.mem_iff (owns : Owns capacity mail held) :
    slot ∈ mail.free ++ mail.queue ++ held ↔ slot < capacity := by
  rw [owns.partition.mem_iff, List.mem_range]

theorem Owns.not_mem_queue (owns : Owns capacity mail (slot :: held)) : slot ∉ mail.queue := by
  intro queued
  exact (List.nodup_append.mp owns.nodup).2.2 slot (by simp [queued]) slot (by simp) rfl

theorem Owns.lt (owns : Owns capacity mail (slot :: held)) : slot < capacity :=
  owns.mem_iff.mp (by simp)

theorem Owns.of_perm {others : List Nat} (owns : Owns capacity mail held) (same : held.Perm others) :
    Owns capacity mail others :=
  ⟨(List.Perm.append_left _ same).symm.trans owns.partition, by rw [owns.used, same.length_eq]⟩

theorem tryCalloc_eq_some {zero : Message} (taken : tryCalloc zero mail = some (slot, next)) :
    ∃ free, mail.free = slot :: free ∧ next = { mail with
      free, used := mail.used + 1, memory := Function.update mail.memory slot zero } := by
  unfold tryCalloc at taken
  split at taken
  · cases taken
  · rename_i first free split
    cases taken
    exact ⟨free, split, rfl⟩

theorem tryGet_eq_some (taken : tryGet mail = some (slot, next)) :
    ∃ queue, mail.queue = slot :: queue ∧ next = { mail with queue } := by
  unfold tryGet at taken
  split at taken
  · cases taken
  · rename_i first queue split
    cases taken
    exact ⟨queue, split, rfl⟩

theorem Owns.tryCalloc {zero : Message} (owns : Owns capacity mail held)
    (taken : mail.tryCalloc zero = some (slot, next)) : Owns capacity next (slot :: held) := by
  obtain ⟨free, split, rfl⟩ := tryCalloc_eq_some taken
  obtain ⟨partition, used⟩ := owns
  refine ⟨?_, by simp only [used, List.length_cons]; omega⟩
  rw [split] at partition
  exact List.perm_middle.trans partition

theorem Owns.write (owns : Owns capacity mail held) (slot : Nat) (message : Message) :
    Owns capacity (mail.write slot message) held :=
  ⟨owns.partition, owns.used⟩

theorem Owns.put (owns : Owns capacity mail (slot :: held)) : Owns capacity (mail.put slot) held := by
  obtain ⟨partition, used⟩ := owns
  refine ⟨?_, by simp only [Mail.put, used, List.length_append, List.length_cons, List.length_nil]; omega⟩
  simpa [Mail.put] using partition

theorem Owns.tryGet (owns : Owns capacity mail held) (taken : mail.tryGet = some (slot, next)) :
    Owns capacity next (slot :: held) := by
  obtain ⟨queue, split, rfl⟩ := tryGet_eq_some taken
  obtain ⟨partition, used⟩ := owns
  refine ⟨?_, by simp only [used, split, List.length_cons]; omega⟩
  rw [split] at partition
  refine List.Perm.trans ?_ partition
  have middle : (queue ++ slot :: held).Perm (slot :: (queue ++ held)) := List.perm_middle
  simpa using List.Perm.append_left mail.free middle

theorem Owns.release (owns : Owns capacity mail (slot :: held)) :
    Owns capacity (mail.release slot) held := by
  obtain ⟨partition, used⟩ := owns
  have positive : mail.used ≠ 0 := by simp [used]
  simp only [Mail.release, positive, ↓reduceIte]
  refine ⟨List.perm_middle.symm.trans partition, ?_⟩
  simp only [used, List.length_cons]
  omega

theorem release_of_used_eq_zero (unused : mail.used = 0) : mail.release slot = mail :=
  if_pos unused

/-- Freeing a slot that no thread holds puts it in two places, unless the pool counts none used. -/
theorem Owns.not_nodup_release (owns : Owns capacity mail held) (inside : slot < capacity)
    (busy : mail.used ≠ 0) :
    ¬ ((mail.release slot).free ++ (mail.release slot).queue ++ held).Nodup := by
  simp only [Mail.release, busy, ↓reduceIte, List.cons_append]
  exact fun nodup => (List.nodup_cons.mp nodup).1 (owns.mem_iff.mpr inside)

theorem queued_write_of_not_mem (absent : slot ∉ mail.queue) (message : Message) :
    (mail.write slot message).queued = mail.queued := by
  refine List.map_congr_left fun other member => Function.update_of_ne ?_ _ _
  rintro rfl
  exact absent member

theorem queued_put (slot : Nat) (mail : Mail Message) :
    (mail.put slot).queued = mail.queued ++ [mail.memory slot] := by
  simp [put, queued]

@[simp] theorem queued_release (slot : Nat) (mail : Mail Message) :
    (mail.release slot).queued = mail.queued := by
  unfold release
  split_ifs <;> rfl

@[simp] theorem memory_release (slot : Nat) (mail : Mail Message) :
    (mail.release slot).memory = mail.memory := by
  unfold release
  split_ifs <;> rfl

theorem queued_of_tryGet (taken : mail.tryGet = some (slot, next)) :
    mail.queued = mail.memory slot :: next.queued ∧ next.memory = mail.memory := by
  obtain ⟨queue, split, rfl⟩ := tryGet_eq_some taken
  exact ⟨by simp [queued, split], rfl⟩

theorem Owns.queued_tryCalloc {zero : Message} (owns : Owns capacity mail held)
    (taken : mail.tryCalloc zero = some (slot, next)) : next.queued = mail.queued := by
  have absent := (owns.tryCalloc taken).not_mem_queue
  obtain ⟨free, split, rfl⟩ := tryCalloc_eq_some taken
  exact @queued_write_of_not_mem _ mail slot absent zero

end Mail

end DecadaEmbedded.Library
