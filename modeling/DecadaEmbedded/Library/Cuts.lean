import Mathlib.Data.List.Basic
import Mathlib.Order.MinMax

/-!
# Streams in segments

A stream arrives in segments, and one read gives no more than the segment that it begins in. Where the
stream is cut decides which reads are short.
-/

namespace DecadaEmbedded.Library

variable {α : Type}

/-- A read of at most `n` elements, and what is left of the segments. -/
def readSome (n : Nat) : List (List α) → List α × List (List α)
  | [] => ([], [])
  | segment :: rest => (segment.take n, if segment.length ≤ n then rest else segment.drop n :: rest)

/-- A segment ends behind `i` elements. -/
def Cut (segments : List (List α)) (i : Nat) : Prop :=
  ∃ before after, segments = before ++ after ∧ before.flatten.length = i

def Filled (segments : List (List α)) : Prop := ∀ segment ∈ segments, segment ≠ []

section Read
variable {segments : List (List α)} {n i : Nat}

theorem flatten_readSome (n : Nat) (segments : List (List α)) :
    (readSome n segments).1 ++ (readSome n segments).2.flatten = segments.flatten := by
  cases segments with
  | nil => rfl
  | cons segment rest =>
      unfold readSome
      dsimp only
      split_ifs with all
      · rw [List.take_of_length_le all, List.flatten_cons]
      · rw [List.flatten_cons, ← List.append_assoc, List.take_append_drop, List.flatten_cons]

theorem filled_readSome (filled : Filled segments) : Filled (readSome n segments).2 := by
  cases segments with
  | nil => exact filled
  | cons segment rest =>
      obtain ⟨-, filledRest⟩ := List.forall_mem_cons.mp filled
      unfold readSome
      dsimp only
      split_ifs with all
      · exact filledRest
      · refine List.forall_mem_cons.mpr ⟨fun empty => all ?_, filledRest⟩
        exact List.drop_eq_nil_iff.mp empty

/-- A read is as long as it was asked for unless the stream is cut inside of it. -/
theorem length_readSome_iff (filled : Filled segments) (positive : 0 < n) (enough : n ≤ segments.flatten.length) :
    (readSome n segments).1.length = n ↔ ∀ i, 0 < i → i < n → ¬ Cut segments i := by
  cases segments with
  | nil => exact absurd positive (Nat.not_lt.mpr enough)
  | cons segment rest =>
      have some' : 0 < segment.length := List.length_pos_iff.mpr (List.forall_mem_cons.mp filled).1
      unfold readSome
      rw [List.length_take, min_eq_left_iff]
      constructor
      · rintro long i after inside ⟨before, behind, split, rfl⟩
        cases before with
        | nil => exact absurd after (Nat.lt_irrefl 0)
        | cons first before =>
            obtain ⟨rfl, -⟩ := List.cons.inj split
            rw [List.flatten_cons, List.length_append] at inside
            omega
      · intro whole
        by_contra short
        exact whole segment.length some' (Nat.not_le.mp short)
          ⟨[segment], rest, rfl, by rw [List.flatten_singleton]⟩

/-- The cuts of what is left are those of the stream. -/
theorem cut_readSome (after : 0 < i) :
    Cut (readSome n segments).2 i ↔ Cut segments ((readSome n segments).1.length + i) := by
  cases segments with
  | nil => simp [readSome]
  | cons segment rest =>
      unfold readSome
      dsimp only
      split_ifs with all
      · rw [List.take_of_length_le all]
        constructor
        · rintro ⟨before, behind, rfl, rfl⟩
          exact ⟨segment :: before, behind, rfl, by rw [List.flatten_cons, List.length_append]⟩
        · rintro ⟨before, behind, split, length⟩
          cases before with
          | nil =>
              rw [List.flatten_nil, List.length_nil] at length
              omega
          | cons first before =>
              obtain ⟨rfl, rest'⟩ := List.cons.inj split
              rw [List.flatten_cons, List.length_append] at length
              exact ⟨before, behind, rest', by omega⟩
      · rw [List.length_take_of_le (Nat.le_of_not_le all)]
        constructor
        · rintro ⟨before, behind, split, rfl⟩
          cases before with
          | nil => exact absurd after (Nat.lt_irrefl 0)
          | cons first before =>
              obtain ⟨rfl, rfl⟩ := List.cons.inj split
              refine ⟨segment :: before, behind, rfl, ?_⟩
              rw [List.flatten_cons, List.flatten_cons, List.length_append, List.length_append, List.length_drop]
              omega
        · rintro ⟨before, behind, split, length⟩
          cases before with
          | nil =>
              rw [List.flatten_nil, List.length_nil] at length
              omega
          | cons first before =>
              obtain ⟨rfl, rfl⟩ := List.cons.inj split
              refine ⟨segment.drop n :: before, behind, rfl, ?_⟩
              rw [List.flatten_cons, List.length_append] at length ⊢
              rw [List.length_drop]
              omega

end Read

end DecadaEmbedded.Library
