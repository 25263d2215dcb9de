import Mathlib.Data.List.TakeWhile

/-!
# `std::string` on the 32-bit target

A string is its list of bytes. Memory is taken as sufficient; the exceptions that
`std::string` documents are kept, with `size_type` arithmetic modulo 2^32.
-/

namespace DecadaEmbedded

abbrev Bytes := List UInt8

def str (literal : String) : Bytes := literal.toList.map Char.toUInt8

theorem forall_byte {property : UInt8 → Prop} (all : ∀ n < 256, property (UInt8.ofNat n))
    (byte : UInt8) : property byte := by
  have here := all byte.toNat byte.toNat_lt
  rwa [UInt8.ofNat_toNat] at here

/-- How a computation ends without a result: an exception of the standard library (the firmware is
built with `-fno-exceptions`), undefined behaviour or a null dereference. `throwLogicError` and
`throwRuntimeError` of the bundled jsoncpp are declared `noreturn`, their `throw` is commented out
and they return, so a call of them is `undefinedBehaviour` with the function and its message.
`fuelExhausted` marks a recursion bound of the model and is never reached. -/
inductive Raised where
  | outOfRange (function : String)
  | lengthError (function : String)
  | undefinedBehaviour (function message : String)
  | nullDereference
  | fuelExhausted
deriving DecidableEq, Repr

theorem ok_bind {ε α β : Type} (a : α) (f : α → Except ε β) : (Except.ok a >>= f) = f a := rfl

theorem error_bind {ε α β : Type} (e : ε) (f : α → Except ε β) : (Except.error e >>= f) = .error e := rfl

theorem pure_eq_ok {ε α : Type} {a b : α} : (pure a : Except ε α) = .ok b ↔ a = b := by
  simp [pure, Except.pure]

theorem bind_eq_ok {ε α β : Type} {x : Except ε α} {f : α → Except ε β} {b : β} :
    (x >>= f) = .ok b ↔ ∃ a, x = .ok a ∧ f a = .ok b := by
  cases x <;> simp [bind, Except.bind]

theorem exists_bind_eq_ok {ε α β : Type} {x : Except ε α} {f : α → Except ε β} :
    (∃ b, (x >>= f) = .ok b) ↔ ∃ a, x = .ok a ∧ ∃ b, f a = .ok b := by
  simp only [bind_eq_ok]
  exact ⟨fun ⟨b, a, first, second⟩ => ⟨a, first, b, second⟩,
    fun ⟨a, first, b, second⟩ => ⟨b, a, first, second⟩⟩

def cstr (s : Bytes) : Bytes := s.takeWhile (· ≠ 0)

def sizeSub (a b : Nat) : Nat := if b ≤ a then a - b else a + 4294967296 - b

def maxSize : Nat := 2147483646

def find (s pattern : Bytes) : Option Nat :=
  if pattern.isPrefixOf s then some 0
  else match s with
    | [] => none
    | _ :: rest => (find rest pattern).map (· + 1)

def substr (s : Bytes) (pos count : Nat) : Except Raised Bytes :=
  if s.length < pos then .error (.outOfRange "basic_string::substr")
  else .ok ((s.drop pos).take count)

def erase (s : Bytes) (pos count : Nat) : Except Raised Bytes :=
  if s.length < pos then .error (.outOfRange "basic_string::erase")
  else .ok (s.take pos ++ s.drop (pos + count))

def replace (s : Bytes) (pos n1 n2 : Nat) (c : UInt8) : Except Raised Bytes :=
  if s.length < pos then .error (.outOfRange "basic_string::replace")
  else
    let n1 := min n1 (s.length - pos)
    if maxSize - (s.length - n1) < n2 then .error (.lengthError "basic_string::_M_replace_aux")
    else .ok (s.take pos ++ List.replicate n2 c ++ s.drop (pos + n1))

@[simp] theorem cstr_nil : cstr [] = [] := rfl

@[simp] theorem cstr_cstr (s : Bytes) : cstr (cstr s) = cstr s := by
  simp [cstr, List.takeWhile_takeWhile]

theorem nulFree_cstr (s : Bytes) : 0 ∉ cstr s := by
  intro zero
  simpa using List.mem_takeWhile_imp zero

theorem length_cstr_le (s : Bytes) : (cstr s).length ≤ s.length := (List.takeWhile_sublist _).length_le

theorem cstr_of_nulFree {s : Bytes} (nulFree : 0 ∉ s) : cstr s = s := by
  apply List.takeWhile_eq_self_iff.mpr
  intro c member
  simp only [ne_eq, decide_not, Bool.not_eq_eq_eq_not, Bool.not_true, decide_eq_false_iff_not]
  rintro rfl
  exact nulFree member

theorem take_cstr_append (s rest : Bytes) : (cstr (s ++ rest)).take s.length = cstr s := by
  induction s with
  | nil => simp
  | cons c s ih =>
      by_cases zero : c = 0
      · simp [cstr, zero]
      · simpa [cstr, zero] using ih

theorem cstr_append_zero (s : Bytes) : cstr (s ++ [0]) = cstr s := by
  induction s with
  | nil => rfl
  | cons c s ih =>
      by_cases zero : c = 0
      · simp [cstr, zero]
      · simpa [cstr, zero] using ih

theorem find_le_length {s pattern : Bytes} {pos : Nat} (found : find s pattern = some pos) :
    pos ≤ s.length := by
  induction s generalizing pos with
  | nil =>
      unfold find at found
      split at found
      · cases found
        exact Nat.zero_le _
      · cases found
  | cons c s ih =>
      unfold find at found
      split at found
      · cases found
        exact Nat.zero_le _
      · obtain ⟨inner, foundRest, rfl⟩ := Option.map_eq_some_iff.mp found
        exact Nat.succ_le_succ (ih foundRest)

theorem erase_of_le {s : Bytes} {pos : Nat} (count : Nat) (inside : pos ≤ s.length) :
    erase s pos count = .ok (s.take pos ++ s.drop (pos + count)) := by
  simp [erase, Nat.not_lt.mpr inside]

end DecadaEmbedded
