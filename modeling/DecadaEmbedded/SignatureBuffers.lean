import DecadaEmbedded.CryptoEngine
import DecadaEmbedded.Library.Buffer

/-!
# `CryptoEngine::GenericSHA256Generator` in its two local buffers

The arrays `signing` and `converted` are declared uninitialised. One byte behind `signing` belongs
to the model, which is as far as the copy of the input can reach. `mbedtls_sha256` is a parameter.
-/

namespace DecadaEmbedded.SignatureBuffers
open Library CryptoEngine

structure Locals where
  signing : Buffer
  converted : Buffer

def declared (size behind : Nat) (memory : Nat → UInt8) : Buffer :=
  ⟨size, (List.range (size + behind)).map memory, []⟩

def upperHex (c : UInt8) : Bytes := [upperHexDigit (c / 16), upperHexDigit (c % 16)]

def sizeofConverted : Nat := 32 * 2 + 1

/-- The loop from `i` on, over the rest of the digest. -/
def printDigest (converted : Buffer) (i : Nat) : Bytes → Buffer
  | [] => converted
  | c :: rest =>
      printDigest (converted.snprintf (i * 2) (sizeofConverted - i * 2) (upperHex c)) (i + 1) rest

variable (sha256 : Bytes → Vector UInt8 32) (memory : Nat → UInt8) (input : Bytes)

def genericSHA256Generator : Bytes × Locals :=
  let signing := (declared input.length 1 memory).strcpy input
  let output := sha256 (signing.cells.take signing.strlen)
  let converted := printDigest (declared sizeofConverted 0 memory) 0 output.toList
  let converted := converted.store 64 0
  (converted.text, ⟨signing, converted⟩)

/-- What the function promises: it stays inside its buffers and prints the digest of its input. -/
structure Meets : Prop where
  signing : (genericSHA256Generator sha256 memory input).2.signing.Inside
  converted : (genericSHA256Generator sha256 memory input).2.converted.Inside
  digest : (genericSHA256Generator sha256 memory input).1 = (sha256 input).toList.flatMap upperHex

/-! ## The hexadecimal text -/

theorem length_upperHex (c : UInt8) : (upperHex c).length = 2 := rfl

theorem upperHex_ne_zero (c : UInt8) : ∀ digit ∈ upperHex c, digit ≠ 0 := by
  have all : ∀ byte : UInt8, ((upperHex byte).all fun digit => digit ≠ 0) = true :=
    forall_byte (by decide +kernel)
  intro digit member
  exact of_decide_eq_true (List.all_eq_true.mp (all c) digit member)

def upperHexValue (digit : UInt8) : UInt8 := if digit < 58 then digit - 48 else digit - 55

theorem upperHexValue_upperHex :
    ∀ c : UInt8, (upperHex c).foldl (fun before digit => 16 * before + upperHexValue digit) 0 = c :=
  forall_byte (by decide +kernel)

theorem upperHex_injective : Function.Injective upperHex := by
  intro a b same
  rw [← upperHexValue_upperHex a, same, upperHexValue_upperHex b]

theorem flatMap_upperHex_injective : Function.Injective (List.flatMap upperHex) := by
  intro first
  induction first with
  | nil =>
      intro second same
      cases second with
      | nil => rfl
      | cons c rest => simp [upperHex] at same
  | cons a first ih =>
      intro second same
      cases second with
      | nil => simp [upperHex] at same
      | cons b second =>
          rw [List.flatMap_cons, List.flatMap_cons] at same
          have parts := List.append_inj same rfl
          rw [upperHex_injective parts.1, ih parts.2]

theorem length_flatMap_upperHex (digest : Bytes) : (digest.flatMap upperHex).length = 2 * digest.length := by
  induction digest with
  | nil => rfl
  | cons c rest ih =>
      rw [List.flatMap_cons, List.length_append, ih, List.length_cons, length_upperHex]
      omega

/-! ## The loop -/

variable {converted : Buffer}

theorem snprintf_upperHex (i : Nat) (c : UInt8) (inside : i < 32) :
    converted.snprintf (i * 2) (sizeofConverted - i * 2) (upperHex c) =
      converted.write (i * 2) (upperHex c ++ [0]) := by
  have room : sizeofConverted - i * 2 ≠ 0 := by
    rw [sizeofConverted]
    omega
  have whole : (upperHex c).take (sizeofConverted - i * 2 - 1) = upperHex c := by
    apply List.take_of_length_le
    rw [sizeofConverted, length_upperHex]
    omega
  rw [Buffer.snprintf, if_neg room, whole]

/-- Each round keeps what the rounds before it have printed and overwrites the last terminator. -/
theorem take_printDigest {i : Nat} {digest : Bytes} (rounds : i + digest.length ≤ 32)
    (cells : converted.cells.length = sizeofConverted) :
    (printDigest converted i digest).cells.take (i * 2 + digest.length * 2) =
      converted.cells.take (i * 2) ++ digest.flatMap upperHex := by
  induction digest generalizing converted i with
  | nil => simp [printDigest]
  | cons c rest ih =>
      rw [List.length_cons] at rounds
      have inside : i < 32 := by omega
      have digits : (converted.write (i * 2) (upperHex c ++ [0])).cells.take (i * 2 + (upperHex c).length) =
          converted.cells.take (i * 2) ++ upperHex c := by
        apply Buffer.take_write_append
        rw [cells, length_upperHex, sizeofConverted, List.length_singleton]
        omega
      rw [length_upperHex, show i * 2 + 2 = (i + 1) * 2 by omega] at digits
      have later := @ih (converted.write (i * 2) (upperHex c ++ [0])) (i + 1) (by omega)
        (by rw [Buffer.length_write, cells])
      rw [printDigest, snprintf_upperHex i c inside, List.length_cons,
        show i * 2 + (rest.length + 1) * 2 = (i + 1) * 2 + rest.length * 2 by omega, later, digits,
        List.append_assoc, List.flatMap_cons]

theorem printDigest_frame {i : Nat} {digest : Bytes} (rounds : i + digest.length ≤ 32)
    (size : converted.size = sizeofConverted) (inside : converted.Inside) :
    (printDigest converted i digest).Inside ∧ (printDigest converted i digest).size = sizeofConverted ∧
      (printDigest converted i digest).cells.length = converted.cells.length := by
  induction digest generalizing converted i with
  | nil => exact ⟨inside, size, rfl⟩
  | cons c rest ih =>
      rw [List.length_cons] at rounds
      have printed : (converted.write (i * 2) (upperHex c ++ [0])).Inside := by
        rw [Buffer.inside_write_iff]
        refine ⟨inside, .inr ?_⟩
        rw [size, sizeofConverted, List.length_append, length_upperHex, List.length_singleton]
        omega
      have later := @ih (converted.write (i * 2) (upperHex c ++ [0])) (i + 1) (by omega)
        (by rw [Buffer.size_write, size]) printed
      rw [printDigest, snprintf_upperHex i c (by omega)]
      rwa [Buffer.length_write] at later

/-! ## The whole function -/

theorem signing_text :
    ((declared input.length 1 memory).strcpy input).text = cstr input := by
  apply Buffer.text_strcpy
  have shorter : (input.takeWhile (· ≠ 0)).length ≤ input.length := length_cstr_le input
  rw [declared, List.length_map, List.length_range]
  omega

theorem take_strlen (buffer : Buffer) : buffer.cells.take buffer.strlen = buffer.text :=
  List.prefix_iff_eq_take.mp (List.takeWhile_prefix _) |>.symm

theorem inside_declared (size behind : Nat) : (declared size behind memory).Inside := by
  simp [declared, Buffer.Inside]

section Converted
variable (output : Vector UInt8 32)

def printed : Buffer := printDigest (declared sizeofConverted 0 memory) 0 output.toList

theorem rounds : 0 + output.toList.length ≤ 32 := by simp

theorem printed_frame :
    (printed memory output).Inside ∧ (printed memory output).size = 65 ∧
      (printed memory output).cells.length = 65 := by
  have frame := printDigest_frame (rounds output) rfl (inside_declared memory sizeofConverted 0)
  rw [show (declared sizeofConverted 0 memory).cells.length = 65 by simp [declared, sizeofConverted]] at frame
  exact frame

theorem take_printed : (printed memory output).cells.take 64 = output.toList.flatMap upperHex := by
  have digits := take_printDigest (rounds output)
    (show (declared sizeofConverted 0 memory).cells.length = sizeofConverted by simp [declared])
  rw [Vector.length_toList] at digits
  rw [printed]
  simpa using digits

theorem text_terminated : ((printed memory output).store 64 0).text = output.toList.flatMap upperHex := by
  apply Buffer.text_of_take
  · intro digit member
    obtain ⟨c, -, here⟩ := List.mem_flatMap.mp member
    exact upperHex_ne_zero c digit here
  · have closed := @Buffer.take_write_of_fits (printed memory output) 64 [0]
      (by rw [(printed_frame memory output).2.2]; decide)
    rw [length_flatMap_upperHex, Vector.length_toList]
    rw [take_printed] at closed
    exact closed

theorem inside_terminated : ((printed memory output).store 64 0).Inside := by
  have frame := printed_frame memory output
  have last : (printed memory output).store 64 0 = (printed memory output).write 64 [0] := rfl
  rw [last, Buffer.inside_write_iff, frame.2.1]
  exact ⟨frame.1, .inr (by decide)⟩

end Converted

/-- What the function returns and where it writes, for every input. -/
theorem genericSHA256Generator_spec :
    (genericSHA256Generator sha256 memory input).1 = (sha256 (cstr input)).toList.flatMap upperHex ∧
    (genericSHA256Generator sha256 memory input).2.converted.Inside ∧
    ((genericSHA256Generator sha256 memory input).2.signing.Inside ↔ 0 ∈ input) := by
  have read : ((declared input.length 1 memory).strcpy input).cells.take
      ((declared input.length 1 memory).strcpy input).strlen = cstr input := by
    rw [take_strlen, signing_text]
  simp only [genericSHA256Generator, read]
  exact ⟨text_terminated memory _, inside_terminated memory _, Buffer.inside_strcpy_iff rfl rfl⟩

/-- The model of the function that its callers use reads the same text. -/
theorem genericSHA256Generator_fst :
    (genericSHA256Generator sha256 memory input).1 =
      CryptoEngine.genericSHA256Generator (fun signing => (sha256 signing).toList) input := by
  rw [(genericSHA256Generator_spec sha256 memory input).1, CryptoEngine.genericSHA256Generator,
    List.take_of_length_le (by simp)]
  rfl

theorem meets_iff :
    Meets sha256 memory input ↔ 0 ∈ input ∧ sha256 (cstr input) = sha256 input := by
  obtain ⟨digest, converted, signing⟩ := genericSHA256Generator_spec sha256 memory input
  constructor
  · intro meets
    refine ⟨signing.mp meets.signing, ?_⟩
    have same := digest.symm.trans meets.digest
    exact Vector.toList_inj.mp (flatMap_upperHex_injective same)
  · rintro ⟨zero, same⟩
    exact ⟨signing.mpr zero, converted, by rw [digest, same]⟩

theorem cstr_ne_of_mem {input : Bytes} (zero : 0 ∈ input) : cstr input ≠ input := by
  intro same
  rw [cstr, List.takeWhile_eq_self_iff] at same
  simpa using same 0 zero

def tellApart (input bytes : Bytes) : Vector UInt8 32 := Vector.replicate 32 (if bytes = input then 1 else 0)

theorem tellApart_ne {input bytes : Bytes} (other : bytes ≠ input) :
    tellApart input bytes ≠ tellApart input input := by
  rw [tellApart, tellApart, if_neg other, if_pos rfl]
  decide

/-- No input is served as promised: without a zero byte the copy leaves its array, and with one
only the bytes before it are digested. -/
theorem not_meets (memory : Nat → UInt8) (input : Bytes) :
    (¬ ∀ sha256, Meets sha256 memory input) ∧
    (∀ sha256, Meets sha256 memory input ↔ 0 ∈ input ∧ sha256 (cstr input) = sha256 input) ∧
    (∀ sha256, (genericSHA256Generator sha256 memory input).2.signing.Inside ↔ 0 ∈ input) := by
  refine ⟨fun always => ?_, fun sha256 => meets_iff sha256 memory input,
    fun sha256 => (genericSHA256Generator_spec sha256 memory input).2.2⟩
  obtain ⟨zero, -⟩ := (meets_iff (fun _ => Vector.replicate 32 0) memory input).mp (always _)
  obtain ⟨-, same⟩ := (meets_iff (tellApart input) memory input).mp (always _)
  exact tellApart_ne (cstr_ne_of_mem zero) same

def noDigest (_ : Bytes) : Vector UInt8 32 := Vector.replicate 32 0

theorem one_letter_outside :
    (genericSHA256Generator noDigest (fun _ => 0) (str "a")).2.signing.writes = [0, 1] ∧
    (genericSHA256Generator noDigest (fun _ => 0) (str "a")).2.signing.size = 1 ∧
    ¬ ∀ sha256 memory input, Meets sha256 memory input := by
  have writes : (genericSHA256Generator noDigest (fun _ => 0) (str "a")).2.signing.writes = [0, 1] := by
    decide
  refine ⟨writes, rfl, fun always => ?_⟩
  have inside := (always noDigest (fun _ => 0) (str "a")).signing
  rw [Buffer.Inside, writes] at inside
  exact absurd (inside 1 (by simp)) (by decide)

end DecadaEmbedded.SignatureBuffers
