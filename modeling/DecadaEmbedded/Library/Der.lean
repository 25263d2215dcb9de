import DecadaEmbedded.Library.BigEndian

/-!
# Unsigned integers and sequences in DER

The encodings are minimal: a length takes the short form where it can, and an integer has no zero
byte before it but the one that keeps its sign. The decoders refuse everything else.
-/

namespace DecadaEmbedded.Library.Der

def encodeLength (n : Nat) : List UInt8 :=
  if n < 128 then [UInt8.ofNat n] else UInt8.ofNat (128 + (bytesOf n).length) :: bytesOf n

def contents (n : Nat) : List UInt8 :=
  match bytesOf n with
  | [] => [0]
  | first :: rest => if 128 ≤ first then 0 :: first :: rest else first :: rest

def encodeInteger (n : Nat) : List UInt8 := 0x02 :: (encodeLength (contents n).length ++ contents n)

def encodeSequence (body : List UInt8) : List UInt8 := 0x30 :: (encodeLength body.length ++ body)

def decodeLength : List UInt8 → Option (Nat × List UInt8)
  | [] => none
  | first :: rest =>
      if first < 128 then some (first.toNat, rest)
      else
        let bytes := rest.take (first.toNat - 128)
        if bytes.length = first.toNat - 128 ∧ bytes.head? ≠ some 0 ∧ 128 ≤ bigEndian bytes then
          some (bigEndian bytes, rest.drop (first.toNat - 128))
        else none

/-- The contents of an integer that is not negative, without a superfluous zero byte. -/
def isMinimal : List UInt8 → Bool
  | [] => false
  | [first] => first < 128
  | first :: second :: _ => first < 128 && (first ≠ 0 || 128 ≤ second)

def decodeInteger : List UInt8 → Option (Nat × List UInt8)
  | [] => none
  | tag :: rest =>
      if tag = 0x02 then
        (decodeLength rest).bind fun (length, rest) =>
          if (rest.take length).length = length ∧ isMinimal (rest.take length) then
            some (bigEndian (rest.take length), rest.drop length)
          else none
      else none

/-- Two integers in a sequence, with nothing behind them. -/
def decodePair : List UInt8 → Option (Nat × Nat)
  | [] => none
  | tag :: rest =>
      if tag = 0x30 then
        (decodeLength rest).bind fun (length, body) =>
          if body.length = length then
            (decodeInteger body).bind fun (r, body) =>
              (decodeInteger body).bind fun (s, body) => if body = [] then some (r, s) else none
          else none
      else none

theorem bigEndian_contents (n : Nat) : bigEndian (contents n) = n := by
  have value := bigEndian_bytesOf n
  unfold contents
  split
  · rename_i empty
    rw [empty] at value
    exact value
  · rename_i first rest digits
    rw [digits] at value
    split_ifs with signed
    · rwa [bigEndian_zero_cons]
    · exact value

theorem isMinimal_contents (n : Nat) : isMinimal (contents n) = true := by
  have leading := head?_bytesOf n
  unfold contents
  split
  · rfl
  · rename_i first rest digits
    rw [digits, List.head?_cons] at leading
    have nonzero : first ≠ 0 := fun zero => leading (congrArg some zero)
    split_ifs with signed
    · simp [isMinimal, signed]
    · have positive : first < 128 := UInt8.not_le.mp signed
      cases rest with
      | nil => simp [isMinimal, positive]
      | cons second rest => simp [isMinimal, positive, nonzero]

theorem length_contents_le {n k : Nat} (short : n < 256 ^ k) : (contents n).length ≤ k + 1 := by
  have bytes := (length_bytesOf_le_iff n k).mpr short
  unfold contents
  split
  · simp
  · rename_i first rest digits
    rw [digits, List.length_cons] at bytes
    split_ifs with signed
    · simp only [List.length_cons]
      omega
    · simp only [List.length_cons]
      omega

theorem decodeLength_encodeLength {n : Nat} (bound : n < 256 ^ 127) (rest : List UInt8) :
    decodeLength (encodeLength n ++ rest) = some (n, rest) := by
  unfold encodeLength
  split_ifs with short
  · have byte : (UInt8.ofNat n).toNat = n := toNat_ofNat_of_lt (by omega)
    have small : UInt8.ofNat n < 128 := by
      rw [UInt8.lt_iff_toNat_lt, byte]
      exact short
    rw [List.singleton_append, decodeLength, if_pos small, byte]
  · have width := (length_bytesOf_le_iff n 127).mpr bound
    have byte : (UInt8.ofNat (128 + (bytesOf n).length)).toNat = 128 + (bytesOf n).length :=
      toNat_ofNat_of_lt (by omega)
    have long : ¬ UInt8.ofNat (128 + (bytesOf n).length) < 128 := by
      rw [UInt8.lt_iff_toNat_lt, byte, show UInt8.toNat 128 = 128 from rfl]
      omega
    rw [List.cons_append, decodeLength, if_neg long, byte, Nat.add_sub_cancel_left]
    simp only [List.take_left, List.drop_left, bigEndian_bytesOf]
    rw [if_pos ⟨trivial, head?_bytesOf n, Nat.le_of_not_lt short⟩]

theorem decodeInteger_encodeInteger {n : Nat} (bound : (contents n).length < 256 ^ 127) (rest : List UInt8) :
    decodeInteger (encodeInteger n ++ rest) = some (n, rest) := by
  rw [encodeInteger, List.cons_append, decodeInteger, if_pos rfl, List.append_assoc,
    decodeLength_encodeLength bound, Option.bind_some]
  simp only [List.take_left, List.drop_left, isMinimal_contents, bigEndian_contents, and_self, if_true]

theorem decodePair_encodeSequence {r s : Nat} (first : (contents r).length < 256 ^ 127)
    (second : (contents s).length < 256 ^ 127)
    (bound : (encodeInteger r ++ encodeInteger s).length < 256 ^ 127) :
    decodePair (encodeSequence (encodeInteger r ++ encodeInteger s)) = some (r, s) := by
  have last := decodeInteger_encodeInteger second []
  rw [List.append_nil] at last
  rw [encodeSequence, decodePair, if_pos rfl, decodeLength_encodeLength bound, Option.bind_some]
  simp only [if_true, decodeInteger_encodeInteger first, Option.bind_some, last]

theorem length_encodeInteger {n : Nat} (short : (contents n).length < 128) :
    (encodeInteger n).length = 2 + (contents n).length := by
  rw [encodeInteger, encodeLength, if_pos short, List.length_cons, List.length_append, List.length_singleton]
  omega

end DecadaEmbedded.Library.Der
