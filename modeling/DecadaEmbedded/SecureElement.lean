import DecadaEmbedded.Library.Buffer
import DecadaEmbedded.Library.Der
import DecadaEmbedded.Text

/-!
# Signatures of the secure element, `SecureElement/se_trustx.cpp`

The Trust X speaks of a signature as two DER integers without the sequence around them. What the
OPTIGA library and mbedTLS do is a parameter: `WritesBackwards` says that `mbedtls_asn1_write_mpi`
puts a minimal integer before the pointer.
-/

namespace DecadaEmbedded.SecureElement
open Library Library.Der

inductive MbedtlsError where
  | pkBadInputData
  | platformFeatureUnsupported
  | ecpBadInputData
  | asn1 (code : Int)
deriving DecidableEq, Repr

/-- `optiga_crypt_ecdsa_sign`: the digest, the key and the room of the buffer against the status and
the bytes that it has put there. -/
abbrev EcdsaSign := Bytes → Nat → Nat → Int × Bytes

/-- `mbedtls_asn1_write_mpi`: the number, the buffer and the index of the pointer against the length,
the buffer and the pointer that it leaves. -/
abbrev Asn1WriteMpi := Nat → Bytes → Nat → Except Int (Nat × Bytes × Nat)

/-- What `optiga_crypt_ecdsa_verify` is given. -/
structure VerifyCall where
  digest : Bytes
  signature : Bytes
  publicKey : Bytes
deriving DecidableEq, Repr

def signFuncWrap (ecdsaSign : EcdsaSign) (ecdsaMaxLen sslKeyId : Nat) (hash : Bytes) (sig : Buffer) :
    Except MbedtlsError (Buffer × Nat) :=
  let hash := hash.take 32
  let (status, derSig) := ecdsaSign hash sslKeyId ecdsaMaxLen
  if status ≠ 0 then .error .pkBadInputData
  else
    let dsLen : UInt16 := .ofNat derSig.length
    let sig := sig.store 0 0x30
    let sig := sig.store 1 dsLen.toUInt8
    let sig := sig.write 2 (derSig.take dsLen.toNat)
    .ok (sig, 2 + dsLen.toNat)

/-- The first argument says whether the group is secp256r1; `sig` is the uninitialised buffer. -/
def mbedtlsEcdsaVerify (secp256r1 : Bool) (asn1WriteMpi : Asn1WriteMpi) (pointWriteBinary : Int × Bytes)
    (ecdsaVerify : VerifyCall → Int) (sig buf : Bytes) (r s : Nat) :
    Except MbedtlsError Unit × Option VerifyCall :=
  if !secp256r1 then (.error .platformFeatureUnsupported, none)
  else
    let p := sig.length
    let sigLen := 0
    match asn1WriteMpi s sig p with
    | .error code => (.error (.asn1 code), none)
    | .ok (length, sig, p) =>
        let sigLen := sigLen + length
        match asn1WriteMpi r sig p with
        | .error code => (.error (.asn1 code), none)
        | .ok (length, sig, p) =>
            let sigLen := sigLen + length
            let (ret, point) := pointWriteBinary
            if ret ≠ 0 then (.error .ecpBadInputData, none)
            else
              let pk := [0x03, UInt8.ofNat (point.length + 1), 0x00] ++ point
              let call : VerifyCall := ⟨buf.take 32, (sig.drop p).take sigLen, pk⟩
              if ecdsaVerify call ≠ 0 then (.error .pkBadInputData, some call)
              else (.ok (), some call)

structure WritesBackwards (asn1WriteMpi : Asn1WriteMpi) : Prop where
  write : ∀ value sig p, p ≤ sig.length → (encodeInteger value).length ≤ p →
    asn1WriteMpi value sig p =
      .ok ((encodeInteger value).length,
        sig.take (p - (encodeInteger value).length) ++ encodeInteger value ++ sig.drop p,
        p - (encodeInteger value).length)

theorem length_contents {n : Nat} (bound : n < 2 ^ 256) : (contents n).length ≤ 33 := by
  apply length_contents_le
  calc n < 2 ^ 256 := bound
    _ = 256 ^ 32 := by norm_num

theorem length_integer {n : Nat} (bound : n < 2 ^ 256) : (encodeInteger n).length ≤ 35 := by
  have short := length_contents bound
  rw [length_encodeInteger (by omega)]
  omega

section
variable {ecdsaSign : EcdsaSign} {ecdsaMaxLen keyId r s : Nat} {hash : Bytes} {sig : Buffer}

theorem signFuncWrap_of_signed (room : 72 ≤ sig.cells.length)
    (first : r < 2 ^ 256) (second : s < 2 ^ 256)
    (signed : ecdsaSign (hash.take 32) keyId ecdsaMaxLen = (0, encodeInteger r ++ encodeInteger s)) :
    ∃ written length, signFuncWrap ecdsaSign ecdsaMaxLen keyId hash sig = .ok (written, length) ∧
      written.cells.take length = encodeSequence (encodeInteger r ++ encodeInteger s) := by
  have bound : (encodeInteger r ++ encodeInteger s).length ≤ 70 := by
    have one := length_integer first
    have two := length_integer second
    rw [List.length_append]
    omega
  simp only [signFuncWrap, signed]
  generalize encodeInteger r ++ encodeInteger s = derSig at *
  have length : (UInt16.ofNat derSig.length).toNat = derSig.length := by
    rw [UInt16.toNat_ofNat', Nat.mod_eq_of_lt (by omega)]
  have byte : (UInt16.ofNat derSig.length).toUInt8 = UInt8.ofNat derSig.length := by
    apply UInt8.toNat_inj.mp
    rw [UInt16.toNat_toUInt8, length, UInt8.toNat_ofNat']
  refine ⟨_, _, rfl, ?_⟩
  rw [length, byte, List.take_length]
  have whole : ((sig.store 0 0x30).store 1 (UInt8.ofNat derSig.length)).write 2 derSig =
      sig.write 0 ([0x30, UInt8.ofNat derSig.length] ++ derSig) := rfl
  have copied := @Buffer.take_write_of_fits sig 0 ([0x30, UInt8.ofNat derSig.length] ++ derSig)
    (by rw [List.length_append, List.length_cons, List.length_singleton]; omega)
  have long : 0 + ([0x30, UInt8.ofNat derSig.length] ++ derSig).length = 2 + derSig.length := by
    rw [Nat.zero_add, List.length_append]
    rfl
  rw [long, List.take_zero, List.nil_append] at copied
  rw [whole, copied, encodeSequence, encodeLength, if_pos (by omega)]
  rfl

theorem decodePair_of_bounds (first : r < 2 ^ 256) (second : s < 2 ^ 256) :
    decodePair (encodeSequence (encodeInteger r ++ encodeInteger s)) = some (r, s) := by
  have large : 128 < 256 ^ 127 := by norm_num
  have one := length_contents first
  have two := length_contents second
  have oneInteger := length_integer first
  have twoInteger := length_integer second
  apply decodePair_encodeSequence
  · omega
  · omega
  · rw [List.length_append]
    omega

variable {asn1WriteMpi : Asn1WriteMpi}

/-- The second integer goes to the end of the buffer and the first before it. -/
theorem signature_of_verify (writer : WritesBackwards asn1WriteMpi) (first : r < 2 ^ 256)
    (second : s < 2 ^ 256) {memory : Bytes} (room : 70 ≤ memory.length) (point : Bytes)
    (ecdsaVerify : VerifyCall → Int) (buf : Bytes) :
    (mbedtlsEcdsaVerify true asn1WriteMpi (0, point) ecdsaVerify memory buf r s).2.map VerifyCall.signature =
      some (encodeInteger r ++ encodeInteger s) := by
  have one := length_integer first
  have two := length_integer second
  simp only [mbedtlsEcdsaVerify]
  generalize encoded : encodeInteger r = derR at *
  generalize encoded' : encodeInteger s = derS at *
  have last := writer.write s memory memory.length (Nat.le_refl _) (by rw [encoded']; omega)
  rw [encoded', List.drop_length, List.append_nil] at last
  have kept : (memory.take (memory.length - derS.length) ++ derS).length = memory.length := by
    rw [List.length_append, List.length_take]
    omega
  have before := writer.write r (memory.take (memory.length - derS.length) ++ derS)
    (memory.length - derS.length) (by omega) (by rw [encoded]; omega)
  have width : (memory.take (memory.length - derS.length)).length = memory.length - derS.length := by
    rw [List.length_take]
    omega
  rw [encoded, List.take_append_of_le_length (by omega), List.take_take, Nat.min_eq_left (by omega),
    List.drop_left' width] at before
  have start : (memory.take (memory.length - derS.length - derR.length)).length =
      memory.length - derS.length - derR.length := by
    rw [List.length_take]
    omega
  have passed : ((memory.take (memory.length - derS.length - derR.length) ++ derR ++ derS).drop
      (memory.length - derS.length - derR.length)).take (0 + derS.length + derR.length) = derR ++ derS := by
    rw [List.append_assoc, List.drop_left' start]
    apply List.take_of_length_le
    rw [List.length_append]
    omega
  simp only [Bool.not_true, Bool.false_eq_true, if_false, last, before, ne_eq, not_true_eq_false, passed]
  split_ifs <;> rfl

end

/-- What `SignFuncWrap` writes is a sequence that decodes to the two numbers of the signature, and a
verification of these numbers passes on the bytes that the Trust X has returned. -/
theorem signature_kept {ecdsaSign : EcdsaSign} {asn1WriteMpi : Asn1WriteMpi}
    (writer : WritesBackwards asn1WriteMpi) {ecdsaMaxLen : Nat} (covers : 72 ≤ ecdsaMaxLen)
    {r s : Nat} (first : r < 2 ^ 256) (second : s < 2 ^ 256) (keyId : Nat) (hash : Bytes) (sig : Buffer)
    (room : ecdsaMaxLen ≤ sig.cells.length)
    (signed : ecdsaSign (hash.take 32) keyId ecdsaMaxLen = (0, encodeInteger r ++ encodeInteger s))
    (memory : Vector UInt8 ecdsaMaxLen) (buf point : Bytes) (ecdsaVerify : VerifyCall → Int) :
    ∃ written length, signFuncWrap ecdsaSign ecdsaMaxLen keyId hash sig = .ok (written, length) ∧
      written.cells.take length = encodeSequence (encodeInteger r ++ encodeInteger s) ∧
      decodePair (written.cells.take length) = some (r, s) ∧
      (mbedtlsEcdsaVerify true asn1WriteMpi (0, point) ecdsaVerify memory.toList buf r s).2.map
        VerifyCall.signature = some (encodeInteger r ++ encodeInteger s) := by
  obtain ⟨written, length, returned, sequence⟩ :=
    signFuncWrap_of_signed (covers.trans room) first second signed
  refine ⟨written, length, returned, sequence, ?_, ?_⟩
  · rw [sequence, decodePair_of_bounds first second]
  · exact signature_of_verify writer first second (by rw [Vector.length_toList]; omega) point ecdsaVerify buf

def writeMpi : Asn1WriteMpi := fun value sig p =>
  if p < (encodeInteger value).length then .error (-0x6c)
  else
    .ok ((encodeInteger value).length,
      sig.take (p - (encodeInteger value).length) ++ encodeInteger value ++ sig.drop p,
      p - (encodeInteger value).length)

theorem writesBackwards_writeMpi : WritesBackwards writeMpi where
  write _ _ _ _ room := if_neg (Nat.not_lt.mpr room)

def signs (r s : Nat) : EcdsaSign := fun _ _ _ => (0, encodeInteger r ++ encodeInteger s)

theorem signature_kept_padded :
    ∃ written length, signFuncWrap (signs 255 1) 72 0xe0f1 (str "digest") ⟨72, List.replicate 72 0, []⟩ =
        .ok (written, length) ∧
      written.cells.take length = encodeSequence (encodeInteger 255 ++ encodeInteger 1) ∧
      decodePair (written.cells.take length) = some (255, 1) ∧
      (mbedtlsEcdsaVerify true writeMpi (0, List.replicate 65 4) (fun _ => 0)
        (Vector.replicate 72 (0 : UInt8)).toList (str "digest") 255 1).2.map VerifyCall.signature =
          some (encodeInteger 255 ++ encodeInteger 1) :=
  signature_kept writesBackwards_writeMpi (Nat.le_refl 72) (by norm_num) (by norm_num) _ _ _ (by simp) rfl
    (Vector.replicate 72 0) _ _ _

end DecadaEmbedded.SecureElement
