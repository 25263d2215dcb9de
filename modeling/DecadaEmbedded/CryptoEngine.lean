import DecadaEmbedded.PersistStore

/-!
# `CryptoEngine/crypto_engine.cpp` and the constructor in its header

The engine makes a keypair and a signing request when no client certificate is stored. `Calls`
holds what mbedTLS and the secure element answer, `Codes` what the flash calls return.
-/

namespace DecadaEmbedded.CryptoEngine
open Conversions PersistStore

def upperHexDigit (n : UInt8) : UInt8 := if n < 10 then 48 + n else 55 + n

def genericSHA256Generator (sha256 : Bytes → Bytes) (input : Bytes) : Bytes :=
  ((sha256 (cstr input)).take 32).flatMap fun c => [upperHexDigit (c / 16), upperHexDigit (c % 16)]

structure Calls where
  ctrDrbgSeed : Int := 0
  generateEccKeypair : Bool := true
  rsaGenKey : Int := 0
  pkWriteKeyPem : Int := 0
  keyPem : Bytes
  setSubjectName : Bytes → Int := fun _ => 0
  csrPemCode : Int := 0
  csrPem : Bytes → Bytes

structure Codes where
  readCertificate : ReadCodes := {}
  readSerialNumber : ReadCodes := {}
  setKey : Int := 0
  setCertificate : Int := 0
  setSerialNumber : Int := 0

def certSubjectBase : Bytes :=
  str "C=SG, ST=Singapore, L=Singapore, O=DECADA, OU=DECADA CA, CN="

def getCertificateSubjectName (deviceUuid : Bytes) (now : Int) : Bytes :=
  certSubjectBase ++ deviceUuid ++ msPaddingIntToString now

variable (useSecureElement : Bool) (calls : Calls) (codes : Codes)

/-- Whether a keypair was generated. The code of the flash write is not looked at. -/
def generateKeypair (flash : Flash) : Bool × Flash :=
  if useSecureElement then (calls.generateEccKeypair, flash)
  else if calls.rsaGenKey ≠ 0 then (false, flash)
  else if calls.pkWriteKeyPem ≠ 0 then (false, flash)
  else (true, flash.advance (writeClientPrivateKey codes.setKey (cstr calls.keyPem)))

variable (deviceUuid : Bytes) (now : Int)

def generateCertificateSigningRequest (flash : Flash) : Bytes × Flash :=
  let subjectName := getCertificateSubjectName deviceUuid now
  match generateKeypair useSecureElement calls codes flash with
  | (false, flash) => ([], flash)
  | (true, flash) =>
      if calls.setSubjectName (cstr subjectName) ≠ 0 then (str "invalid", flash)
      else if calls.csrPemCode < 0 then (str "invalid", flash)
      else (cstr (calls.csrPem (cstr subjectName)), flash)

def cryptoEngine (flash : Flash) : Bytes × Flash :=
  if calls.ctrDrbgSeed ≠ 0 then ([], flash)
  else
    let clientCert := readClientCertificate codes.readCertificate flash.now
    if clientCert = [] ∨ clientCert = str "invalid" then
      generateCertificateSigningRequest useSecureElement calls codes deviceUuid now flash
    else ([], flash)

/-! ## What the constructor leaves -/

def Proper (cert : Bytes) : Prop := cert ≠ [] ∧ cert ≠ str "invalid"

instance : DecidablePred Proper := fun _ => inferInstanceAs (Decidable (_ ∧ _))

def KeypairMade : Prop :=
  if useSecureElement then calls.generateEccKeypair = true
  else calls.rsaGenKey = 0 ∧ calls.pkWriteKeyPem = 0

instance : Decidable (KeypairMade useSecureElement calls) :=
  inferInstanceAs (Decidable (if useSecureElement then _ = true else _ ∧ _))

def Regenerates (store : Store) : Prop :=
  calls.ctrDrbgSeed = 0 ∧ ¬ Proper (readClientCertificate codes.readCertificate store) ∧
    KeypairMade useSecureElement calls

instance (store : Store) : Decidable (Regenerates useSecureElement calls codes store) :=
  inferInstanceAs (Decidable (_ ∧ _))

def signingRequest : Bytes :=
  let subjectName := cstr (getCertificateSubjectName deviceUuid now)
  if calls.setSubjectName subjectName ≠ 0 then str "invalid"
  else if calls.csrPemCode < 0 then str "invalid"
  else cstr (calls.csrPem subjectName)

def keyWritten (flash : Flash) : Flash :=
  if useSecureElement then flash
  else flash.advance (writeClientPrivateKey codes.setKey (cstr calls.keyPem))

theorem generateKeypair_of_made (made : KeypairMade useSecureElement calls) (flash : Flash) :
    generateKeypair useSecureElement calls codes flash =
      (true, keyWritten useSecureElement calls codes flash) := by
  cases useSecureElement with
  | true =>
      have generated : calls.generateEccKeypair = true := made
      simp [generateKeypair, keyWritten, generated]
  | false =>
      obtain ⟨generated, written⟩ : calls.rsaGenKey = 0 ∧ calls.pkWriteKeyPem = 0 := made
      simp [generateKeypair, keyWritten, generated, written]

theorem generateKeypair_of_not_made (failed : ¬ KeypairMade useSecureElement calls) (flash : Flash) :
    generateKeypair useSecureElement calls codes flash = (false, flash) := by
  cases useSecureElement with
  | true =>
      have failed : ¬ calls.generateEccKeypair = true := failed
      simp [generateKeypair, failed]
  | false =>
      have failed : ¬ (calls.rsaGenKey = 0 ∧ calls.pkWriteKeyPem = 0) := failed
      by_cases generated : calls.rsaGenKey = 0
      · have unwritten : calls.pkWriteKeyPem ≠ 0 := fun written => failed ⟨generated, written⟩
        simp [generateKeypair, generated, unwritten]
      · simp [generateKeypair, generated]

theorem generateCertificateSigningRequest_eq (flash : Flash) :
    generateCertificateSigningRequest useSecureElement calls codes deviceUuid now flash =
      if KeypairMade useSecureElement calls then
        (signingRequest calls deviceUuid now, keyWritten useSecureElement calls codes flash)
      else ([], flash) := by
  unfold generateCertificateSigningRequest signingRequest
  by_cases made : KeypairMade useSecureElement calls
  · rw [generateKeypair_of_made useSecureElement calls codes made, if_pos made]
    dsimp only
    split_ifs <;> rfl
  · rw [generateKeypair_of_not_made useSecureElement calls codes made, if_neg made]

theorem cryptoEngine_eq (flash : Flash) :
    cryptoEngine useSecureElement calls codes deviceUuid now flash =
      if Regenerates useSecureElement calls codes flash.now then
        (signingRequest calls deviceUuid now, keyWritten useSecureElement calls codes flash)
      else ([], flash) := by
  have read : ∀ cert, (cert = [] ∨ cert = str "invalid") ↔ ¬ Proper cert := by
    intro cert
    simp only [Proper, not_and_or, ne_eq, not_not]
  by_cases seeded : calls.ctrDrbgSeed = 0
  · by_cases proper : Proper (readClientCertificate codes.readCertificate flash.now)
    · simp [cryptoEngine, Regenerates, seeded, read, proper]
    · simp [cryptoEngine, Regenerates, seeded, read, proper, generateCertificateSigningRequest_eq]
  · simp [cryptoEngine, Regenerates, seeded]

end DecadaEmbedded.CryptoEngine
