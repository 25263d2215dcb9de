import DecadaEmbedded.DecadaManager.Rest

/-!
# The constructor of `DecadaManager` and `RenewCertificate`

Both ask the cloud for a certificate and store it with its serial number, in two flash writes.
The procedures return their outcome and the journal of the flash. `csrTime` is the clock when the
subject name is made, `now` and `tokenTime` when the request and its access token are.
-/

namespace DecadaEmbedded.DecadaManager
open Library Conversions CryptoEngine PersistStore

variable (cloud : Cloud) (calls : Calls) (codes : Codes) (csrTime now tokenTime junk : Int)

def storeSigned (signResp : CsrSignResp) (flash : Flash) : Flash :=
  (flash.advance (writeClientCertificate codes.setCertificate signResp.cert)).advance
    (writeClientCertificateSerialNumber codes.setSerialNumber signResp.certSn)

def decadaManager (store : Store) : Except Raised Unit × Flash :=
  match cryptoEngine cloud.useSecureElement calls codes cloud.deviceUid csrTime (.start store) with
  | (csr, flash) =>
      if csr = [] then (.ok (), flash)
      else
        match signCertificateSigningRequest cloud now tokenTime csr with
        | .error raised => (.error raised, flash)
        | .ok signResp =>
            if signResp.cert ≠ invalid ∧ signResp.certSn ≠ invalid then
              (.ok (), storeSigned codes signResp flash)
            else (.ok (), flash)

-- where it returns true the system has been reset
def renewCertificate (store : Store) : Except Raised Bool × Flash :=
  let flash := Journal.start store
  let certSn := readClientCertificateSerialNumber codes.readSerialNumber store
  match renewClientCertificate cloud now tokenTime junk certSn with
  | .error raised => (.error raised, flash)
  | .ok signResp =>
      if signResp.cert ≠ invalid ∧ signResp.certSn ≠ invalid then
        (.ok true, storeSigned codes signResp flash)
      else (.ok false, flash)

/-! ## The journals -/

def acceptedReply : Except Raised CsrSignResp → Option CsrSignResp
  | .error _ => none
  | .ok signResp =>
      if signResp.cert ≠ invalid ∧ signResp.certSn ≠ invalid then some signResp else none

def issuedReply : Option CsrSignResp :=
  let csr := signingRequest calls cloud.deviceUid csrTime
  if csr = [] then none else acceptedReply (signCertificateSigningRequest cloud now tokenTime csr)

def renewedReply (certSn : Bytes) : Option CsrSignResp :=
  acceptedReply (renewClientCertificate cloud now tokenTime junk certSn)

def storeReply : Option CsrSignResp → Flash → Flash
  | none, flash => flash
  | some signResp, flash => storeSigned codes signResp flash

theorem decadaManager_flash (store : Store) :
    (decadaManager cloud calls codes csrTime now tokenTime store).2 =
      if Regenerates cloud.useSecureElement calls codes store then
        storeReply codes (issuedReply cloud calls csrTime now tokenTime)
          (keyWritten cloud.useSecureElement calls codes (.start store))
      else .start store := by
  unfold decadaManager
  rw [cryptoEngine_eq, Journal.now_start]
  split_ifs with regenerates
  · simp only [issuedReply]
    by_cases empty : signingRequest calls cloud.deviceUid csrTime = []
    · simp only [empty, ↓reduceIte, storeReply]
    · simp only [empty, ↓reduceIte]
      cases signCertificateSigningRequest cloud now tokenTime
          (signingRequest calls cloud.deviceUid csrTime) with
      | error raised => rfl
      | ok signResp =>
          simp only [acceptedReply]
          split_ifs <;> rfl
  · rfl

theorem renewCertificate_flash (store : Store) :
    (renewCertificate cloud codes now tokenTime junk store).2 =
      storeReply codes
        (renewedReply cloud now tokenTime junk
          (readClientCertificateSerialNumber codes.readSerialNumber store)) (.start store) := by
  simp only [renewCertificate, renewedReply]
  cases renewClientCertificate cloud now tokenTime junk
      (readClientCertificateSerialNumber codes.readSerialNumber store) with
  | error raised => rfl
  | ok signResp =>
      simp only [acceptedReply]
      split_ifs <;> rfl

/-! ## Failing flash calls -/

/-- What the texts that the cloud issues are certificates of: the private key that belongs to
their public key, and their serial number. -/
structure Authority where
  keyOf : Bytes → Option Bytes
  serialOf : Bytes → Option Bytes

variable (authority : Authority)

def IssuedFor (key : Option Bytes) (reply : Option CsrSignResp) : Prop :=
  ∀ signResp ∈ reply, cstr signResp.cert ≠ [] → authority.keyOf (cstr signResp.cert) = key

instance (key : Option Bytes) (reply : Option CsrSignResp) :
    Decidable (IssuedFor authority key reply) :=
  Option.decidableForallMem reply

def Matches (store : Store) : Prop :=
  readClientCertificate {} store = [] ∨
    authority.keyOf (readClientCertificate {} store) = some (readClientPrivateKey {} store)

instance : DecidablePred (Matches authority) := fun _ => inferInstanceAs (Decidable (_ ∨ _))

/-- A new key replaces a different one: then the certificate has to follow it, or neither may reach
the flash, unless the certificate that is stored in the end is empty. -/
def ReplacesBoth (store : Store) : Prop :=
  Regenerates false calls codes store → readClientPrivateKey {} store ≠ cstr calls.keyPem →
    match (if codes.setCertificate = 0 then issuedReply cloud calls csrTime now tokenTime else none) with
    | some signResp => codes.setKey = 0 ∨ cstr signResp.cert = []
    | none => codes.setKey ≠ 0 ∨ readClientCertificate {} store = []

@[simp] theorem readClientCertificate_storeSigned (signResp : CsrSignResp) (flash : Flash) :
    readClientCertificate {} (storeSigned codes signResp flash).now =
      if codes.setCertificate = 0 then cstr signResp.cert else readClientCertificate {} flash.now := by
  simp [storeSigned, readClientCertificate, writeClientCertificate,
    writeClientCertificateSerialNumber, readKey_writeKey]

@[simp] theorem readClientPrivateKey_storeSigned (signResp : CsrSignResp) (flash : Flash) :
    readClientPrivateKey {} (storeSigned codes signResp flash).now =
      readClientPrivateKey {} flash.now := by
  simp [storeSigned, readClientPrivateKey, writeClientCertificate,
    writeClientCertificateSerialNumber, readKey_writeKey]

@[simp] theorem readClientCertificate_keyWritten (useSecureElement : Bool) (flash : Flash) :
    readClientCertificate {} (keyWritten useSecureElement calls codes flash).now =
      readClientCertificate {} flash.now := by
  cases useSecureElement <;>
    simp [keyWritten, readClientCertificate, writeClientPrivateKey, readKey_writeKey]

@[simp] theorem readClientPrivateKey_keyWritten (flash : Flash) :
    readClientPrivateKey {} (keyWritten false calls codes flash).now =
      if codes.setKey = 0 then cstr calls.keyPem else readClientPrivateKey {} flash.now := by
  simp [keyWritten, readClientPrivateKey, writeClientPrivateKey, readKey_writeKey]

theorem readClientCertificate_storeReply (reply : Option CsrSignResp) (flash : Flash) :
    readClientCertificate {} (storeReply codes reply flash).now =
      match (if codes.setCertificate = 0 then reply else none) with
      | some signResp => cstr signResp.cert
      | none => readClientCertificate {} flash.now := by
  cases reply with
  | none => simp [storeReply]
  | some signResp =>
      rw [storeReply, readClientCertificate_storeSigned]
      split_ifs <;> rfl

@[simp] theorem readClientPrivateKey_storeReply (reply : Option CsrSignResp) (flash : Flash) :
    readClientPrivateKey {} (storeReply codes reply flash).now = readClientPrivateKey {} flash.now := by
  cases reply with
  | none => rfl
  | some signResp => exact readClientPrivateKey_storeSigned codes signResp flash

/-- Without a secure element the flash that the constructor leaves is again consistent exactly if a
new key and its certificate are both stored, or neither. -/
theorem decadaManager_matches_iff {store : Store} (noSecureElement : cloud.useSecureElement = false)
    (matched : Matches authority store)
    (issued : IssuedFor authority (some (cstr calls.keyPem))
      (issuedReply cloud calls csrTime now tokenTime)) :
    Matches authority (decadaManager cloud calls codes csrTime now tokenTime store).2.now ↔
      ReplacesBoth cloud calls codes csrTime now tokenTime store := by
  rw [decadaManager_flash, noSecureElement]
  by_cases regenerates : Regenerates false calls codes store
  · rw [if_pos regenerates]
    simp only [Matches, ReplacesBoth, regenerates, forall_const, readClientCertificate_storeReply,
      readClientPrivateKey_storeReply, readClientPrivateKey_keyWritten,
      readClientCertificate_keyWritten, Journal.now_start]
    cases replaced : (if codes.setCertificate = 0 then issuedReply cloud calls csrTime now tokenTime
        else none) with
    | some signResp =>
        have reply : issuedReply cloud calls csrTime now tokenTime = some signResp := by
          split_ifs at replaced
          exact replaced
        have key := issued signResp reply
        by_cases empty : cstr signResp.cert = []
        · simp [empty]
        · simp only [empty, key empty, false_or, Option.some.injEq]
          split_ifs with written
          · simp [written]
          · simp [written, eq_comm]
    | none =>
        by_cases empty : readClientCertificate {} store = []
        · simp [empty]
        · have key := matched.resolve_left empty
          simp only [empty, key, false_or, or_false, Option.some.injEq]
          split_ifs with written
          · simp [written]
          · simp [written]
  · rw [if_neg regenerates, Journal.now_start]
    simp [matched, ReplacesBoth, regenerates]

def provisioned (cert certSn privateKey : Bytes) : Store :=
  writeClientCertificate 0 cert (writeClientCertificateSerialNumber 0 certSn
    (writeClientPrivateKey 0 privateKey fun _ => none))

theorem decadaManager_matches_iff_fresh :
    let authority : Authority := ⟨fun cert => some (str "K" ++ cert), some⟩
    let cloud := answering (str "\x7b\"data\":\x7b\"accessToken\":\"t\",\"cert\":\"1\",\"certSN\":\"1\"\x7d\x7d")
    let calls : Calls := { keyPem := str "K1", csrPem := fun _ => str "CSR" }
    Matches authority (decadaManager cloud calls {} 0 0 0 fun _ => none).2.now ↔
      ReplacesBoth cloud calls {} 0 0 0 fun _ => none := by
  intro authority cloud calls
  exact decadaManager_matches_iff cloud calls {} 0 0 0 authority rfl (by decide) (by decide +kernel)

theorem decadaManager_not_matches : ¬ ∀ (cloud : Cloud) (calls : Calls) (codes : Codes)
    (csrTime now tokenTime : Int) (authority : Authority) (store : Store),
    cloud.useSecureElement = false → Matches authority store →
    IssuedFor authority (some (cstr calls.keyPem)) (issuedReply cloud calls csrTime now tokenTime) →
    Matches authority (decadaManager cloud calls codes csrTime now tokenTime store).2.now := by
  intro consistent
  have after := consistent (answering (str "\x7b\"data\":\x7b\"accessToken\":\"t\"\x7d\x7d"))
    { keyPem := str "K1", csrPem := fun _ => str "CSR" } { readCertificate := { get := -1 } } 0 0 0
    ⟨fun cert => some (str "K" ++ cert), some⟩ (provisioned (str "0") (str "0") (str "K0"))
    rfl (by decide) (by decide +kernel)
  revert after
  decide +kernel

end DecadaEmbedded.DecadaManager
