import DecadaEmbedded.BootManager
import DecadaEmbedded.DecadaManager.Provisioning
import DecadaEmbedded.Library.Run

/-!
# The certificate in the flash, over the life of a device

A run is a sequence of boot manager sessions, boots and renewals. Each of them can lose power
between two flash writes: `lost` is the number of writes it does not get to. Flash calls succeed.
-/

namespace DecadaEmbedded.CertificateRuns
open Library Conversions PersistStore CryptoEngine DecadaManager BootManager

-- `running` tells whether a `DecadaManager` has been constructed since the last reset
structure State where
  store : Store
  running : Bool

/-- `send` is what the cloud answers meanwhile, `named` the certificate that the cloud renews. -/
inductive Action where
  | bootManager (console : Bytes) (lost : Nat)
  | boot (send : HttpsRequest → Option HttpResponse) (calls : Calls) (csrTime now tokenTime : Int)
      (lost : Nat)
  | renew (send : HttpsRequest → Option HttpResponse) (named : Bytes) (now tokenTime : Int)
      (junk : CInt) (lost : Nat)

def blank : State := ⟨fun _ => none, false⟩

variable (device : Cloud) (authority : Authority)

-- the request names a certificate by its serial number as an integer
def Names (named : Bytes) (number : Int) : Prop :=
  (authority.serialOf named).map leadingInteger = some number

instance (named : Bytes) (number : Int) : Decidable (Names authority named number) :=
  inferInstanceAs (Decidable (_ = _))

def Numbered (reply : Option CsrSignResp) : Prop :=
  ∀ signResp ∈ reply, cstr signResp.cert ≠ [] →
    authority.serialOf (cstr signResp.cert) = some (cstr signResp.certSn)

instance (reply : Option CsrSignResp) : Decidable (Numbered authority reply) :=
  Option.decidableForallMem reply

/-- The boot manager runs at any boot, and at each one before the first login. -/
def step (state : State) : Action → Option State
  | .bootManager console lost =>
      (runBootManager device.useSecureElement console state.store).2.points[lost]?.map (⟨·, false⟩)
  | .boot send calls csrTime now tokenTime lost =>
      let cloud := { device with send }
      let reply := issuedReply cloud calls csrTime now tokenTime
      let (outcome, flash) := decadaManager cloud calls {} csrTime now tokenTime state.store
      if readInitFlag {} state.store = str "true" ∧ Numbered authority reply ∧
          (device.useSecureElement = true ∨ IssuedFor authority (some (cstr calls.keyPem)) reply) then
        flash.points[lost]?.map (⟨·, outcome = .ok () ∧ lost = 0⟩)
      else none
  | .renew send named now tokenTime junk lost =>
      let cloud := { device with send }
      let certSn := readClientCertificateSerialNumber {} state.store
      let reply := renewedReply cloud now tokenTime junk certSn
      let (outcome, flash) := renewCertificate cloud {} now tokenTime junk state.store
      if state.running ∧ Names authority named (stringToInt junk certSn) ∧ Numbered authority reply ∧
          IssuedFor authority (authority.keyOf named) reply then
        flash.points[lost]?.map (⟨·, outcome = .ok false⟩)
      else none

/-! ## Credentials -/

structure Credentials where
  certificate : Bytes
  serialNumber : Bytes
  privateKey : Bytes
deriving DecidableEq, Repr

def credentials (store : Store) : Credentials where
  certificate := readClientCertificate {} store
  serialNumber := readClientCertificateSerialNumber {} store
  privateKey := readClientPrivateKey {} store

@[simp] theorem credentials_writeClientCertificate (cert : Bytes) (store : Store) :
    credentials (writeClientCertificate 0 cert store) =
      { credentials store with certificate := cstr cert } := by
  simp [credentials, readClientCertificate, readClientCertificateSerialNumber, readClientPrivateKey,
    writeClientCertificate, readKey_writeKey]

@[simp] theorem credentials_writeClientCertificateSerialNumber (certSn : Bytes) (store : Store) :
    credentials (writeClientCertificateSerialNumber 0 certSn store) =
      { credentials store with serialNumber := cstr certSn } := by
  simp [credentials, readClientCertificate, readClientCertificateSerialNumber, readClientPrivateKey,
    writeClientCertificateSerialNumber, readKey_writeKey]

@[simp] theorem credentials_writeClientPrivateKey (key : Bytes) (store : Store) :
    credentials (writeClientPrivateKey 0 key store) =
      { credentials store with privateKey := cstr key } := by
  simp [credentials, readClientCertificate, readClientCertificateSerialNumber, readClientPrivateKey,
    writeClientPrivateKey, readKey_writeKey]

theorem credentials_writeKey {key : PersistKey}
    (unrelated : key ∉ [.clientCertificate, .clientCertificateSn, .clientPrivateKey]) (val : Bytes)
    (store : Store) : credentials (writeKey 0 key val store) = credentials store := by
  simp only [List.mem_cons, List.not_mem_nil, or_false, not_or] at unrelated
  obtain ⟨certificate, serialNumber, privateKey⟩ := unrelated
  simp [credentials, readClientCertificate, readClientCertificateSerialNumber, readClientPrivateKey,
    readKey_writeKey, Ne.symm certificate, Ne.symm serialNumber, Ne.symm privateKey]

/-! ## What the boot manager leaves -/

-- the certificate is erased, or nothing has happened to it
def Sheds (store point : Store) : Prop :=
  (credentials point).certificate = [] ∨ credentials point = credentials store

def AlwaysSheds (store : Store) (flash : Flash) : Prop := ∀ point ∈ flash.points, Sheds store point

theorem alwaysSheds_start (store : Store) : AlwaysSheds store (.start store) := by
  intro point reached
  obtain rfl : point = store := by simpa using reached
  exact .inr rfl

theorem AlwaysSheds.advance {store : Store} {flash : Flash} (sheds : AlwaysSheds store flash)
    (change : Store → Store) (changed : Sheds store (change flash.now)) :
    AlwaysSheds store (flash.advance change) := by
  intro point reached
  obtain rfl | earlier : point = change flash.now ∨ point ∈ flash.points := by simpa using reached
  · exact changed
  · exact sheds point earlier

theorem AlwaysSheds.writeKey {store : Store} {flash : Flash} (sheds : AlwaysSheds store flash)
    (key : PersistKey) (val : Bytes)
    (unrelated : key ∉ [.clientCertificate, .clientCertificateSn, .clientPrivateKey]) :
    AlwaysSheds store (flash.advance (PersistStore.writeKey 0 key val)) := by
  apply sheds.advance
  have now := sheds flash.now (by simp [Journal.points])
  rwa [Sheds, credentials_writeKey unrelated]

variable (useSecureElement : Bool)

theorem AlwaysSheds.clearClientSslData {store : Store} {flash : Flash}
    (sheds : AlwaysSheds store flash) :
    AlwaysSheds store (BootManager.clearClientSslData useSecureElement flash) := by
  have cleared := sheds.advance (writeClientCertificate 0 []) (.inl (by simp))
  have unnumbered := cleared.advance (writeClientCertificateSerialNumber 0 []) (.inl (by simp))
  cases useSecureElement with
  | true => exact unnumbered
  | false => exact unnumbered.advance (writeClientPrivateKey 0 []) (.inl (by simp))

theorem AlwaysSheds.setDefaultConfig {store : Store} {flash : Flash}
    (sheds : AlwaysSheds store flash) :
    AlwaysSheds store (BootManager.setDefaultConfig useSecureElement flash) := by
  have ssid := sheds.writeKey .wifiSsid (str "WIFI_SSID") (by decide)
  have pass := ssid.writeKey .wifiPass (str "WIFI_PW") (by decide)
  exact pass.clearClientSslData useSecureElement

theorem AlwaysSheds.menuTurn {store : Store} {console rest : Bytes} {flash next : Flash}
    (sheds : AlwaysSheds store flash)
    (turn : BootManager.menuTurn useSecureElement console flash = .ok (rest, next)) :
    AlwaysSheds store next := by
  simp only [BootManager.menuTurn] at turn
  obtain ⟨-, -, turn⟩ := bind_eq_ok.mp turn
  obtain ⟨⟨userInput, after⟩, -, turn⟩ := bind_eq_ok.mp turn
  split_ifs at turn
  · cases pure_eq_ok.mp turn
    exact sheds.setDefaultConfig useSecureElement
  · obtain ⟨⟨ssid, last⟩, -, done⟩ := bind_eq_ok.mp turn
    cases pure_eq_ok.mp done
    exact sheds.writeKey .wifiSsid ssid (by decide)
  · obtain ⟨⟨pass, last⟩, -, done⟩ := bind_eq_ok.mp turn
    cases pure_eq_ok.mp done
    exact sheds.writeKey .wifiPass pass (by decide)
  · cases pure_eq_ok.mp turn
    exact sheds.clearClientSslData useSecureElement
  · cases pure_eq_ok.mp turn
    exact sheds

theorem AlwaysSheds.menuLoop {store : Store} (console : Bytes) {flash : Flash}
    (sheds : AlwaysSheds store flash) :
    AlwaysSheds store (BootManager.menuLoop useSecureElement console flash).2 := by
  induction length : console.length using Nat.strong_induction_on generalizing console flash with
  | _ n ih =>
      cases result : BootManager.menuTurn useSecureElement console flash with
      | error halt =>
          rw [menuLoop_of_error useSecureElement result]
          exact sheds
      | ok after =>
          obtain ⟨rest, next⟩ := after
          have shorter := menuTurn_length useSecureElement result
          rw [menuLoop_of_ok useSecureElement result]
          exact ih rest.length (by omega) rest (sheds.menuTurn useSecureElement result) rfl

theorem runBootManager_sheds (console : Bytes) (store : Store) :
    AlwaysSheds store (runBootManager useSecureElement console store).2 := by
  have configured : AlwaysSheds store
      (if readInitFlag {} store ≠ str "true" then
        BootManager.setDefaultConfig useSecureElement (.start store) else .start store) := by
    split_ifs
    · exact (alwaysSheds_start store).setDefaultConfig useSecureElement
    · exact alwaysSheds_start store
  have versioned := configured.writeKey .swVer sdkVer (by decide)
  simp only [runBootManager]
  cases bootManagerLogin maxLoginAttempts console with
  | error halt => exact versioned
  | ok rest =>
      have interval := versioned.writeKey .cycleInterval pollRateMs (by decide)
      have ready := interval.writeKey .initFlag (str "true") (by decide)
      exact ready.menuLoop useSecureElement rest

/-! ## What a step leaves -/

def Action.lost : Action → Nat
  | .bootManager _ lost => lost
  | .boot _ _ _ _ _ lost => lost
  | .renew _ _ _ _ _ lost => lost

/-- The reply whose certificate reaches the flash. -/
def installed (state : State) : Action → Option CsrSignResp
  | .bootManager _ _ => none
  | .boot send calls csrTime now tokenTime lost =>
      if Regenerates device.useSecureElement calls {} state.store ∧ lost ≤ 1 then
        issuedReply { device with send } calls csrTime now tokenTime
      else none
  | .renew send _ now tokenTime junk lost =>
      if lost ≤ 1 then
        renewedReply { device with send } now tokenTime junk
          (readClientCertificateSerialNumber {} state.store)
      else none

def keyThen (state : State) : Action → Bytes
  | .boot _ calls _ _ _ _ =>
      if device.useSecureElement then (credentials state.store).privateKey else cstr calls.keyPem
  | _ => (credentials state.store).privateKey

def installedCredentials (state : State) (action : Action) (signResp : CsrSignResp) : Credentials where
  certificate := cstr signResp.cert
  serialNumber :=
    if action.lost = 0 then cstr signResp.certSn else (credentials state.store).serialNumber
  privateKey := keyThen device state action

theorem storeSigned_point {signResp : CsrSignResp} {flash : Flash} {lost : Nat} {point : Store}
    (taken : (storeSigned {} signResp flash).points[lost]? = some point) :
    (lost ≤ 1 ∧ credentials point =
      { credentials flash.now with
        certificate := cstr signResp.cert
        serialNumber :=
          if lost = 0 then cstr signResp.certSn else (credentials flash.now).serialNumber }) ∨
    (1 < lost ∧ point ∈ flash.points) := by
  simp only [storeSigned, Journal.points_advance, Journal.now_advance] at taken
  rcases lost with _ | _ | lost
  · cases taken
    exact .inl ⟨by omega, by simp⟩
  · cases taken
    exact .inl ⟨by omega, by simp⟩
  · exact .inr ⟨by omega, List.mem_of_getElem? taken⟩

theorem credentials_keyWritten (calls : Calls) (store : Store) :
    credentials (keyWritten useSecureElement calls {} (.start store)).now =
      { credentials store with
        privateKey :=
          if useSecureElement then (credentials store).privateKey else cstr calls.keyPem } := by
  cases useSecureElement <;> simp [keyWritten]

theorem keyWritten_point {calls : Calls} {store point : Store}
    (reached : point ∈ (keyWritten useSecureElement calls {} (.start store)).points) :
    (credentials point).certificate = (credentials store).certificate := by
  cases useSecureElement with
  | true =>
      obtain rfl : point = store := by simpa [keyWritten] using reached
      rfl
  | false =>
      obtain rfl | rfl : point = writeClientPrivateKey 0 (cstr calls.keyPem) store ∨ point = store := by
        simpa [keyWritten] using reached
      · simp
      · rfl

variable {device authority}

theorem step_installed {state next : State} {action : Action} {signResp : CsrSignResp}
    (taken : step device authority state action = some next)
    (reply : installed device state action = some signResp) :
    credentials next.store = installedCredentials device state action signResp := by
  cases action with
  | bootManager console lost => cases reply
  | boot send calls csrTime now tokenTime lost =>
      simp only [installed] at reply
      split_ifs at reply with landed
      obtain ⟨regenerates, soon⟩ := landed
      simp only [step] at taken
      split_ifs at taken
      obtain ⟨point, reached, rfl⟩ := Option.map_eq_some_iff.mp taken
      rw [decadaManager_flash, if_pos regenerates, reply, storeReply] at reached
      rcases storeSigned_point reached with ⟨-, now⟩ | ⟨late, -⟩
      · rw [now, credentials_keyWritten]
        rfl
      · omega
  | renew send named now tokenTime junk lost =>
      simp only [installed] at reply
      split_ifs at reply with soon
      simp only [step] at taken
      split_ifs at taken
      obtain ⟨point, reached, rfl⟩ := Option.map_eq_some_iff.mp taken
      rw [renewCertificate_flash, reply, storeReply] at reached
      rcases storeSigned_point reached with ⟨-, now⟩ | ⟨late, -⟩
      · rw [now]
        rfl
      · omega

theorem step_not_installed {state next : State} {action : Action}
    (taken : step device authority state action = some next)
    (nothing : installed device state action = none) :
    ¬ Proper (credentials next.store).certificate ∨
      credentials next.store = credentials state.store := by
  cases action with
  | bootManager console lost =>
      obtain ⟨point, reached, rfl⟩ := Option.map_eq_some_iff.mp taken
      have sheds := runBootManager_sheds device.useSecureElement console state.store point
        (List.mem_of_getElem? reached)
      rcases sheds with erased | same
      · exact .inl fun proper => proper.1 erased
      · exact .inr same
  | boot send calls csrTime now tokenTime lost =>
      simp only [step] at taken
      split_ifs at taken
      obtain ⟨point, reached, rfl⟩ := Option.map_eq_some_iff.mp taken
      rw [decadaManager_flash] at reached
      split_ifs at reached with regenerates
      · left
        have unproper : ¬ Proper (credentials state.store).certificate := regenerates.2.1
        suffices same : (credentials point).certificate = (credentials state.store).certificate by
          rwa [same]
        cases reply : issuedReply { device with send } calls csrTime now tokenTime with
        | none =>
            rw [reply, storeReply] at reached
            exact keyWritten_point device.useSecureElement (List.mem_of_getElem? reached)
        | some signResp =>
            rw [reply, storeReply] at reached
            rcases storeSigned_point reached with ⟨soon, -⟩ | ⟨-, earlier⟩
            · simp [installed, regenerates, soon, reply] at nothing
            · exact keyWritten_point device.useSecureElement earlier
      · obtain rfl : point = state.store := by
          simpa using List.mem_of_getElem? reached
        exact .inr rfl
  | renew send named now tokenTime junk lost =>
      simp only [step] at taken
      split_ifs at taken
      obtain ⟨point, reached, rfl⟩ := Option.map_eq_some_iff.mp taken
      rw [renewCertificate_flash] at reached
      suffices same : point = state.store by
        rw [same]
        exact .inr rfl
      cases reply : renewedReply { device with send } now tokenTime junk
          (readClientCertificateSerialNumber {} state.store) with
      | none =>
          rw [reply, storeReply] at reached
          simpa using List.mem_of_getElem? reached
      | some signResp =>
          rw [reply, storeReply] at reached
          rcases storeSigned_point reached with ⟨soon, -⟩ | ⟨-, earlier⟩
          · simp [installed, soon, reply] at nothing
          · simpa using earlier

theorem step_numbered {state next : State} {action : Action} {signResp : CsrSignResp}
    (taken : step device authority state action = some next)
    (reply : installed device state action = some signResp) (proper : Proper (cstr signResp.cert)) :
    authority.serialOf (cstr signResp.cert) = some (cstr signResp.certSn) := by
  cases action with
  | bootManager console lost => cases reply
  | boot send calls csrTime now tokenTime lost =>
      simp only [installed] at reply
      split_ifs at reply
      simp only [step] at taken
      split_ifs at taken with possible
      exact possible.2.1 signResp reply proper.1
  | renew send named now tokenTime junk lost =>
      simp only [installed] at reply
      split_ifs at reply
      simp only [step] at taken
      split_ifs at taken with possible
      exact possible.2.2.1 signResp reply proper.1

/-! ## The private key -/

variable (device authority)

def KeyMatches (state : State) : Prop :=
  Proper (credentials state.store).certificate →
    authority.keyOf (credentials state.store).certificate = some (credentials state.store).privateKey

/-- `StringToInt` reads the stored serial number as it stands, and under that number the cloud has
no certificate but those for the stored key. -/
structure NumberOfStoredKey (state : State) (junk : Int) : Prop where
  read : stringToInt junk (credentials state.store).serialNumber =
    leadingInteger (credentials state.store).serialNumber
  own : ∀ certificate, Names authority certificate (leadingInteger (credentials state.store).serialNumber) →
    authority.keyOf certificate = some (credentials state.store).privateKey

def RenewsByNumberOfStoredKey (state : State) : Action → Prop
  | .renew send named now tokenTime junk lost =>
      ∀ signResp ∈ installed device state (.renew send named now tokenTime junk lost),
        Proper (cstr signResp.cert) → NumberOfStoredKey authority state junk
  | _ => True

variable {device authority}

theorem keyMatches_booted {state next : State} {send : HttpsRequest → Option HttpResponse} {calls : Calls}
    {csrTime now tokenTime : Int} {lost : Nat} {signResp : CsrSignResp}
    (noSecureElement : device.useSecureElement = false)
    (taken : step device authority state (.boot send calls csrTime now tokenTime lost) = some next)
    (reply : installed device state (.boot send calls csrTime now tokenTime lost) = some signResp)
    (proper : Proper (cstr signResp.cert)) : KeyMatches authority next := by
  intro _
  rw [step_installed taken reply]
  simp only [installed] at reply
  split_ifs at reply
  simp only [step] at taken
  split_ifs at taken with possible
  have issued := possible.2.2.resolve_left (by simp [noSecureElement])
  simp [installedCredentials, keyThen, noSecureElement, issued signResp reply proper.1]

/-- A renewal that stores a proper certificate keeps the key with it exactly if the cloud has renewed
a certificate for the stored key. -/
theorem keyMatches_renewed {state next : State} {send : HttpsRequest → Option HttpResponse} {named : Bytes}
    {now tokenTime : Int} {junk : CInt} {lost : Nat} {signResp : CsrSignResp}
    (taken : step device authority state (.renew send named now tokenTime junk lost) = some next)
    (reply : installed device state (.renew send named now tokenTime junk lost) = some signResp)
    (proper : Proper (cstr signResp.cert)) :
    KeyMatches authority next ↔ authority.keyOf named = some (credentials state.store).privateKey := by
  simp only [KeyMatches, step_installed taken reply, installedCredentials, keyThen, proper, forall_const]
  simp only [installed] at reply
  split_ifs at reply
  simp only [step] at taken
  split_ifs at taken with possible
  rw [possible.2.2.2 signResp reply proper.1]

theorem named_of_renewed {state next : State} {send : HttpsRequest → Option HttpResponse} {named : Bytes}
    {now tokenTime : Int} {junk : CInt} {lost : Nat}
    (taken : step device authority state (.renew send named now tokenTime junk lost) = some next) :
    Names authority named (stringToInt junk (credentials state.store).serialNumber) := by
  simp only [step] at taken
  split_ifs at taken with possible
  exact possible.2.1

theorem keyMatches_step {state next : State} {action : Action}
    (noSecureElement : device.useSecureElement = false) (matched : KeyMatches authority state)
    (renews : RenewsByNumberOfStoredKey device authority state action)
    (taken : step device authority state action = some next) : KeyMatches authority next := by
  cases reply : installed device state action with
  | none =>
      rcases step_not_installed taken reply with unproper | same
      · exact fun proper => absurd proper unproper
      · simpa only [KeyMatches, same] using matched
  | some signResp =>
      by_cases proper : Proper (cstr signResp.cert)
      · cases action with
        | bootManager console lost => cases reply
        | boot send calls csrTime now tokenTime lost =>
            exact keyMatches_booted noSecureElement taken reply proper
        | renew send named now tokenTime junk lost =>
            have number := renews signResp reply proper
            have names := named_of_renewed taken
            rw [number.read] at names
            exact (keyMatches_renewed taken reply proper).mpr (number.own named names)
      · intro stored
        rw [step_installed taken reply] at stored
        exact absurd stored proper

/-- Without a secure element the stored key belongs to the stored certificate all along a run in
which every renewal that stores a certificate is asked for by the number of the stored key. -/
theorem keyMatches_of_renewsByNumberOfStoredKey (noSecureElement : device.useSecureElement = false)
    (actions : List Action)
    (renews : EveryStep (step device authority) (RenewsByNumberOfStoredKey device authority) blank actions) :
    EveryState (step device authority) (KeyMatches authority) blank actions := by
  refine everyState_of_everyStep ?_ ?_ renews
  · intro state action next matched renews taken
    exact keyMatches_step noSecureElement matched renews taken
  · exact fun proper => absurd rfl proper.1

/-! ## A run that loses power twice -/

def threeCertificates : Authority where
  keyOf cert := if cert = str "B" then some (str "K1") else some (str "K0")
  serialOf cert :=
    if cert = str "A" then some (str "100")
    else if cert = str "B" then some (str "200")
    else some (str "300")

def replying (cert certSn : Bytes) (_ : HttpsRequest) : Option HttpResponse :=
  some ⟨200, str "\x7b\"data\":\x7b\"accessToken\":\"t\",\"cert\":\"" ++ cert ++
    str "\",\"certSN\":\"" ++ certSn ++ str "\"\x7d\x7d"⟩

def makingKey (keyPem : Bytes) : Calls := { keyPem, csrPem := fun _ => str "CSR" }

-- the first certificate is erased but not its serial number; then only the second one is stored
def numberLeftBehind : List Action :=
  [.bootManager (str "stack2020\r") 0,
    .boot (replying (str "A") (str "100")) (makingKey (str "K0")) 0 0 0 0,
    .bootManager (str "stack2020\r3\r") 2,
    .boot (replying (str "B") (str "200")) (makingKey (str "K1")) 0 0 0 1]

def renewedByOldNumber : List Action :=
  numberLeftBehind ++
    [.boot (replying [] []) (makingKey (str "K2")) 0 0 0 0,
      .renew (replying (str "C") (str "300")) (str "A") 0 0 zeroInt 0]

def certified : List Action :=
  [.bootManager (str "stack2020\r") 0,
    .boot (replying (str "A") (str "100")) (makingKey (str "K0")) 0 0 0 0]

def renewedByOwnNumber : List Action :=
  certified ++ [.renew (replying (str "C") (str "300")) (str "A") 0 0 zeroInt 0]

theorem renewsByNumberOfStoredKey_renewed : EveryStep (step (answering []) threeCertificates)
    (RenewsByNumberOfStoredKey (answering []) threeCertificates) blank renewedByOwnNumber := by
  refine (everyStep_cons ..).mpr fun first taken => ⟨trivial, ?_⟩
  refine (everyStep_cons ..).mpr fun second booted => ⟨trivial, ?_⟩
  refine (everyStep_cons ..).mpr fun third renewed => ⟨fun signResp _ _ => ?_, everyStep_nil _ _ third⟩
  have stored : (run (step (answering []) threeCertificates) blank certified).map
      (fun state => credentials state.store) = some ⟨str "A", str "100", str "K0"⟩ := by
    decide +kernel
  rw [certified, run_cons, taken, Option.bind_some, run_cons, booted] at stored
  have held : credentials second.store = ⟨str "A", str "100", str "K0"⟩ := Option.some.inj stored
  constructor
  · rw [held]
    decide
  · intro certificate names
    rw [held] at names ⊢
    simp only [Names, threeCertificates] at names ⊢
    split_ifs at names with own other
    · rw [own]
      decide
    · exact absurd names (by decide)
    · exact absurd names (by decide)

theorem keyMatches_renewedByOwnNumber :
    (run (step (answering []) threeCertificates) blank renewedByOwnNumber).map
        (fun state => credentials state.store) = some ⟨str "C", str "300", str "K0"⟩ ∧
      EveryState (step (answering []) threeCertificates) (KeyMatches threeCertificates) blank
        renewedByOwnNumber := by
  constructor
  · decide +kernel
  · exact keyMatches_of_renewsByNumberOfStoredKey rfl renewedByOwnNumber renewsByNumberOfStoredKey_renewed

theorem keyMatches_violated : ¬ ∀ (device : Cloud) (authority : Authority) (actions : List Action),
    device.useSecureElement = false →
    EveryState (step device authority) (KeyMatches authority) blank actions := by
  intro always
  have matched := always (answering []) threeCertificates renewedByOldNumber rfl
  have final : (run (step (answering []) threeCertificates) blank renewedByOldNumber).map
      (fun state => credentials state.store) = some ⟨str "C", str "300", str "K1"⟩ := by
    decide +kernel
  obtain ⟨state, reached, stored⟩ := Option.map_eq_some_iff.mp final
  have key := matched.last reached
  rw [KeyMatches, stored] at key
  exact absurd (key (by decide)) (by decide)

def numberBeyondInt : Authority where
  keyOf cert := if cert = str "A" then some (str "K0") else some (str "K1")
  serialOf cert :=
    if cert = str "A" then some (str "4294967296")
    else if cert = str "B" then some (str "2147483647")
    else some (str "300")

-- without a loss of power: `StringToInt` clamps the number to that of another device's certificate
example :
    (run (step (answering []) numberBeyondInt) blank
        [.bootManager (str "stack2020\r") 0,
          .boot (replying (str "A") (str "4294967296")) (makingKey (str "K0")) 0 0 0 0,
          .renew (replying (str "C") (str "300")) (str "B") 0 0 zeroInt 0]).map
        (fun state => credentials state.store) = some ⟨str "C", str "300", str "K0"⟩ ∧
      numberBeyondInt.keyOf (str "C") = some (str "K1") := by
  decide +kernel

/-! ## The serial number -/

variable (device authority)

def NumberMatches (state : State) : Prop :=
  Proper (credentials state.store).certificate →
    authority.serialOf (credentials state.store).certificate =
      some (credentials state.store).serialNumber

def NumbersAlongside (state : State) (action : Action) : Prop :=
  ∀ signResp ∈ installed device state action, Proper (cstr signResp.cert) → action.lost ≠ 0 →
    (credentials state.store).serialNumber = cstr signResp.certSn

variable {device authority}

theorem numberMatches_step {state next : State} {action : Action}
    (matched : NumberMatches authority state)
    (taken : step device authority state action = some next) :
    NumberMatches authority next ↔ NumbersAlongside device state action := by
  cases reply : installed device state action with
  | none =>
      have kept : NumberMatches authority next := by
        rcases step_not_installed taken reply with unproper | same
        · exact fun proper => absurd proper unproper
        · simpa only [NumberMatches, same] using matched
      have alongside : NumbersAlongside device state action := by simp [NumbersAlongside, reply]
      exact iff_of_true kept alongside
  | some signResp =>
      simp only [NumberMatches, NumbersAlongside, step_installed taken reply, installedCredentials,
        reply, Option.mem_def, Option.some.injEq, forall_eq']
      apply forall_congr'
      intro proper
      rw [step_numbered taken reply proper]
      split_ifs with complete
      · simp [complete]
      · simp [complete, eq_comm]

/-- The stored serial number is that of the stored certificate all along a run exactly if power is
never lost between the two writes that store them. -/
theorem numberMatches_iff (actions : List Action) :
    EveryState (step device authority) (NumberMatches authority) blank actions ↔
      EveryStep (step device authority) (NumbersAlongside device) blank actions := by
  have initial : NumberMatches authority blank := fun proper => absurd rfl proper.1
  refine everyState_iff_everyStep (fun state matched => matched) ?_ ?_ initial actions
  · intro state action next matched alongside taken
    exact (numberMatches_step matched taken).mpr alongside
  · intro state action next matched apart taken kept
    exact apart ((numberMatches_step matched taken).mp kept)

theorem numberMatches_violated : ¬ ∀ (device : Cloud) (authority : Authority) (actions : List Action),
    EveryState (step device authority) (NumberMatches authority) blank actions := by
  intro always
  have matched := always (answering []) threeCertificates numberLeftBehind
  have final : (run (step (answering []) threeCertificates) blank numberLeftBehind).map
      (fun state => credentials state.store) = some ⟨str "B", str "100", str "K1"⟩ := by
    decide +kernel
  obtain ⟨state, reached, stored⟩ := Option.map_eq_some_iff.mp final
  have number := matched.last reached
  rw [NumberMatches, stored] at number
  exact absurd (number (by decide)) (by decide)

/-! ## Two causes -/

variable (authority)

def DistinctNumbers : Prop :=
  ∀ one other number, Names authority one number → Names authority other number →
    authority.keyOf one = authority.keyOf other

def RenewsWithinInt (state : State) : Action → Prop
  | .renew _ _ _ _ junk _ =>
      Proper (credentials state.store).certificate ∧
        stringToInt junk (credentials state.store).serialNumber =
          leadingInteger (credentials state.store).serialNumber
  | _ => True

variable {authority}

theorem numberOfStoredKey_of_matches {state : State} {junk : Int} (distinct : DistinctNumbers authority)
    (key : KeyMatches authority state) (number : NumberMatches authority state)
    (proper : Proper (credentials state.store).certificate)
    (read : stringToInt junk (credentials state.store).serialNumber =
      leadingInteger (credentials state.store).serialNumber) : NumberOfStoredKey authority state junk := by
  refine ⟨read, fun certificate names => ?_⟩
  have stored : Names authority (credentials state.store).certificate
      (leadingInteger (credentials state.store).serialNumber) := by
    rw [Names, number proper, Option.map_some]
  rw [distinct certificate _ _ names stored, key proper]

/-- Where no two keys share a serial number, the key can only part from its certificate once power is
lost between the two writes that store one, or a renewal has no certificate stored or no number that
fits an `int`. -/
theorem keyMatches_of_numbersAlongside (noSecureElement : device.useSecureElement = false)
    (distinct : DistinctNumbers authority) (actions : List Action)
    (alongside : EveryStep (step device authority) (NumbersAlongside device) blank actions)
    (renews : EveryStep (step device authority) RenewsWithinInt blank actions) :
    EveryState (step device authority) (KeyMatches authority) blank actions := by
  have both : EveryStep (step device authority)
      (fun state action => NumbersAlongside device state action ∧ RenewsWithinInt state action) blank actions :=
    fun past action reached next initial reaches taken =>
      ⟨alongside past action reached next initial reaches taken,
        renews past action reached next initial reaches taken⟩
  have every : EveryState (step device authority)
      (fun state => KeyMatches authority state ∧ NumberMatches authority state) blank actions := by
    refine everyState_of_everyStep ?_ ?_ both
    · rintro state action next ⟨key, number⟩ ⟨alongside, within⟩ taken
      refine ⟨keyMatches_step noSecureElement key ?_ taken, (numberMatches_step number taken).mpr alongside⟩
      cases action with
      | bootManager console lost => trivial
      | boot send calls csrTime now tokenTime lost => trivial
      | renew send named now tokenTime junk lost =>
          exact fun signResp _ _ => numberOfStoredKey_of_matches distinct key number within.1 within.2
    · exact ⟨fun proper => absurd rfl proper.1, fun proper => absurd rfl proper.1⟩
  exact every.mono fun state matched => matched.1

end DecadaEmbedded.CertificateRuns
