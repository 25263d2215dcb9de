import DecadaEmbedded.CryptoEngine
import DecadaEmbedded.Json.Reader

/-!
# The REST calls of `DecadaManager/decada_manager.cpp`

A call builds its request from the settings, the time and the access token, sends it, and reads
members of the reply. `send` is the outcome of `HttpsRequest::send` for each request. The
watchdog kicks and the debug traces are left out; `tr_warn` is compiled in and evaluates its
arguments.
-/

namespace DecadaEmbedded.DecadaManager
open Conversions CryptoEngine Json Json.Reader

inductive HttpMethod where
  | get | post
deriving DecidableEq, Repr

structure HttpsRequest where
  method : HttpMethod
  url : Bytes
  headers : List (Bytes × Bytes)
  body : Bytes := []
deriving DecidableEq, Repr

structure HttpResponse where
  statusCode : Int
  body : Bytes

/-- The constant members of the class, the device's identity, and the code it calls. -/
structure Cloud where
  decadaProductKey : Bytes
  decadaAccessKey : Bytes
  decadaAccessSecret : Bytes
  decadaOuId : Bytes
  apiUrl : Bytes
  deviceUid : Bytes
  useSecureElement : Bool
  sha256 : Bytes → Bytes
  writeString : Value → Bytes
  decodeDouble : Bytes → Option Bytes
  send : HttpsRequest → Option HttpResponse

structure CsrSignResp where
  cert : Bytes
  certSn : Bytes
deriving DecidableEq, Repr

def invalid : Bytes := str "invalid"

def getStatusCode : Option HttpResponse → Except Raised Int
  | none => .error .nullDereference
  | some response => .ok response.statusCode

variable (cloud : Cloud)

/-! ## The requests -/

def signature (signingParams : Bytes) : Bytes :=
  toLowerCase (genericSHA256Generator cloud.sha256 signingParams)

def contentType : Bytes × Bytes := (str "Content-Type", str "application/json;charset=UTF-8")

def apimHeaders (accessToken parameters timestampMs : Bytes) : List (Bytes × Bytes) :=
  [(str "apim-accesstoken", accessToken),
    (str "apim-signature",
      signature cloud (accessToken ++ parameters ++ timestampMs ++ cloud.decadaAccessSecret)),
    (str "apim-timestamp", timestampMs)]

def deviceQuery : Bytes :=
  cloud.decadaOuId ++ str "&productKey=" ++ cloud.decadaProductKey ++ str "&deviceKey=" ++ cloud.deviceUid

-- the same three, sorted in ASCII order, as they are signed
def deviceParameters : Bytes :=
  str "deviceKey" ++ cloud.deviceUid ++ str "orgId" ++ cloud.decadaOuId ++ str "productKey" ++
    cloud.decadaProductKey

def getAccessTokenRequest (now : Int) : HttpsRequest :=
  let timestampMs := msPaddingIntToString now
  let signingParams := cloud.decadaAccessKey ++ timestampMs ++ cloud.decadaAccessSecret
  let messageContent : Value := .object
    [(str "appKey", .string cloud.decadaAccessKey),
      (str "encryption", .string (signature cloud signingParams)),
      (str "timestamp", .string timestampMs)]
  { method := .post
    url := cstr (cloud.apiUrl ++ str "/apim-token-service/v2.0/token/get")
    headers := [contentType]
    body := cstr (cloud.writeString messageContent) }

def getDeviceSecretRequest (now : Int) (accessToken : Bytes) : HttpsRequest :=
  let parameters := str "actionget" ++ deviceParameters cloud
  { method := .get
    url := cstr (cloud.apiUrl ++ str "/connect-service/v2.1/devices?action=get&orgId=" ++
      deviceQuery cloud)
    headers := apimHeaders cloud accessToken parameters (msPaddingIntToString now) }

def createDeviceInDecadaRequest (now : Int) (defaultName accessToken : Bytes) : HttpsRequest :=
  let deviceName : Value := .object
    [(str "defaultValue", .string defaultName), (str "i18nValue", .null)]
  let messageContent : Value := .object
    [(str "deviceKey", .string cloud.deviceUid), (str "deviceName", deviceName),
      (str "productKey", .string cloud.decadaProductKey), (str "timezone", .string (str "+08:00"))]
  let body := cstr (cloud.writeString messageContent)
  let parameters := str "actioncreate" ++ str "orgId" ++ cloud.decadaOuId ++ body
  { method := .post
    url := cstr (cloud.apiUrl ++ str "/connect-service/v2.1/devices?action=create&orgId=" ++
      cloud.decadaOuId)
    headers := contentType :: apimHeaders cloud accessToken parameters (msPaddingIntToString now)
    body }

def certificateRequest (action : Bytes) (messageContent : Value) (now : Int) (accessToken : Bytes) :
    HttpsRequest :=
  let body := cstr (cloud.writeString messageContent)
  let parameters := str "action" ++ action ++ deviceParameters cloud ++ body
  { method := .post
    url := cstr (cloud.apiUrl ++ str "/connect-service/v2.0/certificates?action=" ++ action ++
      str "&orgId=" ++ deviceQuery cloud)
    headers := contentType :: apimHeaders cloud accessToken parameters (msPaddingIntToString now)
    body }

def signCertificateSigningRequestRequest (now : Int) (csr accessToken : Bytes) : HttpsRequest :=
  let issueAuthority := if cloud.useSecureElement then [(str "issueAuthority", .string (str "ECC"))] else []
  let messageContent : Value := .object
    ((str "csr", .string csr) :: issueAuthority ++ [(str "validDay", .int 365)])
  certificateRequest cloud (str "apply") messageContent now accessToken

-- `junk` is what `StringToInt` returns on an empty serial number
def renewClientCertificateRequest (now junk : Int) (certSn accessToken : Bytes) : HttpsRequest :=
  let messageContent : Value := .object
    [(str "certSn", .int (stringToInt junk certSn)), (str "validDay", .int 365)]
  certificateRequest cloud (str "renew") messageContent now accessToken

/-! ## The calls -/

def readData (response : HttpResponse) : Except Raised Value := do
  let (_, root) ← parse cloud.decodeDouble response.body
  root.get (str "data") (.string invalid)

def callForMember (request : HttpsRequest) (key : Bytes) : Except Raised Bytes :=
  match cloud.send request with
  | none => do
      -- the warning prints the status code of the response that is missing
      let _ ← getStatusCode none
      return invalid
  | some response => do
      let subRoot ← readData cloud response
      subRoot.memberText key invalid

def callForCertificate (request : HttpsRequest) : Except Raised CsrSignResp :=
  match cloud.send request with
  | none => do
      let _ ← getStatusCode none
      return ⟨invalid, invalid⟩
  | some response => do
      let subRoot ← readData cloud response
      let cert ← subRoot.memberText (str "cert") invalid
      let certSn ← subRoot.memberText (str "certSN") invalid
      return ⟨cert, certSn⟩

def getAccessToken (now : Int) : Except Raised Bytes :=
  callForMember cloud (getAccessTokenRequest cloud now) (str "accessToken")

-- In the other calls `now` is read before the token is asked for, and `tokenTime` inside that call.

def getDeviceSecret (now tokenTime : Int) : Except Raised Bytes := do
  let accessToken ← getAccessToken cloud tokenTime
  callForMember cloud (getDeviceSecretRequest cloud now accessToken) (str "deviceSecret")

def createDeviceInDecada (now tokenTime : Int) (defaultName : Bytes) : Except Raised Bytes := do
  let accessToken ← getAccessToken cloud tokenTime
  callForMember cloud (createDeviceInDecadaRequest cloud now defaultName accessToken)
    (str "deviceSecret")

def signCertificateSigningRequest (now tokenTime : Int) (csr : Bytes) :
    Except Raised CsrSignResp := do
  let accessToken ← getAccessToken cloud tokenTime
  callForCertificate cloud (signCertificateSigningRequestRequest cloud now csr accessToken)

def renewClientCertificate (now tokenTime junk : Int) (certSn : Bytes) :
    Except Raised CsrSignResp := do
  let accessToken ← getAccessToken cloud tokenTime
  callForCertificate cloud (renewClientCertificateRequest cloud now junk certSn accessToken)

/-! ## What a call promises -/

/-- The member of a reply that parses to an object whose `data` is an object holding it as a scalar. -/
def heldMember (reply : Option HttpResponse) (key : Bytes) : Option Bytes := do
  let response ← reply
  let (true, .object root) ← (parse cloud.decodeDouble response.body).toOption | none
  let .object data ← root.lookup (str "data") | none
  let member ← data.lookup key
  member.scalarText

def promised (reply : Option HttpResponse) (key : Bytes) : Bytes :=
  (heldMember cloud reply key).getD invalid

def replyAfterToken (tokenTime : Int) (request : Bytes → HttpsRequest) : Option HttpResponse :=
  match getAccessToken cloud tokenTime with
  | .ok accessToken => cloud.send (request accessToken)
  | .error _ => none

/-! ## When a call keeps its promise -/

/-- The reply is an object whose `data` is an object or null; `complete` tells whether all of the
body was JSON. -/
def HoldsData (reply : Option HttpResponse) (complete : Bool) (data : Value) : Prop :=
  ∃ response root, reply = some response ∧
    parse cloud.decodeDouble response.body = .ok (complete, root) ∧
    root.member? (str "data") = some data ∧ data.Searchable

/-- The member is missing, or a scalar that an error later in the body does not discredit. -/
def Answers (complete : Bool) (data : Value) (key : Bytes) : Prop :=
  ∀ member, data.member? key = some member →
    ∃ text, member.scalarText = some text ∧ (complete = true ∨ text = invalid)

def Obtains (reply : Option HttpResponse) (keys : List Bytes) : Prop :=
  ∃ complete data, HoldsData cloud reply complete data ∧ ∀ key ∈ keys, Answers complete data key

def TokenReadable (tokenTime : Int) : Prop :=
  ∃ complete data,
    HoldsData cloud (cloud.send (getAccessTokenRequest cloud tokenTime)) complete data ∧
      data.PrintableMember (str "accessToken")

variable {cloud}

theorem readData_eq_ok {response : HttpResponse} {data : Value} (searchable : data.Searchable) :
    readData cloud response = .ok data ↔
      ∃ complete, HoldsData cloud (some response) complete data := by
  simp only [readData, bind_eq_ok, Value.get_ok_iff, Prod.exists]
  constructor
  · rintro ⟨complete, root, parsed, -, held⟩
    cases found : root.member? (str "data") with
    | none =>
        rw [found] at held
        subst held
        exact searchable.elim
    | some member =>
        rw [found] at held
        subst held
        exact ⟨complete, response, root, rfl, parsed, found, searchable⟩
  · rintro ⟨complete, other, root, same, parsed, found, -⟩
    cases same
    exact ⟨complete, root, parsed, Value.searchable_of_member found, by rw [found]; rfl⟩

theorem callForMember_eq_ok {request : HttpsRequest} {key text : Bytes} :
    callForMember cloud request key = .ok text ↔
      ∃ complete data, HoldsData cloud (cloud.send request) complete data ∧
        data.memberText key invalid = .ok text := by
  unfold callForMember
  cases reply : cloud.send request with
  | none => simp [HoldsData, getStatusCode, bind, Except.bind]
  | some response =>
      simp only [bind_eq_ok]
      constructor
      · rintro ⟨data, read, taken⟩
        have searchable := (Value.memberText_ok_iff.mp ⟨text, taken⟩).1
        obtain ⟨complete, holds⟩ := (readData_eq_ok searchable).mp read
        exact ⟨complete, data, holds, taken⟩
      · rintro ⟨complete, data, holds, taken⟩
        have searchable := (Value.memberText_ok_iff.mp ⟨text, taken⟩).1
        exact ⟨data, (readData_eq_ok searchable).mpr ⟨complete, holds⟩, taken⟩

theorem callForCertificate_eq_ok {request : HttpsRequest} {cert certSn : Bytes} :
    callForCertificate cloud request = .ok ⟨cert, certSn⟩ ↔
      ∃ complete data, HoldsData cloud (cloud.send request) complete data ∧
        data.memberText (str "cert") invalid = .ok cert ∧
        data.memberText (str "certSN") invalid = .ok certSn := by
  unfold callForCertificate
  cases reply : cloud.send request with
  | none => simp [HoldsData, getStatusCode, bind, Except.bind]
  | some response =>
      simp only [bind_eq_ok, pure_eq_ok, CsrSignResp.mk.injEq]
      constructor
      · rintro ⟨data, read, _, takenCert, _, takenSn, rfl, rfl⟩
        have searchable := (Value.memberText_ok_iff.mp ⟨_, takenCert⟩).1
        obtain ⟨complete, holds⟩ := (readData_eq_ok searchable).mp read
        exact ⟨complete, data, holds, takenCert, takenSn⟩
      · rintro ⟨complete, data, holds, takenCert, takenSn⟩
        have searchable := (Value.memberText_ok_iff.mp ⟨_, takenCert⟩).1
        exact ⟨data, (readData_eq_ok searchable).mpr ⟨complete, holds⟩, _, takenCert, _, takenSn, rfl, rfl⟩

theorem HoldsData.searchable {reply : Option HttpResponse} {complete : Bool} {data : Value}
    (holds : HoldsData cloud reply complete data) : data.Searchable := by
  obtain ⟨_, _, _, _, _, searchable⟩ := holds
  exact searchable

theorem HoldsData.heldMember_eq {reply : Option HttpResponse} {complete : Bool} {data : Value}
    (holds : HoldsData cloud reply complete data) (key : Bytes) :
    heldMember cloud reply key =
      if complete then (data.member? key).bind Value.scalarText else none := by
  obtain ⟨response, root, rfl, parsed, found, searchable⟩ := holds
  cases root with
  | object members =>
      have member : members.lookup (str "data") = some data := found
      cases complete with
      | false => simp [heldMember, parsed, Except.toOption]
      | true =>
          cases data with
          | null => simp [heldMember, parsed, Except.toOption, member, Value.member?]
          | object fields =>
              simp only [heldMember, parsed, Except.toOption, Value.member?, member,
                Option.bind_eq_bind, Option.bind_some, ↓reduceIte]
          | _ => exact searchable.elim
  | _ => cases found

theorem HoldsData.memberText_eq_promised_iff {reply : Option HttpResponse} {complete : Bool}
    {data : Value} (holds : HoldsData cloud reply complete data) (key : Bytes) :
    data.memberText key invalid = .ok (promised cloud reply key) ↔ Answers complete data key := by
  have searchable := holds.searchable
  rw [Value.memberText_of_searchable searchable, promised, holds.heldMember_eq]
  cases found : data.member? key with
  | none => simp [Answers, found, Value.asString]
  | some member =>
      have answers : Answers complete data key ↔
          ∃ text, member.scalarText = some text ∧ (complete = true ∨ text = invalid) := by
        simp [Answers, found]
      rw [answers, Option.getD_some, Option.bind_some]
      cases scalar : member.scalarText with
      | none =>
          rcases Value.asString_of_scalarText_none scalar with rfl | ⟨raised, failed⟩
          · simp [Value.asString, invalid, str]
          · simp [failed]
      | some text =>
          rw [Value.asString_of_scalarText scalar]
          cases complete <;> simp

theorem callForMember_eq_promised_iff {request : HttpsRequest} {key : Bytes} :
    callForMember cloud request key = .ok (promised cloud (cloud.send request) key) ↔
      Obtains cloud (cloud.send request) [key] := by
  simp only [callForMember_eq_ok, Obtains, List.mem_singleton, forall_eq]
  constructor
  · rintro ⟨complete, data, holds, taken⟩
    exact ⟨complete, data, holds, (holds.memberText_eq_promised_iff key).mp taken⟩
  · rintro ⟨complete, data, holds, answers⟩
    exact ⟨complete, data, holds, (holds.memberText_eq_promised_iff key).mpr answers⟩

theorem callForCertificate_eq_promised_iff {request : HttpsRequest} :
    callForCertificate cloud request = .ok ⟨promised cloud (cloud.send request) (str "cert"),
        promised cloud (cloud.send request) (str "certSN")⟩ ↔
      Obtains cloud (cloud.send request) [str "cert", str "certSN"] := by
  simp only [callForCertificate_eq_ok, Obtains, List.forall_mem_cons, List.not_mem_nil,
    false_implies, implies_true, and_true]
  constructor
  · rintro ⟨complete, data, holds, takenCert, takenSn⟩
    exact ⟨complete, data, holds, (holds.memberText_eq_promised_iff _).mp takenCert,
      (holds.memberText_eq_promised_iff _).mp takenSn⟩
  · rintro ⟨complete, data, holds, cert, certSn⟩
    exact ⟨complete, data, holds, (holds.memberText_eq_promised_iff _).mpr cert,
      (holds.memberText_eq_promised_iff _).mpr certSn⟩

theorem getAccessToken_returns_iff {tokenTime : Int} :
    (∃ accessToken, getAccessToken cloud tokenTime = .ok accessToken) ↔
      TokenReadable cloud tokenTime := by
  simp only [getAccessToken, callForMember_eq_ok, TokenReadable]
  constructor
  · rintro ⟨accessToken, complete, data, holds, taken⟩
    exact ⟨complete, data, holds, (Value.memberText_ok_iff.mp ⟨accessToken, taken⟩).2⟩
  · rintro ⟨complete, data, holds, printable⟩
    obtain ⟨accessToken, taken⟩ := Value.memberText_ok_iff.mpr ⟨holds.searchable, printable⟩
    exact ⟨accessToken, complete, data, holds, taken⟩

theorem callForMember_afterToken_iff (tokenTime : Int) (request : Bytes → HttpsRequest)
    (key : Bytes) :
    let reply := replyAfterToken cloud tokenTime request
    (do let accessToken ← getAccessToken cloud tokenTime; callForMember cloud (request accessToken) key) =
        .ok (promised cloud reply key) ↔
      TokenReadable cloud tokenTime ∧ Obtains cloud reply [key] := by
  rw [← getAccessToken_returns_iff]
  unfold replyAfterToken
  cases getAccessToken cloud tokenTime with
  | error raised => simp [bind, Except.bind]
  | ok accessToken => simp [ok_bind, callForMember_eq_promised_iff]

theorem callForCertificate_afterToken_iff (tokenTime : Int) (request : Bytes → HttpsRequest) :
    let reply := replyAfterToken cloud tokenTime request
    (do let accessToken ← getAccessToken cloud tokenTime; callForCertificate cloud (request accessToken)) =
        .ok ⟨promised cloud reply (str "cert"), promised cloud reply (str "certSN")⟩ ↔
      TokenReadable cloud tokenTime ∧ Obtains cloud reply [str "cert", str "certSN"] := by
  rw [← getAccessToken_returns_iff]
  unfold replyAfterToken
  cases getAccessToken cloud tokenTime with
  | error raised => simp [bind, Except.bind]
  | ok accessToken => simp [ok_bind, callForCertificate_eq_promised_iff]

variable (cloud)

/-- Each of the five calls returns what it promises exactly when the reply, and for four of them
the token's reply before it, is of the kind that the code expects. -/
theorem calls_eq_promised_iff (now tokenTime junk : Int) (defaultName csr certSn : Bytes) :
    let tokenReply := cloud.send (getAccessTokenRequest cloud tokenTime)
    let secretReply := replyAfterToken cloud tokenTime (getDeviceSecretRequest cloud now)
    let createReply :=
      replyAfterToken cloud tokenTime (createDeviceInDecadaRequest cloud now defaultName)
    let signReply :=
      replyAfterToken cloud tokenTime (signCertificateSigningRequestRequest cloud now csr)
    let renewReply :=
      replyAfterToken cloud tokenTime (renewClientCertificateRequest cloud now junk certSn)
    (getAccessToken cloud tokenTime = .ok (promised cloud tokenReply (str "accessToken")) ↔
        Obtains cloud tokenReply [str "accessToken"]) ∧
      (getDeviceSecret cloud now tokenTime = .ok (promised cloud secretReply (str "deviceSecret")) ↔
        TokenReadable cloud tokenTime ∧ Obtains cloud secretReply [str "deviceSecret"]) ∧
      (createDeviceInDecada cloud now tokenTime defaultName =
          .ok (promised cloud createReply (str "deviceSecret")) ↔
        TokenReadable cloud tokenTime ∧ Obtains cloud createReply [str "deviceSecret"]) ∧
      (signCertificateSigningRequest cloud now tokenTime csr =
          .ok ⟨promised cloud signReply (str "cert"), promised cloud signReply (str "certSN")⟩ ↔
        TokenReadable cloud tokenTime ∧ Obtains cloud signReply [str "cert", str "certSN"]) ∧
      (renewClientCertificate cloud now tokenTime junk certSn =
          .ok ⟨promised cloud renewReply (str "cert"), promised cloud renewReply (str "certSN")⟩ ↔
        TokenReadable cloud tokenTime ∧ Obtains cloud renewReply [str "cert", str "certSN"]) := by
  refine ⟨callForMember_eq_promised_iff, ?_, ?_, ?_, ?_⟩
  · exact callForMember_afterToken_iff tokenTime (getDeviceSecretRequest cloud now) _
  · exact callForMember_afterToken_iff tokenTime (createDeviceInDecadaRequest cloud now defaultName) _
  · exact callForCertificate_afterToken_iff tokenTime
      (signCertificateSigningRequestRequest cloud now csr)
  · exact callForCertificate_afterToken_iff tokenTime
      (renewClientCertificateRequest cloud now junk certSn)

def answering (body : Bytes) : Cloud :=
  { decadaProductKey := [], decadaAccessKey := [], decadaAccessSecret := [], decadaOuId := []
    apiUrl := [], deviceUid := [], useSecureElement := false, sha256 := id
    writeString := fun _ => [], decodeDouble := fun _ => none, send := fun _ => some ⟨200, body⟩ }

theorem getAccessToken_noResponse : ¬ ∀ (cloud : Cloud) (now : Int),
    ∃ accessToken, getAccessToken cloud now = .ok accessToken := by
  intro returns
  obtain ⟨accessToken, returned⟩ := returns
    { answering [] with send := fun _ => none } 0
  cases returned

end DecadaEmbedded.DecadaManager
