import DecadaEmbedded.Communications
import DecadaEmbedded.DecadaManager.SubscriptionCallback
import DecadaEmbedded.Json.Ordered
import DecadaEmbedded.SensorThread
import DecadaEmbedded.TraceManager
import Mathlib.Data.List.Forall2

/-!
# Service requests from the callback to the reply

The chain of `SubscriptionMessageArrivalCallback`, `event_manager_thread`,
`DistributeControlMessage`, `execute_sensor_control`, `DecadaServiceResponse` and the main loop of
`threads/communications_thread.cpp`. The threads interleave at their mailboxes, which are FIFO
queues here. `junk n` is what `v` holds at the n-th call of `StringToInt` by the event manager; a
blank text reads as it.
-/

namespace DecadaEmbedded.ServiceRequests
open Library Conversions Json Json.Reader Json.Writer PersistStore DecadaManager SubscriptionCallback
  SensorControl Upstream

variable (decodeDouble : Bytes → Option Bytes)

def StringOrNumber : Value → Prop
  | .string _ | .int _ | .uint _ | .real _ => True
  | _ => False

def textOf (value : Value) : Bytes := value.asString.toOption.getD []

/-- A payload that reads as `{id, method, params}`. -/
structure Request where
  payload : Bytes
  trailing : Bytes
  root : Value
  id : Bytes
  method : Bytes
  params : List (Bytes × Value)
  parsed : parse decodeDouble (cstr payload) = .ok (true, root)
  idMember : root.member? (str "id") = some (.string id)
  methodMember : root.member? (str "method") = some (.string method)
  paramsMember : root.member? (str "params") = some (.object params)
  stringOrNumber : ∀ param ∈ params, StringOrNumber param.2
  nulFree : 0 ∉ id ∧ 0 ∉ method ∧ ∀ param ∈ params, 0 ∉ param.1 ∧ 0 ∉ textOf param.2

variable {decodeDouble}

/-- The parameters in the order of `getMemberNames`, each with its text. -/
def Request.settings (request : Request decodeDouble) : List (Bytes × Bytes) :=
  request.params.map fun (name, value) => (name, textOf value)

theorem asString_of_stringOrNumber {value : Value} (scalar : StringOrNumber value) :
    value.asString = .ok (textOf value) := by
  cases value <;> first | rfl | cases scalar

theorem Request.nodup_names (request : Request decodeDouble) : (request.params.map Prod.fst).Nodup :=
  ((parse_ordered request.parsed).member request.paramsMember).ascending.nodup

theorem readParams_eq {params settings : List (Bytes × Value)}
    (printed : ∀ param ∈ settings, params.lookup param.1 = some param.2 ∧ StringOrNumber param.2)
    {root : Value} (held : root.member? (str "params") = some (.object params)) :
    readParams root (settings.map Prod.fst) =
      .ok (settings.map fun (name, value) => (name, textOf value)) := by
  induction settings generalizing root with
  | nil => rfl
  | cons param settings ih =>
      obtain ⟨found, scalar⟩ := printed param (by simp)
      have step := readParam_eq held
        (show (Value.object params).member? param.1 = some param.2 from found)
      have later := ih (fun other inside => printed other (by simp [inside])) (Value.member?_assign held)
      simp only [List.map_cons, readParams, step, asString_of_stringOrNumber scalar, Except.map, ok_bind,
        later]
      rfl

theorem Request.paramList_eq (request : Request decodeDouble) :
    paramList request.root = .ok request.settings := by
  have got : request.root.get (str "params") (.string (str "invalid")) = .ok (.object request.params) :=
    Value.get_ok_iff.mpr ⟨Value.searchable_of_member request.paramsMember, by rw [request.paramsMember]; rfl⟩
  rw [paramList, got, ok_bind]
  refine readParams_eq (fun param member => ⟨?_, request.stringOrNumber param member⟩) request.paramsMember
  exact lookup_of_mem request.nodup_names member

/-! ## The method -/

def endpointOf (method : Bytes) : Bytes :=
  match DecadaEmbedded.find method identifier with
  | some found => method.take found ++ method.drop (found + (found + identifier.length))
  | none => method

def withoutIdentifier (method : Bytes) : Bytes :=
  match DecadaEmbedded.find method identifier with
  | some found => method.take found ++ method.drop (found + identifier.length)
  | none => method

/-- The identifier is missing, or it begins the method, or it ends it. -/
def IdentifierAtAnEnd (method : Bytes) : Prop :=
  ∀ found, DecadaEmbedded.find method identifier = some found →
    found = 0 ∨ method.length ≤ found + identifier.length

theorem eraseIdentifier_eq (method : Bytes) : eraseIdentifier method = .ok (endpointOf method) := by
  unfold eraseIdentifier endpointOf
  cases found : DecadaEmbedded.find method identifier with
  | none => rfl
  | some pos => exact erase_of_le _ (find_le_length found)

theorem endpointOf_eq_iff (method : Bytes) :
    endpointOf method = withoutIdentifier method ↔ IdentifierAtAnEnd method := by
  unfold endpointOf withoutIdentifier IdentifierAtAnEnd
  cases found : DecadaEmbedded.find method identifier with
  | none => simp
  | some pos =>
      simp only [List.append_cancel_left_eq, Option.some.injEq, forall_eq']
      constructor
      · intro same
        have length := congrArg List.length same
        simp only [List.length_drop] at length
        omega
      · rintro (rfl | last)
        · simp
        · rw [List.drop_eq_nil_of_le last, List.drop_eq_nil_of_le (by omega)]

theorem mem_endpointOf {method : Bytes} {c : UInt8} (member : c ∈ endpointOf method) : c ∈ method := by
  unfold endpointOf at member
  split at member
  · rcases List.mem_append.mp member with member | member
    · exact List.mem_of_mem_take member
    · exact List.mem_of_mem_drop member
  · exact member

/-! ## Commands -/

variable (decodeDouble) in
structure Command where
  request : Request decodeDouble
  param : Bytes
  text : Bytes

def Request.commands (request : Request decodeDouble) : List (Command decodeDouble) :=
  request.settings.map fun (param, text) => ⟨request, param, text⟩

def Command.mail (command : Command decodeDouble) : MqttArrivedMail :=
  mailFor (endpointOf command.request.method) command.request.id (command.param, command.text)

theorem Request.callback_eq (request : Request decodeDouble) :
    subscriptionMessageArrivalCallback decodeDouble request.payload request.trailing =
      .ok (request.commands.map Command.mail) := by
  have searchable := Value.searchable_of_member request.idMember
  refine (subscriptionMessageArrivalCallback_ok_iff decodeDouble).mpr
    ⟨true, request.root, request.id, request.method, endpointOf request.method, request.settings,
      request.parsed, ?_, ?_, eraseIdentifier_eq _, request.paramList_eq, ?_⟩
  · rw [Value.memberText_of_searchable searchable, request.idMember]
    rfl
  · rw [Value.memberText_of_searchable searchable, request.methodMember]
    rfl
  · rw [commands, List.map_map]
    rfl

theorem Request.mail_of_mem {request : Request decodeDouble} {command : Command decodeDouble}
    (member : command ∈ request.commands) :
    command.mail = ⟨endpointOf command.request.method, command.request.id, command.param, command.text⟩ := by
  obtain ⟨setting, listed, rfl⟩ := List.mem_map.mp member
  obtain ⟨param, declared, rfl⟩ := List.mem_map.mp listed
  obtain ⟨id, method, params⟩ := request.nulFree
  obtain ⟨nameFree, textFree⟩ := params param declared
  have endpoint : 0 ∉ endpointOf request.method := fun zero => method (mem_endpointOf zero)
  simp only [Command.mail, mailFor, stringToChar, cstr_of_nulFree id, cstr_of_nulFree endpoint,
    cstr_of_nulFree nameFree, cstr_of_nulFree textFree]

variable (junk : Nat → CInt)

/-- The parameters named `sensor_poll_rate` that parse as 10 or more, with their values. -/
def acceptedCommands (requests : List (Request decodeDouble)) : List (Command decodeDouble × Int) :=
  (requests.flatMap Request.commands).zipIdx.filterMap fun (command, n) =>
    if command.param = str "sensor_poll_rate" ∧ 10 ≤ stringToInt (junk n) command.text then
      some (command, stringToInt (junk n) command.text)
    else none

/-! ## The chain -/

/-- The product key is a literal of the build and the UID is hexadecimal. -/
structure Site where
  cloud : Cloud
  nulFree : 0 ∉ Communications.decadaServiceTopic cloud

inductive SensorThread where
  | idle
  | responding (mail : SensorControlMail)
  | writing (value : Int)

variable (decodeDouble) in
/-- `callback` holds the mails that the running callback has still to put. `processed`, `controlled`
and `answered` collect the mails that the event manager and the sensor thread have taken and those
that are answered, `changes` the intervals stored. -/
structure State where
  arrived : List (Request decodeDouble)
  callback : List MqttArrivedMail
  mqttArrived : List MqttArrivedMail
  eventManager : Option SensorControlMail
  sensorControl : List SensorControlMail
  sensorThread : SensorThread
  communications : Communications.State
  store : Store
  currentCycleInterval : Int
  processed : List MqttArrivedMail
  controlled : List SensorControlMail
  answered : List SensorControlMail
  changes : List Int

variable (decodeDouble) in
inductive Action where
  | arrive (request : Request decodeDouble)
  | putArrived | takeArrived | putControl | takeControl | respond | writeInterval
  | communicate (action : Communications.Action)

variable (decodeDouble) in
def init (store : Store) (interval : Int) : State decodeDouble :=
  ⟨[], [], [], none, [], .idle, Communications.init, store, interval, [], [], [], []⟩

def distributeControlMessage (n : Nat) (mail : MqttArrivedMail) : Option SensorControlMail :=
  if isSensorParam mail.param then
    some ⟨stringToChar mail.param, stringToInt (junk n) mail.value, stringToChar mail.msgId,
      stringToChar mail.endpointId⟩
  else none

def decadaServiceResponse (serviceId msgId msg : Bytes) : Except Raised ServiceResponseMail := do
  let snon ← TraceManager.createDecadaResponse msg msgId
  return ⟨stringToChar snon, stringToChar serviceId⟩

variable (site : Site)

def step (state : State decodeDouble) : Action decodeDouble → Option (State decodeDouble)
  | .arrive request =>
      match state.callback with
      | [] =>
          match subscriptionMessageArrivalCallback decodeDouble request.payload request.trailing with
          | .ok callback => some { state with callback, arrived := state.arrived ++ [request] }
          | .error _ => none
      | _ => none
  | .putArrived =>
      match state.callback with
      | [] => none
      | mail :: callback => some { state with callback, mqttArrived := state.mqttArrived ++ [mail] }
  | .takeArrived =>
      match state.eventManager, state.mqttArrived with
      | none, mail :: mqttArrived => some { state with
          mqttArrived, processed := state.processed ++ [mail]
          eventManager := distributeControlMessage junk state.processed.length mail }
      | _, _ => none
  | .putControl =>
      state.eventManager.map fun mail =>
        { state with eventManager := none, sensorControl := state.sensorControl ++ [mail] }
  | .takeControl =>
      match state.sensorThread, state.sensorControl with
      | .idle, mail :: sensorControl => some { state with
          sensorControl, controlled := state.controlled ++ [mail]
          sensorThread := if accepted mail then .responding mail else .idle }
      | _, _ => none
  | .respond =>
      match state.sensorThread with
      | .responding mail =>
          match decadaServiceResponse mail.endpointId mail.msgId TraceManager.pollRateUpdate with
          | .ok response =>
              (Communications.step site.cloud state.communications (.putServiceResponse response)).map
                fun communications => { state with
                  communications, sensorThread := .writing mail.value
                  answered := state.answered ++ [mail] }
          | .error _ => none
      | _ => none
  | .writeInterval =>
      match state.sensorThread with
      | .writing value =>
          let milliseconds := wrapInt (value * 1000)
          some { state with
            store := writeCycleInterval 0 (intToString milliseconds) state.store
            currentCycleInterval := milliseconds
            sensorThread := .idle, changes := state.changes ++ [milliseconds] }
      | _ => none
  | .communicate (.putServiceResponse _) => none
  | .communicate action =>
      (Communications.step site.cloud state.communications action).map fun communications =>
        { state with communications }

/-! ## What each mailbox has passed on -/

def controlsOf (mails : List MqttArrivedMail) : List SensorControlMail :=
  mails.zipIdx.filterMap fun (mail, n) => distributeControlMessage junk n mail

def replyOf (mail : SensorControlMail) : Bytes × Bytes :=
  (cstr (Communications.responseTopic site.cloud (stringToChar mail.endpointId)),
    stringToChar (Json.Writer.writeValue (TraceManager.response TraceManager.pollRateUpdate mail.msgId)))

def intervalOf (value : Int) : Int := wrapInt (value * 1000)

def configure (before : Store × Int) (milliseconds : Int) : Store × Int :=
  (writeCycleInterval 0 (intToString milliseconds) before.1, milliseconds)

def SensorThread.unanswered : SensorThread → List SensorControlMail
  | .responding mail => [mail]
  | _ => []

def SensorThread.unwritten : SensorThread → List Int
  | .writing value => [value]
  | _ => []

structure Flow (before : Store × Int) (state : State decodeDouble) : Prop where
  arrivals : (state.arrived.flatMap Request.commands).map Command.mail =
    state.processed ++ state.mqttArrived ++ state.callback
  controls : controlsOf junk state.processed =
    state.controlled ++ state.sensorControl ++ state.eventManager.toList
  answers : state.controlled.filter accepted = state.answered ++ state.sensorThread.unanswered
  replies : state.answered.map (replyOf site) = Communications.replies state.communications.events ++
    state.communications.serviceResponses.map (Communications.replyFor site.cloud)
  changes : state.answered.map (fun mail => intervalOf mail.value) =
    state.changes ++ state.sensorThread.unwritten.map intervalOf
  configured : (state.store, state.currentCycleInterval) = state.changes.foldl configure before

theorem decadaServiceResponse_eq (mail : SensorControlMail) :
    ∃ response,
      decadaServiceResponse mail.endpointId mail.msgId TraceManager.pollRateUpdate = .ok response ∧
        Communications.replyFor site.cloud response = replyOf site mail := by
  rw [decadaServiceResponse, TraceManager.createDecadaResponse_eq]
  exact ⟨_, rfl, rfl⟩

theorem controlsOf_append (mails : List MqttArrivedMail) (mail : MqttArrivedMail) :
    controlsOf junk (mails ++ [mail]) =
      controlsOf junk mails ++ (distributeControlMessage junk mails.length mail).toList := by
  simp only [controlsOf, List.zipIdx_append, List.filterMap_append, List.zipIdx_singleton,
    Nat.zero_add, List.append_cancel_left_eq]
  cases made : distributeControlMessage junk mails.length mail <;> simp [made]

theorem flow_init (store : Store) (interval : Int) :
    Flow junk site (store, interval) (init decodeDouble store interval) where
  arrivals := rfl
  controls := rfl
  answers := rfl
  replies := rfl
  changes := rfl
  configured := rfl

variable {junk site} {before : Store × Int} {state next : State decodeDouble}

theorem Flow.arrive {request : Request decodeDouble} (flow : Flow junk site before state)
    (taken : step junk site state (.arrive request) = some next) : Flow junk site before next := by
  simp only [step, request.callback_eq] at taken
  split at taken
  · rename_i finished
    cases taken
    have arrivals := flow.arrivals
    rw [finished, List.append_nil] at arrivals
    refine ⟨?_, flow.controls, flow.answers, flow.replies, flow.changes, flow.configured⟩
    simp only [List.flatMap_append, List.map_append, arrivals, List.flatMap_singleton]
  · cases taken

theorem Flow.putArrived (flow : Flow junk site before state)
    (taken : step junk site state .putArrived = some next) : Flow junk site before next := by
  simp only [step] at taken
  split at taken
  · cases taken
  · rename_i mail callback running
    cases taken
    have arrivals := flow.arrivals
    rw [running] at arrivals
    exact ⟨by simpa using arrivals, flow.controls, flow.answers, flow.replies, flow.changes, flow.configured⟩

theorem Flow.takeArrived (flow : Flow junk site before state)
    (taken : step junk site state .takeArrived = some next) : Flow junk site before next := by
  simp only [step] at taken
  split at taken
  · rename_i mail mqttArrived idle waiting
    cases taken
    have arrivals := flow.arrivals
    have controls := flow.controls
    rw [waiting] at arrivals
    rw [idle, Option.toList_none, List.append_nil] at controls
    refine ⟨by simpa using arrivals, ?_, flow.answers, flow.replies, flow.changes, flow.configured⟩
    rw [controlsOf_append, controls]
  · cases taken

theorem Flow.putControl (flow : Flow junk site before state)
    (taken : step junk site state .putControl = some next) : Flow junk site before next := by
  obtain ⟨mail, holding, rfl⟩ := Option.map_eq_some_iff.mp taken
  have controls := flow.controls
  rw [holding] at controls
  exact ⟨flow.arrivals, by simpa using controls, flow.answers, flow.replies, flow.changes, flow.configured⟩

theorem Flow.takeControl (flow : Flow junk site before state)
    (taken : step junk site state .takeControl = some next) : Flow junk site before next := by
  simp only [step] at taken
  split at taken
  · rename_i mail sensorControl idle waiting
    cases taken
    have controls := flow.controls
    have answers := flow.answers
    have changes := flow.changes
    rw [waiting] at controls
    simp only [idle, SensorThread.unanswered, SensorThread.unwritten, List.append_nil, List.map_nil] at answers changes
    refine ⟨flow.arrivals, by simpa using controls, ?_, flow.replies, ?_, flow.configured⟩
    · rw [List.filter_append, answers]
      cases ok : accepted mail <;> simp [ok, SensorThread.unanswered]
    · rw [changes]
      cases ok : accepted mail <;> simp [SensorThread.unwritten]
  · cases taken

theorem Flow.respond (flow : Flow junk site before state)
    (taken : step junk site state .respond = some next) : Flow junk site before next := by
  simp only [step] at taken
  split at taken
  · rename_i mail holding
    obtain ⟨response, created, reply⟩ := decadaServiceResponse_eq site mail
    rw [created] at taken
    obtain ⟨communications, put, rfl⟩ := Option.map_eq_some_iff.mp taken
    have answers := flow.answers
    have changes := flow.changes
    have replies := Communications.replies_step site.cloud put
    simp only [holding, SensorThread.unanswered, SensorThread.unwritten, List.map_nil, List.append_nil] at answers changes
    refine ⟨flow.arrivals, flow.controls, ?_, ?_, ?_, flow.configured⟩
    · simp [answers, SensorThread.unanswered]
    · rw [replies, ← flow.replies, List.map_append, List.map_singleton, ← reply]
      rfl
    · simp [changes, SensorThread.unwritten]
  · cases taken

theorem Flow.writeInterval (flow : Flow junk site before state)
    (taken : step junk site state .writeInterval = some next) : Flow junk site before next := by
  simp only [step] at taken
  split at taken
  · rename_i value holding
    cases taken
    have answers := flow.answers
    have changes := flow.changes
    simp only [holding, SensorThread.unanswered, SensorThread.unwritten, List.append_nil] at answers changes
    refine ⟨flow.arrivals, flow.controls, ?_, flow.replies, ?_, ?_⟩
    · simp [answers, SensorThread.unanswered]
    · simpa [SensorThread.unwritten, intervalOf] using changes
    · rw [List.foldl_append, ← flow.configured]
      rfl
  · cases taken

theorem Flow.communicate {action : Communications.Action} (flow : Flow junk site before state)
    (taken : step junk site state (.communicate action) = some next) : Flow junk site before next := by
  cases action with
  | putServiceResponse mail => cases taken
  | _ =>
      obtain ⟨communications, moved, rfl⟩ := Option.map_eq_some_iff.mp taken
      have replies := Communications.replies_step site.cloud moved
      refine ⟨flow.arrivals, flow.controls, flow.answers, ?_, flow.changes, flow.configured⟩
      rw [replies, ← flow.replies]
      simp [Communications.Action.puts]

theorem flow_step (action : Action decodeDouble) (flow : Flow junk site before state)
    (taken : step junk site state action = some next) : Flow junk site before next := by
  cases action with
  | arrive request => exact flow.arrive taken
  | putArrived => exact flow.putArrived taken
  | takeArrived => exact flow.takeArrived taken
  | putControl => exact flow.putControl taken
  | takeControl => exact flow.takeControl taken
  | respond => exact flow.respond taken
  | writeInterval => exact flow.writeInterval taken
  | communicate action => exact flow.communicate taken

/-! ## The replies of a finished run -/

def Command.control (command : Command decodeDouble) (value : Int) : SensorControlMail :=
  ⟨command.param, value, command.request.id, endpointOf command.request.method⟩

variable (site) in
/-- The reply carries the id of the request and goes to its topic. -/
structure Answers (command : Command decodeDouble) (reply : Bytes × Bytes) : Prop where
  topic : reply.1 = Communications.decadaServiceTopic site.cloud ++
    withoutIdentifier command.request.method ++ str "_reply"
  payload : reply.2 =
    Json.Writer.writeValue (TraceManager.response TraceManager.pollRateUpdate command.request.id)
  readBack : Json.Writer.Utf8 command.request.id → parse decodeDouble reply.2 =
    .ok (true, TraceManager.response TraceManager.pollRateUpdate command.request.id)

structure Finished (state : State decodeDouble) : Prop where
  callback : state.callback = []
  mqttArrived : state.mqttArrived = []
  eventManager : state.eventManager = none
  sensorControl : state.sensorControl = []
  unanswered : state.sensorThread.unanswered = []
  unwritten : state.sensorThread.unwritten = []
  serviceResponses : state.communications.serviceResponses = []

theorem accepted_distribute {request : Request decodeDouble} {command : Command decodeDouble}
    (member : command ∈ request.commands) (n : Nat) :
    (distributeControlMessage junk n command.mail).filter accepted =
      (if command.param = str "sensor_poll_rate" ∧ 10 ≤ stringToInt (junk n) command.text then
        some (command, stringToInt (junk n) command.text)
      else none).map fun (command, value) => command.control value := by
  have mail := Request.mail_of_mem member
  have param : stringToChar command.param = command.param := congrArg MqttArrivedMail.param mail
  have id : stringToChar command.request.id = command.request.id := congrArg MqttArrivedMail.msgId mail
  have endpoint : stringToChar (endpointOf command.request.method) = endpointOf command.request.method :=
    congrArg MqttArrivedMail.endpointId mail
  have sensor : isSensorParam (str "sensor_poll_rate") = true := by decide
  simp only [distributeControlMessage, mail, param, id, endpoint]
  by_cases named : command.param = str "sensor_poll_rate"
  · rw [if_pos (by rw [named]; exact sensor)]
    by_cases enough : 10 ≤ stringToInt (junk n) command.text
    · simp [accepted, named, enough, Command.control]
    · simp [accepted, named, enough, Int.not_le.mp enough]
  · split <;> simp [accepted, named]

theorem accepted_controlsOf (requests : List (Request decodeDouble)) :
    (controlsOf junk ((requests.flatMap Request.commands).map Command.mail)).filter accepted =
      (acceptedCommands junk requests).map fun (command, value) => command.control value := by
  simp only [controlsOf, acceptedCommands, List.zipIdx_map, List.filterMap_map, List.filter_filterMap,
    List.map_filterMap]
  apply List.filterMap_congr
  intro numbered member
  obtain ⟨request, -, inside⟩ := List.mem_flatMap.mp (List.fst_mem_of_mem_zipIdx member)
  exact accepted_distribute inside numbered.2

theorem cstr_responseTopic {serviceId : Bytes} (serviceFree : 0 ∉ serviceId) :
    cstr (Communications.responseTopic site.cloud serviceId) =
      Communications.decadaServiceTopic site.cloud ++ serviceId ++ str "_reply" := by
  apply cstr_of_nulFree
  simp only [Communications.responseTopic, List.mem_append, not_or]
  exact ⟨⟨site.nulFree, serviceFree⟩, by decide⟩

theorem replyOf_control {request : Request decodeDouble} {command : Command decodeDouble}
    (member : command ∈ request.commands) (value : Int) :
    replyOf site (command.control value) =
      (Communications.decadaServiceTopic site.cloud ++ endpointOf command.request.method ++ str "_reply",
        Json.Writer.writeValue (TraceManager.response TraceManager.pollRateUpdate command.request.id)) := by
  obtain ⟨setting, -, rfl⟩ := List.mem_map.mp member
  obtain ⟨-, methodFree, -⟩ := request.nulFree
  have endpointFree : 0 ∉ endpointOf request.method := fun zero => methodFree (mem_endpointOf zero)
  simp only [replyOf, Command.control, stringToChar, cstr_of_nulFree endpointFree,
    cstr_responseTopic endpointFree, TraceManager.cstr_writeValue_response]

theorem answers_iff {request : Request decodeDouble} {command : Command decodeDouble}
    (member : command ∈ request.commands) (value : Int) :
    Answers site command (replyOf site (command.control value)) ↔
      IdentifierAtAnEnd command.request.method := by
  rw [← endpointOf_eq_iff, replyOf_control member]
  constructor
  · intro answers
    exact List.append_cancel_left (List.append_cancel_right answers.topic)
  · intro same
    refine ⟨by rw [same], rfl, fun utf8 => ?_⟩
    exact TraceManager.parse_response (Json.Writer.utf8_str rfl) utf8 decodeDouble

theorem flow_run {store : Store} {interval : Int} {actions : List (Action decodeDouble)}
    {final : State decodeDouble}
    (reaches : run (step junk site) (init decodeDouble store interval) actions = some final) :
    Flow junk site (store, interval) final := by
  have always : EveryStep (step junk site) (fun _ _ => True) (init decodeDouble store interval) actions :=
    fun _ _ _ _ _ _ _ => trivial
  exact (everyState_of_everyStep (fun _ action _ flow _ taken => flow_step action flow taken)
    (flow_init junk site store interval) always).last reaches

theorem Flow.answered_of_finished (flow : Flow junk site before state) (finished : Finished state) :
    state.answered =
      (acceptedCommands junk state.arrived).map fun (command, value) => command.control value := by
  have arrivals := flow.arrivals
  have controls := flow.controls
  have answers := flow.answers
  rw [finished.callback, finished.mqttArrived, List.append_nil, List.append_nil] at arrivals
  rw [finished.sensorControl, finished.eventManager, Option.toList_none, List.append_nil,
    List.append_nil] at controls
  rw [finished.unanswered, List.append_nil] at answers
  rw [← answers, ← controls, ← arrivals, accepted_controlsOf]

theorem Flow.replies_of_finished (flow : Flow junk site before state) (finished : Finished state) :
    Communications.replies state.communications.events =
      (acceptedCommands junk state.arrived).map fun (command, value) =>
        replyOf site (command.control value) := by
  have replies := flow.replies
  rw [finished.serviceResponses, List.map_nil, List.append_nil, flow.answered_of_finished finished,
    List.map_map] at replies
  exact replies.symm

theorem Flow.configured_of_finished (flow : Flow junk site before state) (finished : Finished state) :
    (state.store, state.currentCycleInterval) =
      ((acceptedCommands junk state.arrived).map fun (_, value) => intervalOf value).foldl configure before := by
  have changes := flow.changes
  rw [finished.unwritten, List.map_nil, List.append_nil, flow.answered_of_finished finished,
    List.map_map] at changes
  rw [flow.configured, ← changes]
  rfl

theorem mem_acceptedCommands {requests : List (Request decodeDouble)}
    {accepted : Command decodeDouble × Int} (member : accepted ∈ acceptedCommands junk requests) :
    ∃ request : Request decodeDouble, accepted.1 ∈ request.commands := by
  obtain ⟨numbered, listed, kept⟩ := List.mem_filterMap.mp member
  obtain ⟨request, -, inside⟩ := List.mem_flatMap.mp (List.fst_mem_of_mem_zipIdx listed)
  dsimp only at kept
  split at kept
  · cases kept
    exact ⟨request, inside⟩
  · cases kept

variable (junk site) in
/-- The replies are one for each accepted parameter, in order, and the flash and the interval in use
are what the accepted parameters make of them, whatever else was sent. -/
structure Served (before : Store × Int) (final : State decodeDouble) : Prop where
  replies : List.Forall₂ (fun accepted reply => Answers site accepted.1 reply)
    (acceptedCommands junk final.arrived) (Communications.replies final.communications.events)
  configured : (final.store, final.currentCycleInterval) =
    ((acceptedCommands junk final.arrived).map fun (_, value) => intervalOf value).foldl configure before

theorem Flow.served_iff (flow : Flow junk site before state) (finished : Finished state) :
    Served junk site before state ↔
      ∀ accepted ∈ acceptedCommands junk state.arrived, IdentifierAtAnEnd accepted.1.request.method := by
  have replies : List.Forall₂ (fun accepted reply => Answers site accepted.1 reply)
        (acceptedCommands junk state.arrived) (Communications.replies state.communications.events) ↔
      ∀ accepted ∈ acceptedCommands junk state.arrived, IdentifierAtAnEnd accepted.1.request.method := by
    rw [flow.replies_of_finished finished, List.forall₂_map_right_iff, List.forall₂_same]
    refine forall₂_congr fun accepted member => ?_
    obtain ⟨request, inside⟩ := mem_acceptedCommands member
    exact answers_iff inside accepted.2
  constructor
  · intro served
    exact replies.mp served.replies
  · intro ends
    exact ⟨replies.mpr ends, flow.configured_of_finished finished⟩

/-- A run that has dealt with all its requests has served them exactly if the methods of those with
an accepted parameter hold the identifier at an end or not at all. -/
theorem replies_iff {store : Store} {interval : Int} {actions : List (Action decodeDouble)}
    {final : State decodeDouble}
    (reaches : run (step junk site) (init decodeDouble store interval) actions = some final)
    (finished : Finished final) :
    Served junk site (store, interval) final ↔
      ∀ accepted ∈ acceptedCommands junk final.arrived, IdentifierAtAnEnd accepted.1.request.method :=
  (flow_run reaches).served_iff finished

/-! ## A request for a poll rate of 30 s -/

variable (junk site)

def pollRateRoot (method : Bytes) : Value :=
  .object [(str "id", .string (str "1")), (str "method", .string method),
    (str "params", .object [(str "sensor_poll_rate", .string (str "30"))])]

theorem readable_pollRateRoot {method : Bytes} (utf8 : Utf8 method) :
    Readable stackLimit (pollRateRoot method) := by
  have keys : Value.keyLt (str "id") (str "method") = true ∧ Value.keyLt (str "id") (str "params") = true ∧
      Value.keyLt (str "method") (str "params") = true := by decide
  refine .object (by simp [Ascending, keys]) ?_ ?_
  · simp only [List.forall_mem_cons, List.not_mem_nil, false_implies, implies_true, and_true]
    exact ⟨utf8_str rfl, utf8_str rfl, utf8_str rfl⟩
  · simp only [List.forall_mem_cons, List.not_mem_nil, false_implies, implies_true, and_true]
    refine ⟨.string (utf8_str rfl), .string utf8, .object (List.pairwise_singleton _ _) ?_ ?_⟩
    · simpa using show Utf8 (str "sensor_poll_rate") from utf8_str rfl
    · simpa using Readable.string (utf8_str rfl)

def pollRateRequest {method : Bytes} (utf8 : Utf8 method) (nulFree : 0 ∉ method) :
    Request decodeDouble where
  payload := writeValue (pollRateRoot method)
  trailing := []
  root := pollRateRoot method
  id := str "1"
  method
  params := [(str "sensor_poll_rate", .string (str "30"))]
  parsed := parse_cstr_writeValue (readable_pollRateRoot utf8)
  idMember := rfl
  methodMember := rfl
  paramsMember := rfl
  stringOrNumber := by simp [StringOrNumber]
  nulFree := by
    refine ⟨by decide, nulFree, ?_⟩
    simp only [List.forall_mem_cons, List.not_mem_nil, false_implies, implies_true, and_true]
    decide

def oneRequest (request : Request decodeDouble) : List (Action decodeDouble) :=
  [.arrive request, .putArrived, .takeArrived, .putControl, .takeControl, .respond, .writeInterval,
    .communicate (.tryGet true), .communicate (.tryGet true)]

theorem step_arrive {state : State decodeDouble} (idle : state.callback = []) (request : Request decodeDouble) :
    step junk site state (.arrive request) = some { state with
      callback := request.commands.map Command.mail, arrived := state.arrived ++ [request] } := by
  simp only [step, idle, request.callback_eq]

theorem run_oneRequest {request : Request decodeDouble} {mail : MqttArrivedMail} {control : SensorControlMail}
    (mails : request.commands.map Command.mail = [mail])
    (distributed : distributeControlMessage junk 0 mail = some control) (ok : accepted control = true)
    (store : Store) (interval : Int) :
    ∃ final, run (step junk site) (init decodeDouble store interval) (oneRequest request) = some final ∧
      Finished final ∧ final.arrived = [request] := by
  obtain ⟨response, created, -⟩ := decadaServiceResponse_eq site control
  simp only [oneRequest, run_cons]
  rw [step_arrive junk site rfl]
  simp only [mails, Option.bind_some, step, init, distributed, ok, created, Option.map_some, List.nil_append,
    List.length_nil, ↓reduceIte, Communications.step, Communications.init, Communications.tryGet,
    Communications.State.publish, Bool.false_eq_true, run]
  exact ⟨_, rfl, ⟨rfl, rfl, rfl, rfl, rfl, rfl, rfl⟩, rfl⟩

theorem stringToInt_thirty (junk : CInt) : stringToInt junk (str "30") = 30 := by
  rw [show str "30" = intToString 30 by decide]
  exact stringToInt_intToString junk (by decide)

theorem run_pollRateRequest {method : Bytes} (utf8 : Utf8 method) (nulFree : 0 ∉ method) (store : Store)
    (interval : Int) :
    ∃ final, run (step junk site) (init decodeDouble store interval)
        (oneRequest (pollRateRequest utf8 nulFree)) = some final ∧
      Finished final ∧ final.arrived = [pollRateRequest utf8 nulFree] := by
  have command : (⟨pollRateRequest utf8 nulFree, str "sensor_poll_rate", str "30"⟩ : Command decodeDouble) ∈
      (pollRateRequest utf8 nulFree).commands := List.mem_singleton.mpr rfl
  have value := stringToInt_thirty (junk 0)
  have distributed := @accepted_distribute decodeDouble junk _ _ command 0
  simp only [value, Int.reduceLE, and_self, ↓reduceIte, Option.map_some] at distributed
  obtain ⟨distributed, ok⟩ := Option.filter_eq_some_iff.mp distributed
  exact run_oneRequest junk site rfl distributed ok store interval

theorem identifierAtAnEnd_pollRateRequest {method : Bytes} (utf8 : Utf8 method) (nulFree : 0 ∉ method) :
    (∀ accepted ∈ acceptedCommands junk [(pollRateRequest utf8 nulFree : Request decodeDouble)],
      IdentifierAtAnEnd accepted.1.request.method) ↔ IdentifierAtAnEnd method := by
  have commands : ([pollRateRequest utf8 nulFree].flatMap Request.commands).zipIdx =
      [((⟨pollRateRequest utf8 nulFree, str "sensor_poll_rate", str "30"⟩ : Command decodeDouble), 0)] := rfl
  rw [acceptedCommands, commands]
  simp [stringToInt_thirty, pollRateRequest]

def bareSite : Site := ⟨answering [], by decide⟩

theorem replies_iff_pollRate :
    ∃ final, run (step (fun _ => zeroInt) bareSite) (init (fun _ => none) (fun _ => none) 60000)
        (oneRequest (@pollRateRequest _ (str "thing.service.sensorpollrate") (utf8_str rfl) (by decide))) =
          some final ∧
      Served (fun _ => zeroInt) bareSite (fun _ => none, 60000) final := by
  obtain ⟨final, reaches, finished, arrived⟩ := @run_pollRateRequest (fun _ => none) (fun _ => zeroInt) bareSite _
    (show Utf8 (str "thing.service.sensorpollrate") from utf8_str rfl) (by decide) (fun _ => none) 60000
  refine ⟨final, reaches, (replies_iff reaches finished).mpr ?_⟩
  rw [arrived, identifierAtAnEnd_pollRateRequest]
  have first : DecadaEmbedded.find (str "thing.service.sensorpollrate") identifier = some 0 := by decide
  intro found same
  rw [first] at same
  exact .inl (Option.some.inj same).symm

-- the erasure takes as many characters more as stand before the identifier
theorem replies_violated : ¬ ∀ (junk : Nat → CInt) (site : Site) (store : Store) (interval : Int)
    (actions : List (Action fun _ => none)) (final : State fun _ => none),
    run (step junk site) (init _ store interval) actions = some final → Finished final →
      Served junk site (store, interval) final := by
  intro always
  obtain ⟨final, reaches, finished, arrived⟩ := @run_pollRateRequest (fun _ => none) (fun _ => zeroInt) bareSite _
    (show Utf8 (str "a.thing.service.sensorpollrate") from utf8_str rfl) (by decide) (fun _ => none) 60000
  have served := always _ _ _ _ _ final reaches finished
  have ends := ((flow_run reaches).served_iff finished).mp served
  rw [arrived, identifierAtAnEnd_pollRateRequest] at ends
  have second : DecadaEmbedded.find (str "a.thing.service.sensorpollrate") identifier = some 2 := by
    decide +kernel
  exact absurd (ends 2 second) (by decide)

end DecadaEmbedded.ServiceRequests
