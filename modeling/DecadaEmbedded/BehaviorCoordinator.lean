import DecadaEmbedded.Conversions
import DecadaEmbedded.Library.Run
import DecadaEmbedded.SensorProfile

/-!
# `threads/behavior_coordinator_thread.cpp`

The coordinator together with the poll cycles of the sensor thread, which put any number of data
mails between their headers. The mailboxes are FIFO queues; `commsUpstream` keeps what is taken
from it. Waiting for `FLAG_MQTT_OK`, `stdio_mutex` and the watchdog are left out.
-/

namespace DecadaEmbedded.BehaviorCoordinator
open Library Conversions Json Json.Writer SensorProfile

structure LlpSensorMail where
  sensorType : Bytes
  value : Bytes
  rawTimeStamp : Int

/-- The entities and values of a poll cycle, in order. -/
abbrev Cycle := List (Bytes × Bytes)

inductive Place where
  | getting | sending

/-- `cycle` is the poll cycle under way, `cycles` those ended, `taken` the mails processed and `raised`
what has stopped the coordinator. -/
structure State where
  llpSensor : List LlpSensorMail
  cycle : Option Cycle
  cycles : List Cycle
  place : Place
  sensorsProfile : EntityValuePairs
  sendPackets : Bool
  commsUpstream : List Bytes
  taken : List LlpSensorMail
  raised : Option Raised

inductive Action where
  | putStart (rawTimeStamp : Int)
  | putData (sensorType value : Bytes) (rawTimeStamp : Int)
  | putEnd (rawTimeStamp : Int)
  | tryGet
  | checkSend (order : EntityValuePairs)

def init : State := ⟨[], none, [], .getting, ∅, false, [], [], none⟩

def State.put (state : State) (sensorType value : Bytes) (rawTimeStamp : Int) : State :=
  { state with
    llpSensor := state.llpSensor ++ [⟨stringToChar sensorType, stringToChar value, rawTimeStamp⟩] }

def receive (state : State) (llpMail : LlpSensorMail) : State :=
  let state := { state with taken := state.taken ++ [llpMail] }
  if llpMail.sensorType = str "header" then
    if llpMail.value = str "start" then
      { state with sensorsProfile := clearEntityList state.sensorsProfile }
    else { state with sendPackets := true }
  else
    { state with
      sensorsProfile :=
        updateValue llpMail.sensorType llpMail.value llpMail.rawTimeStamp state.sensorsProfile }

variable (format : DoubleFormat) (deviceUuid : Bytes)

def isNumeric (value : Bytes) : Bool := (stringToDouble format value).toOption.isSome

-- `order` is the order in which the profile iterates
def send (state : State) (order : EntityValuePairs) : State :=
  match getNewDecadaPacket format deviceUuid order with
  | .error raised => { state with raised := some raised }
  | .ok packet => { state with
      commsUpstream := state.commsUpstream ++ [stringToChar packet], sendPackets := false, place := .getting }

def step (state : State) : Action → Option State
  | .putStart rawTimeStamp =>
      match state.cycle with
      | none => some { state.put (str "header") (str "start") rawTimeStamp with cycle := some [] }
      | some _ => none
  | .putData sensorType value rawTimeStamp =>
      match state.cycle with
      | none => none
      | some cycle =>
          if stringToChar sensorType ≠ str "header" ∧ isNumeric format (stringToChar value) then
            some { state.put sensorType value rawTimeStamp with
              cycle := some (cycle ++ [(stringToChar sensorType, stringToChar value)]) }
          else none
  | .putEnd rawTimeStamp =>
      match state.cycle with
      | none => none
      | some cycle => some { state.put (str "header") (str "end") rawTimeStamp with
          cycle := none, cycles := state.cycles ++ [cycle] }
  | .tryGet =>
      match state.raised, state.place with
      | none, .getting =>
          match state.llpSensor with
          | [] => some { state with place := .sending }
          | llpMail :: llpSensor => some (receive { state with llpSensor, place := .sending } llpMail)
      | _, _ => none
  | .checkSend order =>
      match state.raised, state.place with
      | none, .sending =>
          if state.sendPackets then
            if order.entries.Perm state.sensorsProfile.entries then some (send format deviceUuid state order)
            else none
          else some { state with place := .getting }
      | _, _ => none

/-! ## Poll cycles in a stream of mails -/

/-- What a stream of mails says: the cycles it has ended and the data since the last start. -/
structure Batches where
  finished : List Cycle
  current : Cycle

def Batches.receive (batches : Batches) (llpMail : LlpSensorMail) : Batches :=
  if llpMail.sensorType = str "header" then
    if llpMail.value = str "start" then { batches with current := [] }
    else { batches with finished := batches.finished ++ [batches.current] }
  else { batches with current := batches.current ++ [(llpMail.sensorType, llpMail.value)] }

def batches (mails : List LlpSensorMail) : Batches := mails.foldl Batches.receive ⟨[], []⟩

theorem batches_concat (mails : List LlpSensorMail) (llpMail : LlpSensorMail) :
    batches (mails ++ [llpMail]) = (batches mails).receive llpMail := by
  rw [batches, List.foldl_concat, batches]

theorem Batches.finished_receive (batches : Batches) (llpMail : LlpSensorMail) :
    batches.finished <+: (batches.receive llpMail).finished := by
  unfold receive
  split_ifs
  · exact List.prefix_rfl
  · exact List.prefix_append _ _
  · exact List.prefix_rfl

theorem getElem?_of_prefix {cycles later : List Cycle} (earlier : cycles <+: later) {n : Nat} {cycle : Cycle}
    (ended : cycles[n]? = some cycle) : later[n]? = some cycle := by
  obtain ⟨rest, rfl⟩ := earlier
  rw [List.getElem?_append_left (List.getElem?_eq_some_iff.mp ended).1, ended]

theorem finished_append (mails later : List LlpSensorMail) :
    (batches mails).finished <+: (batches (mails ++ later)).finished := by
  induction later using List.reverseRecOn with
  | nil => rw [List.append_nil]
  | append_singleton later llpMail ih =>
      rw [← List.append_assoc, batches_concat]
      exact ih.trans (Batches.finished_receive _ llpMail)

def lastValue (cycle : Cycle) (name : Bytes) : Option Bytes := cycle.reverse.lookup name

@[simp] theorem lastValue_nil (name : Bytes) : lastValue [] name = none := rfl

theorem lastValue_concat (cycle : Cycle) (entity value name : Bytes) :
    lastValue (cycle ++ [(entity, value)]) name =
      if name = entity then some value else lastValue cycle name := by
  rw [lastValue, List.reverse_append, List.reverse_singleton, List.singleton_append, List.lookup_cons]
  by_cases same : name = entity
  · simp [same]
  · simp [same, beq_false_of_ne same, lastValue]

/-! ## The packets -/

/-- The packet has the last value of the cycle for each entity in it. -/
def Reports (cycle : Cycle) (payload : Bytes) : Prop :=
  ∃ measurePoints, PointsOf format (lastValue cycle) measurePoints ∧
    payload = writeValue (packet deviceUuid measurePoints)

/-- The coordinator goes on from every state: it takes the first mail that waits, if there is one, and
the check behind it puts the packet of the cycle that the mail has ended and no other. -/
structure Proceeds (state : State) : Prop where
  takes : state.place = .getting → ∃ next, step format deviceUuid state .tryGet = some next ∧
    next.place = .sending ∧ next.taken = state.taken ++ state.llpSensor.take 1 ∧
      next.llpSensor = state.llpSensor.drop 1
  checks : state.place = .sending → ∃ order next, step format deviceUuid state (.checkSend order) = some next
  sends : ∀ order next, step format deviceUuid state (.checkSend order) = some next →
    next.place = .getting ∧ next.commsUpstream.length = (batches state.taken).finished.length
  behind : (batches state.taken).finished.length ≤ state.commsUpstream.length + 1

structure Reported (state : State) : Prop where
  returned : state.raised = none
  packets : ∀ (n : Nat) (payload : Bytes), state.commsUpstream[n]? = some payload →
    ∃ cycle, state.cycles[n]? = some cycle ∧ Reports format deviceUuid cycle payload
  proceeds : Proceeds format deviceUuid state
  complete : state.llpSensor = [] → state.place = .getting →
    state.commsUpstream.length = state.cycles.length

def Sound (llpMail : LlpSensorMail) : Prop :=
  llpMail.sensorType ≠ str "header" → Numeric format llpMail.value

structure Inv (state : State) : Prop where
  returned : state.raised = none
  finished : (batches (state.taken ++ state.llpSensor)).finished = state.cycles
  current : ∀ cycle, state.cycle = some cycle →
    (batches (state.taken ++ state.llpSensor)).current = cycle
  sound : ∀ llpMail ∈ state.llpSensor, Sound format llpMail
  profile : valueOf state.sensorsProfile = lastValue (batches state.taken).current
  numeric : ∀ pair ∈ state.sensorsProfile.entries, Numeric format pair.2.1
  sent : (batches state.taken).finished.length =
    state.commsUpstream.length + if state.sendPackets then 1 else 0
  pending : state.sendPackets = true →
    (batches state.taken).finished.getLast? = some (batches state.taken).current
  place : state.place = .getting → state.sendPackets = false
  packets : ∀ (n : Nat) (payload : Bytes), state.commsUpstream[n]? = some payload →
    ∃ cycle, (batches state.taken).finished[n]? = some cycle ∧ Reports format deviceUuid cycle payload

theorem inv_init : Inv format deviceUuid init where
  returned := rfl
  finished := rfl
  current := by simp [init]
  sound := by simp [init]
  profile := rfl
  numeric := by simp [init]
  sent := rfl
  pending := by simp [init]
  place := fun _ => rfl
  packets := by simp [init]

variable {format deviceUuid} {state next : State}

/-! ## The sensor thread -/

theorem Inv.put (inv : Inv format deviceUuid state) (sensorType value : Bytes) (rawTimeStamp : Int)
    (sound : Sound format ⟨stringToChar sensorType, stringToChar value, rawTimeStamp⟩)
    {cycle : Option Cycle} {cycles : List Cycle}
    (finished : ((batches (state.taken ++ state.llpSensor)).receive
      ⟨stringToChar sensorType, stringToChar value, rawTimeStamp⟩).finished = cycles)
    (current : ∀ running, cycle = some running → ((batches (state.taken ++ state.llpSensor)).receive
      ⟨stringToChar sensorType, stringToChar value, rawTimeStamp⟩).current = running) :
    Inv format deviceUuid { state.put sensorType value rawTimeStamp with cycle, cycles } := by
  refine ⟨inv.returned, ?_, ?_, ?_, inv.profile, inv.numeric, inv.sent, inv.pending, inv.place, inv.packets⟩
  · simp only [State.put, ← List.append_assoc, batches_concat]
    exact finished
  · simp only [State.put, ← List.append_assoc, batches_concat]
    exact current
  · intro llpMail member
    rcases List.mem_append.mp member with member | member
    · exact inv.sound llpMail member
    · rw [List.mem_singleton.mp member]
      exact sound

theorem numeric_of_isNumeric {value : Bytes} (numeric : isNumeric format value = true) :
    Numeric format value := by
  unfold isNumeric at numeric
  cases read : stringToDouble format value with
  | ok valueFloat => exact ⟨valueFloat, read⟩
  | error raised =>
      rw [read] at numeric
      cases numeric

theorem stringToChar_header : stringToChar (str "header") = str "header" := by decide

theorem stringToChar_start : stringToChar (str "start") = str "start" := by decide

theorem Inv.putStart (inv : Inv format deviceUuid state) (rawTimeStamp : Int)
    (taken : step format deviceUuid state (.putStart rawTimeStamp) = some next) :
    Inv format deviceUuid next := by
  simp only [step] at taken
  split at taken
  · cases taken
    refine inv.put _ _ _ (fun other => absurd stringToChar_header other) ?_ ?_
    · simpa [State.put, Batches.receive, stringToChar_header, stringToChar_start] using inv.finished
    · simp [Batches.receive, stringToChar_header, stringToChar_start]
  · cases taken

theorem Inv.putData (inv : Inv format deviceUuid state) (sensorType value : Bytes) (rawTimeStamp : Int)
    (taken : step format deviceUuid state (.putData sensorType value rawTimeStamp) = some next) :
    Inv format deviceUuid next := by
  simp only [step] at taken
  split at taken
  · cases taken
  · rename_i cycle running
    split_ifs at taken with sent
    obtain ⟨entity, numeric⟩ := sent
    cases taken
    refine inv.put _ _ _ (fun _ => numeric_of_isNumeric numeric) ?_ ?_
    · simpa [State.put, Batches.receive, entity] using inv.finished
    · simp [Batches.receive, entity, inv.current cycle running]

theorem Inv.putEnd (inv : Inv format deviceUuid state) (rawTimeStamp : Int)
    (taken : step format deviceUuid state (.putEnd rawTimeStamp) = some next) :
    Inv format deviceUuid next := by
  simp only [step] at taken
  split at taken
  · cases taken
  · rename_i cycle running
    cases taken
    have other : stringToChar (str "end") ≠ str "start" := by decide
    refine inv.put _ _ _ (fun other => absurd stringToChar_header other) ?_ ?_
    · simp [Batches.receive, stringToChar_header, other, inv.current cycle running, inv.finished]
    · simp

/-! ## The coordinator -/

theorem numeric_updateValue {entityName value : Bytes} {timeStamp : Int} {pairs : EntityValuePairs}
    (numeric : ∀ pair ∈ pairs.entries, Numeric format pair.2.1) (new : Numeric format value) :
    ∀ pair ∈ (updateValue entityName value timeStamp pairs).entries, Numeric format pair.2.1 := by
  intro pair member
  rw [updateValue, AList.entries_insert] at member
  rcases List.mem_cons.mp member with rfl | member
  · exact new
  · exact numeric pair ((List.kerase_sublist entityName pairs.entries).subset member)

theorem Inv.receive {llpMail : LlpSensorMail} {llpSensor : List LlpSensorMail}
    (inv : Inv format deviceUuid state) (waiting : state.llpSensor = llpMail :: llpSensor)
    (getting : state.place = .getting) :
    Inv format deviceUuid
      (BehaviorCoordinator.receive { state with llpSensor, place := .sending } llpMail) := by
  have moved : state.taken ++ [llpMail] ++ llpSensor = state.taken ++ state.llpSensor := by
    rw [waiting, List.append_assoc, List.singleton_append]
  have idle := inv.place getting
  have finished := inv.finished
  have current := inv.current
  have profile := inv.profile
  have sent := inv.sent
  rw [← moved] at finished current
  rw [idle] at sent
  have sound : ∀ other ∈ llpSensor, Sound format other := by
    intro other member
    exact inv.sound other (by rw [waiting]; exact List.mem_cons_of_mem llpMail member)
  have packets : ∀ (n : Nat) (payload : Bytes), state.commsUpstream[n]? = some payload →
      ∃ cycle, (batches (state.taken ++ [llpMail])).finished[n]? = some cycle ∧
        Reports format deviceUuid cycle payload := by
    intro n payload put
    obtain ⟨cycle, ended, reports⟩ := inv.packets n payload put
    exact ⟨cycle, getElem?_of_prefix (finished_append state.taken [llpMail]) ended, reports⟩
  unfold BehaviorCoordinator.receive
  dsimp only
  split_ifs with header start
  · refine ⟨inv.returned, finished, current, sound, ?_, ?_, ?_, ?_, by simp, packets⟩
    · funext name
      simp [batches_concat, Batches.receive, header, start]
    · simp [clearEntityList]
    · simpa [batches_concat, Batches.receive, header, start, idle] using sent
    · simp [idle]
  · refine ⟨inv.returned, finished, current, sound, ?_, inv.numeric, ?_, ?_, by simp, packets⟩
    · simpa [batches_concat, Batches.receive, header, start] using profile
    · simp [batches_concat, Batches.receive, header, start, sent]
    · simp [batches_concat, Batches.receive, header, start]
  · refine ⟨inv.returned, finished, current, sound, ?_, ?_, ?_, ?_, by simp, packets⟩
    · funext name
      rw [valueOf_updateValue, profile]
      simp [batches_concat, Batches.receive, header, lastValue_concat]
    · exact numeric_updateValue inv.numeric (inv.sound llpMail (by simp [waiting]) header)
    · simpa [batches_concat, Batches.receive, header, idle] using sent
    · simp [idle]

theorem Inv.tryGet (inv : Inv format deviceUuid state)
    (taken : step format deviceUuid state .tryGet = some next) : Inv format deviceUuid next := by
  simp only [step] at taken
  split at taken
  · rename_i getting
    split at taken
    · cases taken
      exact ⟨inv.returned, inv.finished, inv.current, inv.sound, inv.profile, inv.numeric, inv.sent,
        inv.pending, by simp, inv.packets⟩
    · rename_i llpMail llpSensor waiting
      cases taken
      exact inv.receive waiting getting
  · cases taken

theorem Inv.send (inv : Inv format deviceUuid state) (sending : state.sendPackets = true)
    {order : EntityValuePairs} (iterated : order.entries.Perm state.sensorsProfile.entries) :
    Inv format deviceUuid (BehaviorCoordinator.send format deviceUuid state order) := by
  obtain ⟨measurePoints, points, created⟩ := createDecadaPacket_eq deviceUuid
    (fun pair member => inv.numeric pair (iterated.mem_iff.mp member))
  have nulFree : 0 ∉ writeValue (packet deviceUuid measurePoints) :=
    nulFree_writeValue (printed_packet deviceUuid points.printed)
  rw [valueOf_eq_of_perm iterated, inv.profile] at points
  have sent := inv.sent
  rw [sending] at sent
  have last : (batches state.taken).finished[state.commsUpstream.length]? =
      some (batches state.taken).current := by
    rw [← inv.pending sending, List.getLast?_eq_getElem?, sent]
    rfl
  unfold BehaviorCoordinator.send
  rw [getNewDecadaPacket, created]
  dsimp only
  rw [show stringToChar (writeValue (packet deviceUuid measurePoints)) =
    writeValue (packet deviceUuid measurePoints) from cstr_of_nulFree nulFree]
  refine ⟨inv.returned, inv.finished, inv.current, inv.sound, inv.profile, inv.numeric, ?_, by simp,
    fun _ => rfl, ?_⟩
  · simpa using sent
  · intro n payload put
    rcases Nat.lt_or_ge n state.commsUpstream.length with earlier | later
    · rw [List.getElem?_append_left earlier] at put
      exact inv.packets n payload put
    · rw [List.getElem?_append_right later] at put
      rw [List.getElem?_singleton] at put
      split_ifs at put with offset
      have here : n = state.commsUpstream.length := by omega
      rw [here, ← Option.some.inj put]
      exact ⟨_, last, measurePoints, points, rfl⟩

theorem inv_step (action : Action) (inv : Inv format deviceUuid state)
    (taken : step format deviceUuid state action = some next) : Inv format deviceUuid next := by
  cases action with
  | putStart rawTimeStamp => exact inv.putStart rawTimeStamp taken
  | putData sensorType value rawTimeStamp => exact inv.putData sensorType value rawTimeStamp taken
  | putEnd rawTimeStamp => exact inv.putEnd rawTimeStamp taken
  | tryGet => exact inv.tryGet taken
  | checkSend order =>
      simp only [step] at taken
      split at taken
      · split_ifs at taken with sending iterated
        · cases taken
          exact inv.send sending iterated
        · cases taken
          exact ⟨inv.returned, inv.finished, inv.current, inv.sound, inv.profile, inv.numeric, inv.sent,
            inv.pending, fun _ => by simpa using sending, inv.packets⟩
      · cases taken

/-! ## What the coordinator has put -/

theorem Inv.takes (inv : Inv format deviceUuid state) (getting : state.place = .getting) :
    ∃ next, step format deviceUuid state .tryGet = some next ∧ next.place = .sending ∧
      next.taken = state.taken ++ state.llpSensor.take 1 ∧ next.llpSensor = state.llpSensor.drop 1 := by
  simp only [step, inv.returned, getting]
  cases state.llpSensor with
  | nil => exact ⟨_, rfl, rfl, (List.append_nil _).symm, rfl⟩
  | cons llpMail llpSensor =>
      refine ⟨_, rfl, ?_⟩
      unfold BehaviorCoordinator.receive
      dsimp only
      split_ifs <;> exact ⟨rfl, rfl, rfl⟩

theorem Inv.checks (inv : Inv format deviceUuid state) (checking : state.place = .sending) :
    ∃ order next, step format deviceUuid state (.checkSend order) = some next := by
  refine ⟨state.sensorsProfile, ?_⟩
  simp only [step, inv.returned, checking, List.Perm.refl, ↓reduceIte]
  split_ifs <;> exact ⟨_, rfl⟩

theorem Inv.sends (inv : Inv format deviceUuid state) {order : EntityValuePairs}
    (taken : step format deviceUuid state (.checkSend order) = some next) :
    next.place = .getting ∧ next.commsUpstream.length = (batches state.taken).finished.length := by
  have sent := inv.sent
  simp only [step] at taken
  split at taken
  · split_ifs at taken with sending iterated
    · cases taken
      obtain ⟨measurePoints, -, created⟩ := createDecadaPacket_eq deviceUuid
        (fun pair member => inv.numeric pair (iterated.mem_iff.mp member))
      simp only [BehaviorCoordinator.send, getNewDecadaPacket, created]
      refine ⟨trivial, ?_⟩
      rw [List.length_append, sent, if_pos sending, List.length_singleton]
    · cases taken
      exact ⟨rfl, by rw [sent, if_neg sending, Nat.add_zero]⟩
  · cases taken

theorem Inv.reported (inv : Inv format deviceUuid state) : Reported format deviceUuid state where
  returned := inv.returned
  packets := by
    intro n payload put
    obtain ⟨cycle, ended, reports⟩ := inv.packets n payload put
    refine ⟨cycle, ?_, reports⟩
    rw [← inv.finished]
    exact getElem?_of_prefix (finished_append state.taken state.llpSensor) ended
  proceeds := by
    refine ⟨inv.takes, inv.checks, fun order next taken => inv.sends taken, ?_⟩
    rw [inv.sent]
    split_ifs <;> omega
  complete := by
    intro empty getting
    have finished := inv.finished
    have sent := inv.sent
    rw [empty, List.append_nil] at finished
    rw [finished, inv.place getting] at sent
    simpa using sent.symm

variable (format deviceUuid) in
/-- In every interleaving the n-th packet reports the n-th poll cycle, and whenever the coordinator has
taken the end of a cycle its next check puts the packet. -/
theorem packets_report (actions : List Action) :
    EveryState (step format deviceUuid) (Reported format deviceUuid) init actions := by
  have always : EveryStep (step format deviceUuid) (fun _ _ => True) init actions :=
    fun _ _ _ _ _ _ _ => trivial
  exact (everyState_of_everyStep (fun _ action _ inv _ taken => inv_step action inv taken)
    (inv_init format deviceUuid) always).mono fun _ inv => inv.reported

end DecadaEmbedded.BehaviorCoordinator
