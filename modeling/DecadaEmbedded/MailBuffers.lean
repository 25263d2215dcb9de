import DecadaEmbedded.Library.Ledger
import DecadaEmbedded.SensorControl
import DecadaEmbedded.TraceManager

/-!
# The `StringToChar` buffers of the five mailboxes

Each thread of the firmware is the list of mailbox and heap operations it has still to do; the
threads interleave at these. A mail is written into its slot when it is put. What a profile makes
a packet of is left out, so the text of a packet comes with the coordinator's iteration.
-/

namespace DecadaEmbedded.MailBuffers
open Library Conversions

inductive Box where
  | llpSensor | commsUpstream | serviceResponse | mqttArrived | sensorControl
deriving DecidableEq, Repr

def Box.capacity : Box → Nat
  | .llpSensor | .commsUpstream | .serviceResponse => 256
  | .mqttArrived => 128
  | .sensorControl => 64

/-- How many `char*` fields a mail of the box has. -/
def Box.strings : Box → Nat
  | .llpSensor => 2
  | .commsUpstream => 1
  | .serviceResponse => 2
  | .mqttArrived => 4
  | .sensorControl => 3

/-- The buffers in the `char*` fields, in order, and the int field of a `sensor_control_mail_t`. -/
structure Message where
  strings : List Nat
  number : Int

def zeroMessage : Message := ⟨[], 0⟩

abbrev Buffers := Heap Bytes

def Message.text (message : Message) (heap : Buffers) (field : Nat) : Bytes :=
  heap.contents (message.strings.getD field 0)

inductive Consumer where
  | coordinator (packet : Bytes)
  | upstream
  | serviceResponse
  | eventManager (junk : CInt)
  | sensorControl

def Consumer.box : Consumer → Box
  | .coordinator _ => .llpSensor
  | .upstream => .commsUpstream
  | .serviceResponse => .serviceResponse
  | .eventManager _ => .mqttArrived
  | .sensorControl => .sensorControl

/-- `calloc` tries until a slot is free, `fill` stores `StringToChar` of a text in the next field and
`acknowledge` is the first of the two frees of an accepted command's slot. -/
inductive Op where
  | calloc (box : Box)
  | fill (text : Bytes)
  | number (value : Int)
  | put
  | tryGet (consumer : Consumer)
  | free (buffer : Nat)
  | release (box : Box) (slot : Nat)
  | acknowledge (slot : Nat)

def putStrings (box : Box) (texts : List Bytes) : List Op := .calloc box :: texts.map .fill ++ [.put]

def distributeControlMessage (param : Bytes) (value : Int) (msgId endpointId : Bytes) : List Op :=
  if SensorControl.isSensorParam param then
    [.calloc .sensorControl, .fill param, .number value, .fill msgId, .fill endpointId, .put]
  else []

def decadaServiceResponse (serviceId msgId msg : Bytes) : List Op :=
  let snon := (TraceManager.createDecadaResponse msg msgId).toOption.getD []
  putStrings .serviceResponse [snon, serviceId]

def Consumer.ops (consumer : Consumer) (heap : Buffers) (slot : Nat) (mail : Message) : List Op :=
  match consumer with
  | .coordinator packet =>
      let sendPackets := mail.text heap 0 = str "header" ∧ mail.text heap 1 ≠ str "start"
      mail.strings.map .free ++ [.release .llpSensor slot] ++
        if sendPackets then putStrings .commsUpstream [packet] else []
  | .upstream => mail.strings.map .free ++ [.release .commsUpstream slot]
  | .serviceResponse => mail.strings.map .free ++ [.release .serviceResponse slot]
  | .eventManager junk =>
      let intValue := stringToInt junk (mail.text heap 3)
      -- endpoint_id, msg_id and param; the value is not freed
      (mail.strings.take 3).map .free ++
        distributeControlMessage (mail.text heap 2) intValue (mail.text heap 1) (mail.text heap 0) ++
          [.release .mqttArrived slot]
  | .sensorControl =>
      let control : SensorControl.SensorControlMail :=
        ⟨mail.text heap 0, mail.number, mail.text heap 1, mail.text heap 2⟩
      mail.strings.map .free ++
        (if SensorControl.accepted control then
          decadaServiceResponse control.endpointId control.msgId TraceManager.pollRateUpdate ++
            [.acknowledge slot]
        else []) ++ [.release .sensorControl slot]

inductive Thread where
  | sensor | coordinator | comms | eventManager | subscription
deriving DecidableEq, Repr

structure Filling where
  box : Box
  slot : Nat
  mail : Message

/-- `unfreed` are the buffers of the mail that its thread has not freed; `returned` lies between the
two frees of a slot. -/
inductive Processing where
  | nothing
  | mail (box : Box) (slot : Nat) (unfreed : List Nat)
  | returned (slot : Nat)

structure ThreadState where
  ops : List Op
  filling : Option Filling
  processing : Processing

structure State where
  heap : Buffers
  boxes : Box → Mail Message
  threads : Thread → ThreadState

def init : State where
  heap := .empty []
  boxes box := Mail.init box.capacity zeroMessage
  threads _ := ⟨[], none, .nothing⟩

/-- One turn of a thread's loop: the sensor thread with the readings of a poll, if it polls, and the
subscription manager with the mails that the callback makes of what `yield` delivers. -/
inductive Turn where
  | sensor (readings : Option (List (Bytes × Bytes)))
  | coordinator (packet : Bytes)
  | comms
  | eventManager (junk : CInt)
  | subscription

def Turn.thread : Turn → Thread
  | .sensor _ => .sensor
  | .coordinator _ => .coordinator
  | .comms => .comms
  | .eventManager _ => .eventManager
  | .subscription => .subscription

def poll (readings : List (Bytes × Bytes)) : List Op :=
  putStrings .llpSensor [str "header", str "start"] ++
    (readings.flatMap fun (sensorType, value) => putStrings .llpSensor [sensorType, value]) ++
      putStrings .llpSensor [str "header", str "end"]

def Turn.ops : Turn → List Op
  | .sensor none => [.tryGet .sensorControl]
  | .sensor (some readings) => poll readings ++ [.tryGet .sensorControl]
  | .coordinator packet => [.tryGet (.coordinator packet)]
  | .comms => [.tryGet .upstream, .tryGet .serviceResponse]
  | .eventManager junk => [.tryGet (.eventManager junk)]
  | .subscription => []

structure ArrivedParam where
  endpointId : Bytes
  msgId : Bytes
  param : Bytes
  value : Bytes

def subscriptionMessageArrivalCallback (params : List ArrivedParam) : List Op :=
  params.flatMap fun param =>
    putStrings .mqttArrived [param.endpointId, param.msgId, param.param, param.value]

/-- The callback runs on a thread that uses the MQTT client. -/
inductive Action where
  | turn (turn : Turn)
  | arrive (onComms : Bool) (params : List ArrivedParam)
  | advance (thread : Thread)

def State.set (state : State) (thread : Thread) (holding : ThreadState) : State :=
  { state with threads := Function.update state.threads thread holding }

def State.setBox (state : State) (box : Box) (mail : Mail Message) : State :=
  { state with boxes := Function.update state.boxes box mail }

def execute (state : State) (thread : Thread) (holding : ThreadState) : Op → Option State
  | .calloc box =>
      match (state.boxes box).tryCalloc zeroMessage with
      | none => some state
      | some (slot, mail) =>
          some ((state.setBox box mail).set thread { holding with filling := some ⟨box, slot, zeroMessage⟩ })
  | .fill text =>
      holding.filling.map fun filling =>
        let mail := { filling.mail with strings := filling.mail.strings ++ [state.heap.next] }
        { state with heap := state.heap.malloc (stringToChar text) }.set thread
          { holding with filling := some { filling with mail } }
  | .number number =>
      holding.filling.map fun filling =>
        state.set thread { holding with filling := some { filling with mail := { filling.mail with number } } }
  | .put =>
      holding.filling.map fun filling =>
        let mail := ((state.boxes filling.box).write filling.slot filling.mail).put filling.slot
        (state.setBox filling.box mail).set thread { holding with filling := none }
  | .tryGet consumer =>
      match (state.boxes consumer.box).tryGet with
      | none => some (state.set thread holding)
      | some (slot, mail) =>
          let message := mail.memory slot
          some ((state.setBox consumer.box mail).set thread { holding with
            ops := consumer.ops state.heap slot message ++ holding.ops
            processing := .mail consumer.box slot message.strings })
  | .free buffer =>
      match holding.processing with
      | .mail box slot unfreed =>
          some ({ state with heap := state.heap.free buffer }.set thread
            { holding with processing := .mail box slot (unfreed.erase buffer) })
      | _ => none
  | .release box slot =>
      some ((state.setBox box ((state.boxes box).release slot)).set thread
        { holding with processing := .nothing })
  | .acknowledge slot =>
      some ((state.setBox .sensorControl ((state.boxes .sensorControl).release slot)).set thread
        { holding with processing := .returned slot })

def step (state : State) : Action → Option State
  | .turn turn =>
      let holding := state.threads turn.thread
      match holding.ops with
      | [] => some (state.set turn.thread { holding with ops := turn.ops })
      | _ => none
  | .arrive onComms params =>
      let thread := if onComms then .comms else .subscription
      let holding := state.threads thread
      match holding.filling with
      | none => some (state.set thread
          { holding with ops := subscriptionMessageArrivalCallback params ++ holding.ops })
      | some _ => none
  | .advance thread =>
      let holding := state.threads thread
      match holding.ops with
      | [] => none
      | op :: ops => execute state thread { holding with ops } op

/-! ## What the buffers are referenced by -/

def Box.all : List Box := [.llpSensor, .commsUpstream, .serviceResponse, .mqttArrived, .sensorControl]

def Thread.all : List Thread := [.sensor, .coordinator, .comms, .eventManager, .subscription]

theorem Box.mem_all (box : Box) : box ∈ all := by cases box <;> decide

theorem Thread.mem_all (thread : Thread) : thread ∈ all := by cases thread <;> decide

def strings (mail : Mail Message) : List Nat := mail.queued.flatMap Message.strings

def Processing.references : Processing → List Nat
  | .mail _ _ unfreed => unfreed
  | _ => []

def ThreadState.references (holding : ThreadState) : List Nat :=
  (holding.filling.map fun filling => filling.mail.strings).getD [] ++ holding.processing.references

def State.referenced (state : State) : List Nat :=
  (Box.all.flatMap fun box => strings (state.boxes box)) ++
    Thread.all.flatMap fun thread => (state.threads thread).references

structure Exact (state : State) : Prop where
  accounted : state.heap.Accounted state.referenced
  bounded : state.heap.live.length ≤ 1984

/-- The step does not end the processing of an `mqtt_arrived_mail_t`. -/
def KeepsArrived (state : State) : Action → Prop
  | .advance thread => ∀ slot ops, (state.threads thread).ops ≠ .release .mqttArrived slot :: ops
  | _ => True

def Processing.held (processing : Processing) (box : Box) : List Nat :=
  match processing with
  | .mail box' slot _ => if box' = box then [slot] else []
  | _ => []

def ThreadState.held (holding : ThreadState) (box : Box) : List Nat :=
  (match holding.filling with
    | some filling => if filling.box = box then [filling.slot] else []
    | none => []) ++ holding.processing.held box

def State.held (state : State) (box : Box) : List Nat :=
  Thread.all.flatMap fun thread => (state.threads thread).held box

def State.update (state : State) (heap : Buffers) (box : Box) (mail : Mail Message) (thread : Thread)
    (holding : ThreadState) : State where
  heap := heap
  boxes := Function.update state.boxes box mail
  threads := Function.update state.threads thread holding

variable {state next : State}

theorem referenced_update (heap : Buffers) {box : Box} {mail : Mail Message} {thread : Thread}
    {holding : ThreadState} {added removed : List Nat}
    (balance : (added ++ (strings (state.boxes box) ++ (state.threads thread).references)).Perm
      (removed ++ (strings mail ++ holding.references))) :
    (added ++ state.referenced).Perm
      (removed ++ (state.update heap box mail thread holding).referenced) := by
  apply List.perm_iff_count.mpr
  intro buffer
  have boxes := sum_map_update (by decide) (Box.mem_all box)
    (fun _ mail => (strings mail).count buffer) state.boxes mail
  have threads := sum_map_update (by decide) (Thread.mem_all thread)
    (fun _ holding => holding.references.count buffer) state.threads holding
  have parts := balance.count_eq buffer
  simp only [List.count_append] at parts
  simp only [State.referenced, State.update, List.count_append, List.count_flatMap, Function.comp_def]
  omega

theorem held_update (heap : Buffers) (other : Box) (mail : Mail Message) (box : Box) {thread : Thread}
    {holding : ThreadState} {added removed : List Nat}
    (balance : (added ++ (state.threads thread).held box).Perm (removed ++ holding.held box)) :
    (added ++ state.held box).Perm
      (removed ++ (state.update heap other mail thread holding).held box) := by
  apply List.perm_iff_count.mpr
  intro slot
  have threads := sum_map_update (by decide) (Thread.mem_all thread)
    (fun _ holding => (holding.held box).count slot) state.threads holding
  have parts := balance.count_eq slot
  simp only [List.count_append] at parts
  simp only [State.held, State.update, List.count_append, List.count_flatMap, Function.comp_def]
  omega

/-! ## Programs that fit what a thread holds -/

def Consumer.thread : Consumer → Thread
  | .coordinator _ => .coordinator
  | .upstream | .serviceResponse => .comms
  | .eventManager _ => .eventManager
  | .sensorControl => .sensor

/-- The operations of `thread` fit a mail being filled, with its number of strings so far, and a mail
being processed, up to where the event manager ends one. -/
def Fits (thread : Thread) : List Op → Option (Box × Nat) → Processing → Prop
  | [], filling, processing => filling = none ∧ processing = .nothing
  | .calloc box :: ops, filling, processing =>
      filling = none ∧ Fits thread ops (some (box, 0)) processing
  | .fill _ :: ops, filling, processing =>
      ∃ box count, filling = some (box, count) ∧ count < box.strings ∧
        Fits thread ops (some (box, count + 1)) processing
  | .number _ :: ops, filling, processing => filling ≠ none ∧ Fits thread ops filling processing
  | .put :: ops, filling, processing =>
      ∃ box, filling = some (box, box.strings) ∧ Fits thread ops none processing
  | .tryGet consumer :: ops, filling, processing =>
      consumer.thread = thread ∧ filling = none ∧ processing = .nothing ∧ Fits thread ops none .nothing
  | .free buffer :: ops, filling, processing =>
      ∃ box slot unfreed, processing = .mail box slot (buffer :: unfreed) ∧
        Fits thread ops filling (.mail box slot unfreed)
  | .release box slot :: ops, filling, processing =>
      if box = .mqttArrived then ∃ unfreed, processing = .mail .mqttArrived slot unfreed ∧ unfreed ≠ []
      else (processing = .mail box slot [] ∨ processing = .returned slot ∧ box = .sensorControl) ∧
        Fits thread ops filling .nothing
  | .acknowledge slot :: ops, filling, processing =>
      processing = .mail .sensorControl slot [] ∧ Fits thread ops filling (.returned slot)

variable {thread : Thread} {ops : List Op} {filling : Option (Box × Nat)} {processing : Processing}

theorem fits_fills {box : Box} {texts : List Bytes} {count : Nat} (all : count + texts.length = box.strings)
    (fits : Fits thread ops none processing) :
    Fits thread (texts.map .fill ++ .put :: ops) (some (box, count)) processing := by
  induction texts generalizing count with
  | nil => exact ⟨box, by simp [← all], fits⟩
  | cons text texts ih =>
      rw [List.length_cons] at all
      exact ⟨box, count, rfl, by omega, ih (by omega)⟩

theorem fits_putStrings {box : Box} {texts : List Bytes} (all : texts.length = box.strings)
    (fits : Fits thread ops none processing) : Fits thread (putStrings box texts ++ ops) none processing := by
  simp only [putStrings, List.append_assoc, List.cons_append, List.nil_append]
  exact ⟨rfl, fits_fills (by omega) fits⟩

theorem fits_frees {box : Box} {slot : Nat} {freed unfreed : List Nat}
    (fits : Fits thread ops filling (.mail box slot unfreed)) :
    Fits thread (freed.map .free ++ ops) filling (.mail box slot (freed ++ unfreed)) := by
  induction freed with
  | nil => exact fits
  | cons buffer freed ih => exact ⟨box, slot, freed ++ unfreed, rfl, ih⟩

theorem fits_callback (params : List ArrivedParam) (fits : Fits thread ops none processing) :
    Fits thread (subscriptionMessageArrivalCallback params ++ ops) none processing := by
  induction params with
  | nil => exact fits
  | cons param params ih =>
      rw [subscriptionMessageArrivalCallback, List.flatMap_cons, List.append_assoc]
      exact fits_putStrings rfl ih

theorem fits_poll (readings : List (Bytes × Bytes)) (fits : Fits thread ops none processing) :
    Fits thread (poll readings ++ ops) none processing := by
  have last := @fits_putStrings thread ops processing .llpSensor [str "header", str "end"] rfl fits
  simp only [poll, List.append_assoc]
  apply fits_putStrings rfl
  induction readings with
  | nil => exact last
  | cons reading readings ih =>
      rw [List.flatMap_cons, List.append_assoc]
      exact fits_putStrings rfl ih

theorem fits_distribute (param : Bytes) (value : Int) (msgId endpointId : Bytes)
    (fits : Fits thread ops none processing) :
    Fits thread (distributeControlMessage param value msgId endpointId ++ ops) none processing := by
  unfold distributeControlMessage
  split_ifs
  · exact ⟨rfl, .sensorControl, 0, rfl, by decide, by simp, .sensorControl, 1, rfl, by decide,
      .sensorControl, 2, rfl, by decide, .sensorControl, rfl, fits⟩
  · exact fits

theorem fits_turn (turn : Turn) : Fits turn.thread turn.ops none .nothing := by
  cases turn with
  | sensor readings =>
      cases readings with
      | none => exact ⟨rfl, rfl, rfl, rfl, rfl⟩
      | some readings => exact fits_poll readings ⟨rfl, rfl, rfl, rfl, rfl⟩
  | coordinator packet => exact ⟨rfl, rfl, rfl, rfl, rfl⟩
  | comms => exact ⟨rfl, rfl, rfl, rfl, rfl, rfl, rfl, rfl⟩
  | eventManager junk => exact ⟨rfl, rfl, rfl, rfl, rfl⟩
  | subscription => exact ⟨rfl, rfl⟩

theorem fits_consumer (consumer : Consumer) (heap : Buffers) (slot : Nat) {mail : Message}
    (full : mail.strings.length = consumer.box.strings) (fits : Fits consumer.thread ops none .nothing) :
    Fits consumer.thread (consumer.ops heap slot mail ++ ops) none
      (.mail consumer.box slot mail.strings) := by
  have freed {ops : List Op} (fits : Fits consumer.thread ops none (.mail consumer.box slot [])) :
      Fits consumer.thread (mail.strings.map .free ++ ops) none (.mail consumer.box slot mail.strings) := by
    simpa using @fits_frees consumer.thread ops none consumer.box slot mail.strings [] fits
  cases consumer with
  | coordinator packet =>
      simp only [Consumer.ops, List.append_assoc]
      refine freed ⟨.inl rfl, ?_⟩
      split_ifs
      · exact fits_putStrings rfl fits
      · exact fits
  | upstream =>
      simp only [Consumer.ops, List.append_assoc]
      exact freed ⟨.inl rfl, fits⟩
  | serviceResponse =>
      simp only [Consumer.ops, List.append_assoc]
      exact freed ⟨.inl rfl, fits⟩
  | eventManager junk =>
      have left : mail.strings.drop 3 ≠ [] := by
        intro empty
        have length := congrArg List.length empty
        rw [List.length_drop, full] at length
        cases length
      have ended : Fits .eventManager (.release .mqttArrived slot :: ops) none
          (.mail .mqttArrived slot (mail.strings.drop 3)) := ⟨_, rfl, left⟩
      have taken := @fits_frees .eventManager _ none .mqttArrived slot (mail.strings.take 3) _
        (fits_distribute (mail.text heap 2) (stringToInt junk (mail.text heap 3)) (mail.text heap 1)
          (mail.text heap 0) ended)
      rw [List.take_append_drop] at taken
      simp only [Consumer.ops, List.append_assoc]
      exact taken
  | sensorControl =>
      simp only [Consumer.ops, List.append_assoc]
      apply freed
      split_ifs
      · simp only [decadaServiceResponse, List.append_assoc]
        exact fits_putStrings rfl ⟨rfl, .inr ⟨rfl, rfl⟩, fits⟩
      · exact ⟨.inl rfl, fits⟩

/-! ## The invariant -/

def Op.isControlCalloc : Op → Bool
  | .calloc box => box = .sensorControl
  | _ => false

def Processing.returning : Processing → Nat
  | .returned _ => 1
  | _ => 0

def Processing.arrived : Processing → Nat
  | .mail box _ _ => if box = .mqttArrived then 1 else 0
  | _ => 0

def ThreadState.pendingControl (holding : ThreadState) : Nat :=
  holding.ops.countP Op.isControlCalloc + holding.processing.returning

def ThreadState.arrived (holding : ThreadState) : Nat := holding.processing.arrived

def controlUsed (box : Box) (mail : Mail Message) : Nat := if box = .sensorControl then mail.used else 0

/-- The slots of the `sensor_control` mailbox in use, those still to be allocated and those to be freed
again. -/
def State.control (state : State) : Nat :=
  (Box.all.map fun box => controlUsed box (state.boxes box)).sum +
    (Thread.all.map fun thread => (state.threads thread).pendingControl).sum

def State.arrived (state : State) : Nat := (Thread.all.map fun thread => (state.threads thread).arrived).sum

structure ThreadState.Small (holding : ThreadState) : Prop where
  filling : ∀ filling, holding.filling = some filling → filling.mail.strings.length ≤ filling.box.strings
  processing : ∀ box slot unfreed, holding.processing = .mail box slot unfreed →
    unfreed.length ≤ box.strings

def Filling.filled (filling : Filling) : Box × Nat := (filling.box, filling.mail.strings.length)

def ThreadState.Fits (holding : ThreadState) (thread : Thread) : Prop :=
  MailBuffers.Fits thread holding.ops (holding.filling.map Filling.filled) holding.processing

structure Inv (state : State) : Prop where
  accounted : state.heap.Accounted state.referenced
  owns : ∀ box, (state.boxes box).Owns box.capacity (state.held box)
  full : ∀ box, ∀ mail ∈ (state.boxes box).queued, mail.strings.length = box.strings
  small : ∀ thread, (state.threads thread).Small
  fits : ∀ thread, (state.threads thread).Fits thread
  manager : ∀ thread, thread ≠ .eventManager → (state.threads thread).arrived = 0
  control : state.control ≤ state.arrived

theorem inv_init : Inv init where
  accounted := Heap.accounted_empty []
  owns box := by cases box <;> exact Mail.owns_init _ zeroMessage
  full box := by simp [init, Mail.init, Mail.queued]
  small thread := ⟨by simp [init], by simp [init]⟩
  fits thread := ⟨rfl, rfl⟩
  manager thread _ := rfl
  control := Nat.le_refl 0

theorem Inv.control_le_one (inv : Inv state) : state.control ≤ 1 := by
  have control := inv.control
  have manager : (state.threads .eventManager).arrived ≤ 1 := by
    unfold ThreadState.arrived Processing.arrived
    split
    · split_ifs <;> omega
    · omega
  simp only [State.arrived, Thread.all, List.map_cons, List.map_nil, List.sum_cons, List.sum_nil,
    inv.manager .sensor (by decide), inv.manager .coordinator (by decide),
    inv.manager .comms (by decide), inv.manager .subscription (by decide)] at control
  omega

theorem le_control (state : State) (thread : Thread) :
    (state.boxes .sensorControl).used + (state.threads thread).pendingControl ≤ state.control := by
  simp only [State.control, Box.all, Thread.all, controlUsed, List.map_cons, List.map_nil, List.sum_cons,
    List.sum_nil, reduceCtorEq, ↓reduceIte]
  cases thread <;> omega

theorem Inv.update (inv : Inv state) {heap : Buffers} {box : Box} {mail : Mail Message} {thread : Thread}
    {holding : ThreadState}
    (accounted : heap.Accounted (state.update heap box mail thread holding).referenced)
    (owns : mail.Owns box.capacity ((state.update heap box mail thread holding).held box))
    (others : ∀ other, other ≠ box → ((state.threads thread).held other).Perm (holding.held other))
    (full : ∀ message ∈ mail.queued, message.strings.length = box.strings)
    (small : holding.Small) (fits : holding.Fits thread)
    (manager : thread ≠ .eventManager → holding.arrived = 0)
    (control : controlUsed box mail + holding.pendingControl + (state.threads thread).arrived ≤
      controlUsed box (state.boxes box) + (state.threads thread).pendingControl + holding.arrived) :
    Inv (state.update heap box mail thread holding) := by
  refine ⟨accounted, fun other => ?_, fun other => ?_, fun other => ?_, fun other => ?_, fun other => ?_, ?_⟩
  · by_cases same : other = box
    · subst same
      simpa only [State.update, Function.update_self] using owns
    · have frame := @held_update state heap box mail other thread holding [] [] (by simpa using others other same)
      have kept : (state.update heap box mail thread holding).boxes other = state.boxes other := by
        simp only [State.update, Function.update_of_ne same]
      rw [kept]
      exact (inv.owns other).of_perm (by simpa using frame)
  · by_cases same : other = box
    · subst same
      simpa only [State.update, Function.update_self] using full
    · simpa only [State.update, Function.update_of_ne same] using inv.full other
  · by_cases same : other = thread
    · subst same
      simpa only [State.update, Function.update_self] using small
    · simpa only [State.update, Function.update_of_ne same] using inv.small other
  · by_cases same : other = thread
    · subst same
      simpa only [State.update, Function.update_self] using fits
    · simpa only [State.update, Function.update_of_ne same] using inv.fits other
  · by_cases same : other = thread
    · subst same
      simpa only [State.update, Function.update_self] using manager
    · simpa only [State.update, Function.update_of_ne same] using inv.manager other
  · have before := inv.control
    have boxes := sum_map_update (by decide) (Box.mem_all box) controlUsed state.boxes mail
    have pending := sum_map_update (by decide) (Thread.mem_all thread)
      (fun _ holding => holding.pendingControl) state.threads holding
    have arrived := sum_map_update (by decide) (Thread.mem_all thread)
      (fun _ holding => holding.arrived) state.threads holding
    simp only [State.control, State.arrived, State.update] at before ⊢
    omega

theorem update_boxes_self (state : State) (heap : Buffers) (box : Box) (thread : Thread)
    (holding : ThreadState) :
    state.update heap box (state.boxes box) thread holding =
      { state with heap }.set thread holding := by
  simp only [State.update, State.set, Function.update_eq_self]

theorem referenced_set (heap : Buffers) {thread : Thread} {holding : ThreadState} {added removed : List Nat}
    (balance : (added ++ (state.threads thread).references).Perm (removed ++ holding.references)) :
    (added ++ state.referenced).Perm
      (removed ++ ({ state with heap }.set thread holding).referenced) := by
  rw [← update_boxes_self state heap .llpSensor]
  refine referenced_update heap (List.perm_iff_count.mpr fun buffer => ?_)
  have parts := balance.count_eq buffer
  simp only [List.count_append] at parts ⊢
  omega

theorem Inv.set (inv : Inv state) {heap : Buffers} {thread : Thread} {holding : ThreadState}
    (accounted : heap.Accounted ({ state with heap }.set thread holding).referenced)
    (held : ∀ box, ((state.threads thread).held box).Perm (holding.held box))
    (small : holding.Small) (fits : holding.Fits thread)
    (manager : thread ≠ .eventManager → holding.arrived = 0)
    (control : holding.pendingControl + (state.threads thread).arrived ≤
      (state.threads thread).pendingControl + holding.arrived) :
    Inv ({ state with heap }.set thread holding) := by
  rw [← update_boxes_self state heap .llpSensor] at accounted ⊢
  have frame := @held_update state heap .llpSensor (state.boxes .llpSensor) .llpSensor thread holding [] []
    (by simpa using held .llpSensor)
  refine inv.update accounted ((inv.owns .llpSensor).of_perm (by simpa using frame)) (fun box _ => held box)
    (inv.full .llpSensor) small fits manager (by omega)

theorem Inv.setOps (inv : Inv state) {thread : Thread} {ops : List Op}
    (fits : ({ state.threads thread with ops } : ThreadState).Fits thread)
    (control : ops.countP Op.isControlCalloc ≤ (state.threads thread).ops.countP Op.isControlCalloc) :
    Inv (state.set thread { state.threads thread with ops }) := by
  have same := @referenced_set state state.heap thread { state.threads thread with ops } [] [] (List.Perm.refl _)
  refine inv.set (inv.accounted.of_perm (by simpa using same)) (fun box => List.Perm.refl _)
    ⟨(inv.small thread).filling, (inv.small thread).processing⟩ fits (inv.manager thread) ?_
  simp only [ThreadState.pendingControl, ThreadState.arrived]
  omega

theorem countP_map_fill (texts : List Bytes) : (texts.map Op.fill).countP Op.isControlCalloc = 0 := by
  simp [List.countP_map, Function.comp_def, Op.isControlCalloc]

theorem countP_map_free (buffers : List Nat) : (buffers.map Op.free).countP Op.isControlCalloc = 0 := by
  simp [List.countP_map, Function.comp_def, Op.isControlCalloc]

theorem countP_putStrings {box : Box} (other : box ≠ .sensorControl) (texts : List Bytes) :
    (putStrings box texts).countP Op.isControlCalloc = 0 := by
  simp only [putStrings, List.cons_append, List.countP_cons, List.countP_append, countP_map_fill]
  simp [Op.isControlCalloc, other]

theorem countP_callback (params : List ArrivedParam) :
    (subscriptionMessageArrivalCallback params).countP Op.isControlCalloc = 0 := by
  simp [subscriptionMessageArrivalCallback, List.countP_flatMap, Function.comp_def,
    @countP_putStrings .mqttArrived (by decide)]

theorem countP_poll (readings : List (Bytes × Bytes)) : (poll readings).countP Op.isControlCalloc = 0 := by
  simp [poll, List.countP_append, List.countP_flatMap, Function.comp_def,
    @countP_putStrings .llpSensor (by decide)]

theorem countP_turn (turn : Turn) : turn.ops.countP Op.isControlCalloc = 0 := by
  cases turn with
  | sensor readings =>
      cases readings with
      | none => rfl
      | some readings => rw [Turn.ops, List.countP_append, countP_poll]; rfl
  | _ => rfl

theorem countP_distribute (param : Bytes) (value : Int) (msgId endpointId : Bytes) :
    (distributeControlMessage param value msgId endpointId).countP Op.isControlCalloc ≤ 1 := by
  unfold distributeControlMessage
  split_ifs
  · exact Nat.le_refl 1
  · exact Nat.zero_le 1

/-- Only the mail of an arrived parameter makes a command, and one at most. -/
theorem countP_consumer (consumer : Consumer) (heap : Buffers) (slot : Nat) (mail : Message) :
    (consumer.ops heap slot mail).countP Op.isControlCalloc ≤
      if consumer.box = .mqttArrived then 1 else 0 := by
  have released (box : Box) : [Op.release box slot].countP Op.isControlCalloc = 0 := rfl
  have packet (text : Bytes) : (putStrings .commsUpstream [text]).countP Op.isControlCalloc = 0 :=
    countP_putStrings (by decide) [text]
  have response (serviceId msgId msg : Bytes) :
      (decadaServiceResponse serviceId msgId msg ++ [Op.acknowledge slot]).countP Op.isControlCalloc = 0 := by
    rw [List.countP_append, decadaServiceResponse, countP_putStrings (by decide)]
    rfl
  cases consumer with
  | eventManager junk =>
      have distributed := countP_distribute (mail.text heap 2) (stringToInt junk (mail.text heap 3))
        (mail.text heap 1) (mail.text heap 0)
      simp only [Consumer.ops, Consumer.box, List.countP_append, countP_map_free, released, ↓reduceIte]
      omega
  | coordinator text =>
      refine le_of_eq_of_le ?_ (Nat.zero_le _)
      simp only [Consumer.ops, List.countP_append, countP_map_free, released]
      split_ifs
      · rw [packet]
      · rfl
  | sensorControl =>
      refine le_of_eq_of_le ?_ (Nat.zero_le _)
      simp only [Consumer.ops]
      rw [List.countP_append, List.countP_append, countP_map_free, released]
      split_ifs
      · rw [response]
      · rfl
  | _ =>
      refine le_of_eq_of_le ?_ (Nat.zero_le _)
      simp only [Consumer.ops, List.countP_append, countP_map_free, released]

theorem Inv.turn (inv : Inv state) (turn : Turn) (idle : (state.threads turn.thread).ops = []) :
    Inv (state.set turn.thread { state.threads turn.thread with ops := turn.ops }) := by
  have fits := inv.fits turn.thread
  rw [ThreadState.Fits, idle] at fits
  obtain ⟨filling, processing⟩ := fits
  refine inv.setOps ?_ ?_
  · simp only [ThreadState.Fits, filling, processing]
    exact fits_turn turn
  · rw [countP_turn]
    exact Nat.zero_le _

theorem Inv.arrive (inv : Inv state) {thread : Thread} (idle : (state.threads thread).filling = none)
    (params : List ArrivedParam) :
    Inv (state.set thread { state.threads thread with
      ops := subscriptionMessageArrivalCallback params ++ (state.threads thread).ops }) := by
  have fits := inv.fits thread
  refine inv.setOps ?_ ?_
  · simp only [ThreadState.Fits, idle, Option.map_none] at fits ⊢
    exact fits_callback params fits
  · rw [List.countP_append, countP_callback, Nat.zero_add]

/-! ## The operations -/

theorem Inv.calloc (inv : Inv state) {box : Box} (head : (state.threads thread).ops = .calloc box :: ops)
    {slot : Nat} {mail : Mail Message}
    (taken : (state.boxes box).tryCalloc zeroMessage = some (slot, mail)) :
    Inv ((state.setBox box mail).set thread
      { state.threads thread with ops, filling := some ⟨box, slot, zeroMessage⟩ }) := by
  have fits := inv.fits thread
  rw [ThreadState.Fits, head] at fits
  obtain ⟨none, fits⟩ := fits
  have idle := Option.map_eq_none_iff.mp none
  have queued := (inv.owns box).queued_tryCalloc taken
  obtain ⟨free, -, same⟩ := Mail.tryCalloc_eq_some taken
  refine @Inv.update state inv state.heap box mail thread _ ?_ ?_ ?_ ?_ ?_ fits (inv.manager thread) ?_
  · refine inv.accounted.of_perm (@referenced_update state state.heap box mail thread _ [] [] ?_)
    simp [strings, queued, ThreadState.references, idle, zeroMessage]
  · refine ((inv.owns box).tryCalloc taken).of_perm
      (@held_update state state.heap box mail box thread _ [slot] [] ?_)
    simp [ThreadState.held, idle]
  · intro other distinct
    simp [ThreadState.held, idle, Ne.symm distinct]
  · rw [queued]
    exact inv.full box
  · refine ⟨?_, (inv.small thread).processing⟩
    rintro filling ⟨⟩
    exact Nat.zero_le _
  · simp only [controlUsed, ThreadState.pendingControl, ThreadState.arrived, head, same, List.countP_cons,
      Op.isControlCalloc, decide_eq_true_eq]
    split_ifs <;> omega

theorem Inv.fill (inv : Inv state) {text : Bytes} (head : (state.threads thread).ops = .fill text :: ops)
    {filling : Filling} (held : (state.threads thread).filling = some filling) :
    Inv ({ state with heap := state.heap.malloc (stringToChar text) }.set thread
      { state.threads thread with
        ops
        filling := some { filling with
          mail := { filling.mail with strings := filling.mail.strings ++ [state.heap.next] } } }) := by
  have fits := inv.fits thread
  rw [ThreadState.Fits, head, held] at fits
  obtain ⟨box, count, same, less, fits⟩ := fits
  cases same
  refine inv.set ?_ ?_ ?_ ?_ (inv.manager thread) ?_
  · refine (inv.accounted.malloc (stringToChar text)).of_perm
      (@referenced_set state _ thread _ [state.heap.next] [] ?_)
    apply List.perm_iff_count.mpr
    intro buffer
    simp only [ThreadState.references, held, Option.map_some, Option.getD_some, List.count_append,
      List.count_nil]
    omega
  · intro box
    simp [ThreadState.held, held]
  · refine ⟨?_, (inv.small thread).processing⟩
    rintro filling ⟨⟩
    simp only [List.length_append, List.length_singleton]
    exact less
  · simpa [ThreadState.Fits, Filling.filled] using fits
  · simp only [ThreadState.pendingControl, ThreadState.arrived, head, List.countP_cons, Op.isControlCalloc]
    omega

theorem Inv.number (inv : Inv state) {number : Int} (head : (state.threads thread).ops = .number number :: ops)
    {filling : Filling} (held : (state.threads thread).filling = some filling) :
    Inv (state.set thread
      { state.threads thread with
        ops, filling := some { filling with mail := { filling.mail with number } } }) := by
  have fits := inv.fits thread
  rw [ThreadState.Fits, head] at fits
  obtain ⟨-, fits⟩ := fits
  refine inv.set ?_ ?_ ?_ ?_ (inv.manager thread) ?_
  · refine inv.accounted.of_perm (@referenced_set state _ thread _ [] [] ?_)
    simp [ThreadState.references, held]
  · intro box
    simp [ThreadState.held, held]
  · refine ⟨?_, (inv.small thread).processing⟩
    rintro other ⟨⟩
    exact (inv.small thread).filling filling held
  · simpa [ThreadState.Fits, Filling.filled, held] using fits
  · simp only [ThreadState.pendingControl, ThreadState.arrived, head, List.countP_cons, Op.isControlCalloc]
    omega

theorem Inv.put (inv : Inv state) (head : (state.threads thread).ops = .put :: ops) {filling : Filling}
    (held : (state.threads thread).filling = some filling) :
    Inv ((state.setBox filling.box
        (((state.boxes filling.box).write filling.slot filling.mail).put filling.slot)).set thread
      { state.threads thread with ops, filling := none }) := by
  have fits := inv.fits thread
  rw [ThreadState.Fits, head, held] at fits
  obtain ⟨box, same, fits⟩ := fits
  have whole : filling.mail.strings.length = filling.box.strings := by
    have parts := Option.some.inj same
    simp only [Filling.filled, Prod.mk.injEq] at parts
    rw [parts.1, parts.2]
  have owns : (state.boxes filling.box).Owns filling.box.capacity
      (filling.slot :: (state.update state.heap filling.box
        (((state.boxes filling.box).write filling.slot filling.mail).put filling.slot) thread
          { state.threads thread with ops, filling := none }).held filling.box) := by
    refine (inv.owns filling.box).of_perm
      (@held_update state state.heap filling.box _ filling.box thread _ [] [filling.slot] ?_)
    simp [ThreadState.held, held]
  have queued : (((state.boxes filling.box).write filling.slot filling.mail).put filling.slot).queued =
      (state.boxes filling.box).queued ++ [filling.mail] := by
    rw [Mail.queued_put, Mail.queued_write_of_not_mem owns.not_mem_queue]
    simp [Mail.write]
  refine @Inv.update state inv state.heap filling.box _ thread _ ?_ (owns.write _ _).put ?_ ?_ ?_ fits
    (inv.manager thread) ?_
  · refine inv.accounted.of_perm (@referenced_update state state.heap filling.box _ thread _ [] [] ?_)
    simp [strings, queued, ThreadState.references, held]
  · intro other distinct
    simp [ThreadState.held, held, Ne.symm distinct]
  · intro message member
    rw [queued] at member
    rcases List.mem_append.mp member with member | member
    · exact inv.full filling.box message member
    · rw [List.mem_singleton.mp member]
      exact whole
  · exact ⟨by simp, (inv.small thread).processing⟩
  · simp only [controlUsed, Mail.write, Mail.put, ThreadState.pendingControl, ThreadState.arrived, head,
      List.countP_cons, Op.isControlCalloc]
    omega

theorem Inv.tryGet (inv : Inv state) {consumer : Consumer}
    (head : (state.threads thread).ops = .tryGet consumer :: ops) {slot : Nat} {mail : Mail Message}
    (taken : (state.boxes consumer.box).tryGet = some (slot, mail)) :
    Inv ((state.setBox consumer.box mail).set thread
      { state.threads thread with
        ops := consumer.ops state.heap slot (mail.memory slot) ++ ops
        processing := .mail consumer.box slot (mail.memory slot).strings }) := by
  have fits := inv.fits thread
  rw [ThreadState.Fits, head] at fits
  obtain ⟨rfl, none, nothing, fits⟩ := fits
  have idle := Option.map_eq_none_iff.mp none
  obtain ⟨queued, memory⟩ := Mail.queued_of_tryGet taken
  obtain ⟨queue, -, same⟩ := Mail.tryGet_eq_some taken
  have full := inv.full consumer.box
  rw [queued, ← memory] at full
  have whole := full (mail.memory slot) (by simp)
  refine @Inv.update state inv state.heap consumer.box mail consumer.thread _ ?_ ?_ ?_ ?_ ?_ ?_ ?_ ?_
  · refine inv.accounted.of_perm (@referenced_update state state.heap consumer.box mail consumer.thread _ [] [] ?_)
    apply List.perm_iff_count.mpr
    intro buffer
    simp only [strings, queued, ← memory, ThreadState.references, idle, nothing, Processing.references,
      List.flatMap_cons, List.count_append, List.count_nil]
    omega
  · refine ((inv.owns consumer.box).tryGet taken).of_perm
      (@held_update state state.heap consumer.box mail consumer.box consumer.thread _ [slot] [] ?_)
    simp [ThreadState.held, idle, nothing, Processing.held]
  · intro other distinct
    simp [ThreadState.held, idle, nothing, Processing.held, Ne.symm distinct]
  · intro message member
    exact full message (List.mem_cons_of_mem _ member)
  · refine ⟨(inv.small consumer.thread).filling, ?_⟩
    rintro box slot unfreed ⟨⟩
    exact Nat.le_of_eq whole
  · simp only [ThreadState.Fits, idle, Option.map_none]
    exact fits_consumer consumer state.heap slot whole fits
  · intro other
    cases consumer with
    | eventManager junk => exact absurd rfl other
    | _ => rfl
  · have made := countP_consumer consumer state.heap slot (mail.memory slot)
    have used : mail.used = (state.boxes consumer.box).used := by rw [same]
    simp only [controlUsed, used, ThreadState.pendingControl, ThreadState.arrived, head, nothing,
      Processing.returning, Processing.arrived, List.countP_append, List.countP_cons, Op.isControlCalloc]
    omega

theorem Inv.free (inv : Inv state) {buffer : Nat} (head : (state.threads thread).ops = .free buffer :: ops)
    {box : Box} {slot : Nat} {unfreed : List Nat}
    (processing : (state.threads thread).processing = .mail box slot unfreed) :
    Inv ({ state with heap := state.heap.free buffer }.set thread
      { state.threads thread with ops, processing := .mail box slot (unfreed.erase buffer) }) := by
  have fits := inv.fits thread
  rw [ThreadState.Fits, head, processing] at fits
  obtain ⟨box, slot, unfreed, same, fits⟩ := fits
  cases same
  rw [List.erase_cons_head]
  refine inv.set ?_ ?_ ?_ fits ?_ ?_
  · apply Heap.Accounted.free
    refine inv.accounted.of_perm
      (@referenced_set state (state.heap.free buffer) thread _ [] [buffer] ?_)
    apply List.perm_iff_count.mpr
    intro other
    simp only [ThreadState.references, processing, Processing.references, List.count_append,
      List.count_cons, List.count_nil]
    omega
  · intro other
    simp [ThreadState.held, processing, Processing.held]
  · refine ⟨(inv.small thread).filling, ?_⟩
    rintro other slot' unfreed' ⟨⟩
    have bound := (inv.small thread).processing _ _ _ processing
    rw [List.length_cons] at bound
    omega
  · intro other
    have none := inv.manager thread other
    rw [ThreadState.arrived, processing] at none
    exact none
  · simp only [ThreadState.pendingControl, ThreadState.arrived, processing, Processing.returning,
      Processing.arrived, head, List.countP_cons, Op.isControlCalloc]
    omega

theorem Inv.release (inv : Inv state) {box : Box} {slot : Nat}
    (head : (state.threads thread).ops = .release box slot :: ops) (other : box ≠ .mqttArrived) :
    Inv ((state.setBox box ((state.boxes box).release slot)).set thread
      { state.threads thread with ops, processing := .nothing }) := by
  have fits := inv.fits thread
  rw [ThreadState.Fits, head] at fits
  simp only [Fits, other, ↓reduceIte] at fits
  obtain ⟨processing | ⟨processing, rfl⟩, fits⟩ := fits
  · refine @Inv.update state inv state.heap box _ thread _ ?_ ?_ ?_ ?_ ?_ fits (fun _ => rfl) ?_
    · refine inv.accounted.of_perm (@referenced_update state state.heap box _ thread _ [] [] ?_)
      simp [strings, ThreadState.references, processing, Processing.references]
    · refine Mail.Owns.release ((inv.owns box).of_perm
        (@held_update state state.heap box _ box thread _ [] [slot] ?_))
      simp [ThreadState.held, processing, Processing.held]
    · intro other distinct
      simp [ThreadState.held, processing, Processing.held, Ne.symm distinct]
    · rw [Mail.queued_release]
      exact inv.full box
    · exact ⟨(inv.small thread).filling, by simp⟩
    · have used : ((state.boxes box).release slot).used ≤ (state.boxes box).used := by
        unfold Mail.release
        split_ifs <;> simp
      simp only [controlUsed, ThreadState.pendingControl, ThreadState.arrived, processing,
        Processing.returning, Processing.arrived, head, List.countP_cons, Op.isControlCalloc, other]
      split_ifs <;> simp <;> omega
  · -- the second free finds no slot in use, as there is no other command
    have once := (le_control state thread).trans inv.control_le_one
    simp only [ThreadState.pendingControl, processing, Processing.returning] at once
    rw [Mail.release_of_used_eq_zero (by omega)]
    show Inv (state.update state.heap .sensorControl (state.boxes .sensorControl) thread _)
    rw [update_boxes_self]
    refine inv.set ?_ ?_ ⟨(inv.small thread).filling, by simp⟩ fits (fun _ => rfl) ?_
    · refine inv.accounted.of_perm (@referenced_set state state.heap thread _ [] [] ?_)
      simp [ThreadState.references, processing, Processing.references]
    · intro other
      simp [ThreadState.held, processing, Processing.held]
    · simp only [ThreadState.pendingControl, ThreadState.arrived, processing, Processing.returning,
        Processing.arrived, head, List.countP_cons, Op.isControlCalloc]
      omega

theorem Inv.acknowledge (inv : Inv state) {slot : Nat}
    (head : (state.threads thread).ops = .acknowledge slot :: ops) :
    Inv ((state.setBox .sensorControl ((state.boxes .sensorControl).release slot)).set thread
      { state.threads thread with ops, processing := .returned slot }) := by
  have fits := inv.fits thread
  rw [ThreadState.Fits, head] at fits
  obtain ⟨processing, fits⟩ := fits
  have owns : (state.boxes .sensorControl).Owns Box.sensorControl.capacity
      (slot :: (state.update state.heap .sensorControl ((state.boxes .sensorControl).release slot) thread
        { state.threads thread with ops, processing := .returned slot }).held .sensorControl) := by
    refine (inv.owns .sensorControl).of_perm
      (@held_update state state.heap .sensorControl _ .sensorControl thread _ [] [slot] ?_)
    simp [ThreadState.held, processing, Processing.held]
  have positive : (state.boxes .sensorControl).used ≠ 0 := by simp [owns.used]
  refine @Inv.update state inv state.heap .sensorControl _ thread _ ?_ owns.release ?_ ?_ ?_ fits
    (fun _ => rfl) ?_
  · refine inv.accounted.of_perm (@referenced_update state state.heap .sensorControl _ thread _ [] [] ?_)
    simp [strings, ThreadState.references, processing, Processing.references]
  · intro other distinct
    simp [ThreadState.held, processing, Processing.held, Ne.symm distinct]
  · rw [Mail.queued_release]
    exact inv.full .sensorControl
  · exact ⟨(inv.small thread).filling, by simp⟩
  · simp only [controlUsed, Mail.release, positive, ↓reduceIte, ThreadState.pendingControl,
      ThreadState.arrived, processing, Processing.returning, Processing.arrived, head, List.countP_cons,
      Op.isControlCalloc, reduceCtorEq]
    omega

/-! ## Runs -/

theorem execute_inv (inv : Inv state) {op : Op} (head : (state.threads thread).ops = op :: ops)
    (keeps : ∀ slot, op ≠ .release .mqttArrived slot)
    (taken : execute state thread { state.threads thread with ops } op = some next) : Inv next := by
  cases op with
  | calloc box =>
      simp only [execute] at taken
      split at taken
      · cases taken
        exact inv
      · rename_i slot mail allocated
        cases taken
        exact inv.calloc head allocated
  | fill text =>
      obtain ⟨filling, held, rfl⟩ := Option.map_eq_some_iff.mp taken
      exact inv.fill head held
  | number number =>
      obtain ⟨filling, held, rfl⟩ := Option.map_eq_some_iff.mp taken
      exact inv.number head held
  | put =>
      obtain ⟨filling, held, rfl⟩ := Option.map_eq_some_iff.mp taken
      exact inv.put head held
  | tryGet consumer =>
      simp only [execute] at taken
      split at taken
      · cases taken
        have fits := inv.fits thread
        rw [ThreadState.Fits, head] at fits
        obtain ⟨-, none, nothing, fits⟩ := fits
        refine inv.setOps ?_ ?_
        · simpa only [ThreadState.Fits, none, nothing] using fits
        · rw [head, List.countP_cons]
          exact Nat.le_add_right _ _
      · rename_i slot mail got
        cases taken
        exact inv.tryGet head got
  | free buffer =>
      simp only [execute] at taken
      split at taken
      · rename_i box slot unfreed processing
        cases taken
        exact inv.free head processing
      · cases taken
  | release box slot =>
      cases taken
      apply inv.release head
      rintro rfl
      exact keeps slot rfl
  | acknowledge slot =>
      cases taken
      exact inv.acknowledge head

theorem inv_step {action : Action} (inv : Inv state) (keeps : KeepsArrived state action)
    (taken : step state action = some next) : Inv next := by
  cases action with
  | turn turn =>
      simp only [step] at taken
      split at taken
      · rename_i idle
        cases taken
        exact inv.turn turn idle
      · cases taken
  | arrive onComms params =>
      simp only [step] at taken
      split at taken
      · rename_i idle
        cases taken
        exact inv.arrive idle params
      · cases taken
  | advance thread =>
      simp only [step] at taken
      split at taken
      · cases taken
      · rename_i op ops head
        refine execute_inv inv head (fun slot same => ?_) taken
        exact keeps slot ops (by rw [head, same])

/-- The buffer of a value stays behind when the event manager ends its mail. -/
theorem not_exact_of_ends {action : Action} (inv : Inv state) (ends : ¬ KeepsArrived state action)
    (taken : step state action = some next) : ¬ Exact next := by
  cases action with
  | advance thread =>
      simp only [KeepsArrived, ne_eq, not_forall, not_not] at ends
      obtain ⟨slot, ops, head⟩ := ends
      have fits := inv.fits thread
      rw [ThreadState.Fits, head] at fits
      obtain ⟨unfreed, processing, left⟩ := fits
      simp only [step, head, execute] at taken
      cases taken
      intro exact
      have lost : state.referenced.Perm (unfreed ++ ((state.setBox .mqttArrived
          ((state.boxes .mqttArrived).release slot)).set thread
            { state.threads thread with ops, processing := .nothing }).referenced) := by
        refine @referenced_update state state.heap .mqttArrived _ thread _ [] unfreed ?_
        apply List.perm_iff_count.mpr
        intro buffer
        simp only [strings, Mail.queued_release, ThreadState.references, processing,
          Processing.references, List.count_append, List.count_nil]
        omega
      have difference := (inv.accounted.live.trans lost).length_eq
      have positive := List.length_pos_iff.mpr left
      rw [List.length_append, ← exact.accounted.live.length_eq] at difference
      simp only [State.set, State.setBox] at difference
      omega
  | _ => exact absurd trivial ends

/-! ## The bound -/

theorem length_strings {box : Box} {mail : Mail Message}
    (full : ∀ message ∈ mail.queued, message.strings.length = box.strings) :
    (strings mail).length = mail.queue.length * box.strings := by
  have each : ∀ messages : List Message, (∀ message ∈ messages, message.strings.length = box.strings) →
      (messages.flatMap Message.strings).length = messages.length * box.strings := by
    intro messages whole
    induction messages with
    | nil => simp
    | cons message messages ih =>
        obtain ⟨first, whole⟩ := List.forall_mem_cons.mp whole
        rw [List.flatMap_cons, List.length_append, first, ih whole, List.length_cons, Nat.succ_mul,
          Nat.add_comm]
  rw [strings, each mail.queued full, Mail.queued, List.length_map]

theorem ThreadState.Small.length_references {holding : ThreadState} (small : holding.Small) :
    holding.references.length ≤ (Box.all.map fun box => box.strings * (holding.held box).length).sum := by
  have filling : ((holding.filling.map fun filling => filling.mail.strings).getD []).length ≤
      (Box.all.map fun box => box.strings * (match holding.filling with
        | some filling => if filling.box = box then [filling.slot] else []
        | none => []).length).sum := by
    cases held : holding.filling with
    | none => simp
    | some filling =>
        have bound := small.filling filling held
        obtain ⟨box, slot, mail⟩ := filling
        cases box <;> simpa [Box.all, Box.strings] using bound
  have processing : holding.processing.references.length ≤
      (Box.all.map fun box => box.strings * (holding.processing.held box).length).sum := by
    cases held : holding.processing with
    | mail box slot unfreed =>
        have bound := small.processing box slot unfreed held
        cases box <;> simpa [Box.all, Box.strings, Processing.held, Processing.references] using bound
    | _ => exact Nat.zero_le _
  simp only [Box.all, List.map_cons, List.map_nil, List.sum_cons, List.sum_nil] at filling processing ⊢
  simp only [ThreadState.references, ThreadState.held, List.length_append, Nat.mul_add]
  omega

theorem Inv.exact (inv : Inv state) : Exact state := by
  refine ⟨inv.accounted, ?_⟩
  have slots (box : Box) : (state.boxes box).queue.length + (state.held box).length ≤ box.capacity := by
    have all := (inv.owns box).partition.length_eq
    simp only [List.length_append, List.length_range] at all
    omega
  have queued (box : Box) := length_strings (inv.full box)
  have threads (thread : Thread) := (inv.small thread).length_references
  have llpSensor := slots .llpSensor
  have commsUpstream := slots .commsUpstream
  have serviceResponse := slots .serviceResponse
  have mqttArrived := slots .mqttArrived
  have sensorControl := slots .sensorControl
  have sensor := threads .sensor
  have coordinator := threads .coordinator
  have comms := threads .comms
  have eventManager := threads .eventManager
  have subscription := threads .subscription
  simp only [State.held, Thread.all, Box.all, Box.capacity, Box.strings, List.length_flatMap, List.map_cons,
    List.map_nil, List.sum_cons, List.sum_nil] at *
  rw [inv.accounted.live.length_eq]
  simp only [State.referenced, Thread.all, Box.all, queued, List.length_append,
    List.length_flatMap, List.map_cons, List.map_nil, List.sum_cons, List.sum_nil]
  omega

/-- The buffers alive are those referenced, in every state of a run, exactly if the event manager does
not come to the end of a mail in it. -/
theorem exact_iff_keepsArrived (actions : List Action) :
    EveryState step Exact init actions ↔ EveryStep step KeepsArrived init actions :=
  everyState_iff_everyStep (fun _ inv => inv.exact) (fun _ _ _ inv keeps taken => inv_step inv keeps taken)
    (fun _ _ _ inv ends taken => not_exact_of_ends inv ends taken) inv_init actions

/-- One parameter arrives and the event manager deals with it. -/
def oneArrival : List Action :=
  [.arrive false [⟨str "led", str "1", str "blink", str "5"⟩]] ++ List.replicate 6 (.advance .subscription) ++
    [.turn (.eventManager zeroInt)] ++ List.replicate 5 (.advance .eventManager)

-- the buffer of the value is alive and no mail references it
theorem exact_violated : ¬ ∀ actions : List Action, EveryState step Exact init actions := by
  intro always
  have leaked : (run step init oneArrival).map (fun final => (final.heap.live, final.referenced)) =
      some ([3], []) := by
    decide +kernel
  obtain ⟨final, reaches, parts⟩ := Option.map_eq_some_iff.mp leaked
  have live := ((always oneArrival).last reaches).accounted.live
  rw [(Prod.mk.inj parts).1, (Prod.mk.inj parts).2] at live
  exact absurd live.length_eq (by decide)

end DecadaEmbedded.MailBuffers
