import DecadaEmbedded.BehaviorCoordinator
import DecadaEmbedded.Tmp75.Driver

/-!
# The poll cycle of `threads/sensor_thread.cpp`

The thread puts a header, the first entry of what `Tmp75::GetData` appends to its list, and a header
again; the coordinator takes the mails out. The chip converts temperatures at any time.
-/

namespace DecadaEmbedded.Tmp75
open Library Conversions SensorProfile Json Json.Writer BehaviorCoordinator

inductive Stage where
  | idle | reading | ending
deriving DecidableEq, Repr

/-- `current` is the list of the poll cycle under way where `GetData` returned `DATA_OK`, and
`appended` has the lists of the cycles before it. -/
structure System where
  stage : Stage
  driver : Driver
  current : Cycle
  appended : List Cycle
  coordinator : State

inductive Event where
  | start (rawTimeStamp : Int)
  | read (acks : ReadAcks) (pin : Bool) (rawTimeStamp : Int)
  | finish (rawTimeStamp : Int)
  | convert (temperature : UInt16)
  | tryGet
  | checkSend (order : EntityValuePairs)

def boot (driver : Driver) : System := ⟨.idle, driver, [], [], init⟩

variable (format : DoubleFormat) (deviceUuid : Bytes)

def putData (sData : Cycle) (rawTimeStamp : Int) (coordinator : State) : Option State :=
  sData.head?.map fun first =>
    { coordinator.put first.1 first.2 rawTimeStamp with
      cycle := coordinator.cycle.map (· ++ [(stringToChar first.1, stringToChar first.2)]) }

def cycleStep (system : System) : Event → Option System
  | .start rawTimeStamp =>
      if system.stage = .idle then
        some { system with
          stage := .reading
          current := []
          coordinator :=
            { system.coordinator.put (str "header") (str "start") rawTimeStamp with cycle := some [] } }
      else none
  | .read acks pin rawTimeStamp =>
      if system.stage = .reading then
        match getData acks pin system.driver [] with
        | (.dataOk, sData, driver) =>
            (putData sData rawTimeStamp system.coordinator).map fun coordinator =>
              { system with stage := .ending, driver, current := sData, coordinator }
        | (_, _, driver) => some { system with stage := .ending, driver }
      else none
  | .finish rawTimeStamp =>
      if system.stage = .ending then
        some { system with
          stage := .idle
          appended := system.appended ++ [system.current]
          coordinator :=
            { system.coordinator.put (str "header") (str "end") rawTimeStamp with
              cycle := none
              cycles := system.coordinator.cycles ++ system.coordinator.cycle.toList } }
      else none
  | .convert temperature =>
      some { system with
        driver := { system.driver with chip := { system.driver.chip with temperature } } }
  | .tryGet =>
      (BehaviorCoordinator.step format deviceUuid system.coordinator .tryGet).map fun coordinator =>
        { system with coordinator }
  | .checkSend order =>
      (BehaviorCoordinator.step format deviceUuid system.coordinator (.checkSend order)).map fun coordinator =>
        { system with coordinator }

/-! ## What a poll cycle is to deliver -/

/-- `std::stod` accepts an optional minus sign, digits, a point and digits of a moderate number. -/
def ReadsDecimals : Prop :=
  ∀ text width negative value, Denotes text width negative value → |value| < 2147483648 → width ≤ 9 →
    Numeric format text

-- the packet has a measure point for the entry, with what its value reads as
def Names (payload : Bytes) (entry : Bytes × Bytes) : Prop :=
  ∃ members valueFloat, payload = writeValue (packet deviceUuid (.object members)) ∧
    stringToDouble format entry.2 = .ok valueFloat ∧
      members.lookup entry.1 = some (.real (format.valueToString valueFloat))

def System.mails (system : System) : List LlpSensorMail :=
  system.coordinator.taken ++ system.coordinator.llpSensor

/-- Every entry of a list that `GetData` filled stands between the headers of its poll cycle, the
coordinator puts a packet for the cycle, and the packet names the entry. -/
structure Delivered (system : System) : Prop where
  returned : system.coordinator.raised = none
  put : system.stage = .ending → ∀ entry ∈ system.current, entry ∈ (batches system.mails).current
  ended : ∀ (n : Nat) entries, system.appended[n]? = some entries →
    ∃ cycle, (batches system.mails).finished[n]? = some cycle ∧ ∀ entry ∈ entries, entry ∈ cycle
  named : ∀ (n : Nat) entries payload, system.appended[n]? = some entries →
    system.coordinator.commsUpstream[n]? = some payload →
      ∀ entry ∈ entries, Names format deviceUuid payload entry
  proceeds : Proceeds format deviceUuid system.coordinator
  complete : system.coordinator.llpSensor = [] → system.coordinator.place = .getting →
    system.coordinator.commsUpstream.length = system.appended.length

def NoAlert (system : System) : Event → Prop
  | .read acks pin _ =>
      system.driver.active = true → acks = ⟨true, true⟩ → pin ≠ system.driver.tmpConfig.pol
  | _ => True

section GetData
variable {driver : Driver} {acks : ReadAcks} {pin : Bool}

def ambientTemp (driver : Driver) : Bytes × Bytes :=
  (str "ambient_temp", convertDataToString (decoded driver.chip.temperature))

theorem getData_of_acks (active : driver.active = true) :
    getData ⟨true, true⟩ pin driver [] =
      (.dataOk,
        if pin = driver.tmpConfig.pol then [ambientTemp driver, (str "ambient_temp_alert", [])]
        else [ambientTemp driver],
        { driver with
          tempData := decoded driver.chip.temperature
          chip := { driver.chip with pointer := .readTempReg } }) := by
  rw [getData, if_pos active, readTemp_of_acks]
  simp only [readAlert, ambientTemp, List.nil_append]
  by_cases matching : pin = driver.tmpConfig.pol
  · simp [matching]
  · simp [matching]

theorem getData_of_not_ready (failed : ¬ (driver.active = true ∧ acks = ⟨true, true⟩)) :
    (getData acks pin driver []).1 = .disconnect := by
  unfold getData
  split_ifs with active
  · rw [readTemp, readRegister_of_noAck fun acked => failed ⟨active, acked⟩]
  · rfl

end GetData

section Text
variable {format}

theorem denotes_ambientTemp (driver : Driver) : ∃ value,
    Denotes (ambientTemp driver).2 2 false value ∧ |value| < 2147483648 := by
  have nonneg := decoded_nonneg driver.chip.temperature
  have below := decoded_lt driver.chip.temperature
  have bound : |decoded driver.chip.temperature| < 2147483648 := by
    rw [abs_of_nonneg nonneg]
    linarith
  have denotes := denotes_doubleToChar bound (by decide : 1 ≤ 2) (by decide)
  rw [decide_eq_false (by linarith), if_neg (by linarith)] at denotes
  refine ⟨_, denotes, ?_⟩
  have floor := Int.floor_le (|decoded driver.chip.temperature| * 10 ^ 2)
  have cast : (0 : ℚ) ≤ ⌊|decoded driver.chip.temperature| * 10 ^ 2⌋ := by
    exact_mod_cast Int.floor_nonneg.mpr (by positivity)
  rw [one_mul, abs_of_nonneg (div_nonneg cast (by positivity)), div_lt_iff₀ (by positivity)]
  exact floor.trans_lt (mul_lt_mul_of_pos_right bound (by positivity))

theorem numeric_ambientTemp (reads : ReadsDecimals format) (driver : Driver) :
    Numeric format (ambientTemp driver).2 := by
  obtain ⟨value, denotes, bound⟩ := denotes_ambientTemp driver
  exact reads _ 2 false value denotes bound (by decide)

end Text

theorem stringToChar_ambientTemp (driver : Driver) :
    stringToChar (ambientTemp driver).1 = str "ambient_temp" ∧
      stringToChar (ambientTemp driver).2 = (ambientTemp driver).2 := by
  obtain ⟨value, denotes, -⟩ := denotes_ambientTemp driver
  exact ⟨cstr_of_nulFree (by decide : (0 : UInt8) ∉ str "ambient_temp"), cstr_of_nulFree denotes.nulFree⟩

/-! ## What a poll cycle delivers -/

def Measured (entries : Cycle) : Prop := entries = [] ∨ ∃ driver, entries = [ambientTemp driver]

structure Polled (system : System) : Prop where
  coordinator : Inv format deviceUuid system.coordinator
  cycles : system.coordinator.cycles = system.appended
  idle : system.stage = .idle → system.coordinator.cycle = none
  reading : system.stage = .reading → system.coordinator.cycle = some [] ∧ system.current = []
  ending : system.stage = .ending → system.coordinator.cycle = some system.current
  measured : ∀ entries ∈ system.current :: system.appended, Measured entries

section Polled
variable {format deviceUuid} {system next : System}

theorem polled_boot (driver : Driver) : Polled format deviceUuid (boot driver) where
  coordinator := inv_init format deviceUuid
  cycles := rfl
  idle := fun _ => rfl
  reading := fun other => by cases other
  ending := fun other => by cases other
  measured := by
    intro entries member
    exact .inl (List.mem_singleton.mp member)

theorem names_of_reports (reads : ReadsDecimals format) {payload : Bytes} {driver : Driver}
    (reports : Reports format deviceUuid [ambientTemp driver] payload) :
    Names format deviceUuid payload (ambientTemp driver) := by
  obtain ⟨measurePoints, points, rfl⟩ := reports
  obtain ⟨valueFloat, read⟩ := numeric_ambientTemp reads driver
  have held : lastValue [ambientTemp driver] (ambientTemp driver).1 = some (ambientTemp driver).2 := by
    have last := lastValue_concat [] (ambientTemp driver).1 (ambientTemp driver).2 (ambientTemp driver).1
    rwa [if_pos rfl] at last
  obtain ⟨members, rfl, -, lookup⟩ := points.object _ _ held
  refine ⟨members, valueFloat, rfl, read, ?_⟩
  rw [lookup, held, Option.bind_some, point, read]
  rfl

theorem Polled.delivered (reads : ReadsDecimals format) (polled : Polled format deviceUuid system) :
    Delivered format deviceUuid system where
  returned := polled.coordinator.returned
  put := by
    intro ending entry member
    rwa [System.mails, polled.coordinator.current _ (polled.ending ending)]
  ended := by
    intro n entries ended
    rw [System.mails, polled.coordinator.finished, polled.cycles]
    exact ⟨entries, ended, fun entry member => member⟩
  named := by
    intro n entries payload ended put entry member
    obtain ⟨cycle, same, reports⟩ := polled.coordinator.reported.packets n payload put
    rw [polled.cycles, ended] at same
    obtain rfl := Option.some.inj same
    rcases polled.measured entries (List.mem_cons_of_mem _ (List.mem_of_getElem? ended)) with
      rfl | ⟨driver, rfl⟩
    · cases member
    · rw [List.mem_singleton.mp member]
      exact names_of_reports reads reports
  proceeds := polled.coordinator.reported.proceeds
  complete := by
    intro empty getting
    rw [polled.coordinator.reported.complete empty getting, polled.cycles]

theorem Polled.measured_next (polled : Polled format deviceUuid system) {entries : Cycle}
    (measured : Measured entries) : ∀ cycle ∈ entries :: system.appended, Measured cycle := by
  intro cycle member
  rcases List.mem_cons.mp member with rfl | member
  · exact measured
  · exact polled.measured cycle (List.mem_cons_of_mem _ member)

theorem Polled.start (polled : Polled format deviceUuid system) (rawTimeStamp : Int)
    (taken : cycleStep format deviceUuid system (.start rawTimeStamp) = some next) :
    Polled format deviceUuid next := by
  simp only [cycleStep] at taken
  split_ifs at taken with idle
  cases taken
  have put : BehaviorCoordinator.step format deviceUuid system.coordinator (.putStart rawTimeStamp) =
      some { system.coordinator.put (str "header") (str "start") rawTimeStamp with cycle := some [] } := by
    simp only [BehaviorCoordinator.step, polled.idle idle]
  exact ⟨inv_step _ polled.coordinator put, polled.cycles, fun other => (by cases other),
    fun _ => ⟨rfl, rfl⟩, fun other => (by cases other), polled.measured_next (.inl rfl)⟩

theorem Polled.finish (polled : Polled format deviceUuid system) (rawTimeStamp : Int)
    (taken : cycleStep format deviceUuid system (.finish rawTimeStamp) = some next) :
    Polled format deviceUuid next := by
  simp only [cycleStep] at taken
  split_ifs at taken with ending
  cases taken
  have running := polled.ending ending
  have put : BehaviorCoordinator.step format deviceUuid system.coordinator (.putEnd rawTimeStamp) =
      some { system.coordinator.put (str "header") (str "end") rawTimeStamp with
        cycle := none
        cycles := system.coordinator.cycles ++ system.coordinator.cycle.toList } := by
    simp only [BehaviorCoordinator.step, running]
    rfl
  refine ⟨inv_step _ polled.coordinator put, ?_, fun _ => rfl, fun other => (by cases other),
    fun other => (by cases other), ?_⟩
  · simp [running, polled.cycles]
  · intro entries member
    rcases List.mem_cons.mp member with rfl | member
    · exact polled.measured _ List.mem_cons_self
    · refine polled.measured entries ?_
      rcases List.mem_append.mp member with member | member
      · exact List.mem_cons_of_mem _ member
      · rw [List.mem_singleton.mp member]
        exact List.mem_cons_self

theorem putData_of_acks (alerted : Bool) (driver : Driver) (rawTimeStamp : Int) (coordinator : State)
    (running : coordinator.cycle = some []) :
    putData (if alerted then [ambientTemp driver, (str "ambient_temp_alert", [])]
        else [ambientTemp driver]) rawTimeStamp coordinator =
      some { coordinator.put (ambientTemp driver).1 (ambientTemp driver).2 rawTimeStamp with
        cycle := some [ambientTemp driver] } := by
  have texts := stringToChar_ambientTemp driver
  have same : (stringToChar (ambientTemp driver).1, stringToChar (ambientTemp driver).2) =
      ambientTemp driver := by
    rw [texts.1, texts.2]
    rfl
  cases alerted <;> simp [putData, running, same]

theorem putData_coordinator (reads : ReadsDecimals format) (driver : Driver) (rawTimeStamp : Int)
    (coordinator : State) (running : coordinator.cycle = some []) :
    BehaviorCoordinator.step format deviceUuid coordinator
        (.putData (ambientTemp driver).1 (ambientTemp driver).2 rawTimeStamp) =
      some { coordinator.put (ambientTemp driver).1 (ambientTemp driver).2 rawTimeStamp with
        cycle := some [ambientTemp driver] } := by
  obtain ⟨name, value⟩ := stringToChar_ambientTemp driver
  obtain ⟨valueFloat, read⟩ := numeric_ambientTemp reads driver
  have numeric : isNumeric format (ambientTemp driver).2 = true := by
    rw [isNumeric, read]
    rfl
  have other : str "ambient_temp" ≠ str "header" := by decide
  simp only [BehaviorCoordinator.step, running, name, value, numeric, other, ne_eq, not_false_eq_true,
    and_self, ↓reduceIte]
  rfl

theorem Polled.read_ok (reads : ReadsDecimals format) (polled : Polled format deviceUuid system)
    (reading : system.stage = .reading) (rawTimeStamp : Int) (driver : Driver) :
    Polled format deviceUuid
      { system with
        stage := .ending
        driver
        current := [ambientTemp system.driver]
        coordinator :=
          { system.coordinator.put (ambientTemp system.driver).1 (ambientTemp system.driver).2
              rawTimeStamp with cycle := some [ambientTemp system.driver] } } := by
  have put := @putData_coordinator format deviceUuid reads system.driver rawTimeStamp
    system.coordinator (polled.reading reading).1
  exact ⟨inv_step _ polled.coordinator put, polled.cycles, fun other => (by cases other),
    fun other => (by cases other), fun _ => rfl, polled.measured_next (.inr ⟨system.driver, rfl⟩)⟩

theorem reading_of_read {acks : ReadAcks} {pin : Bool} {rawTimeStamp : Int}
    (taken : cycleStep format deviceUuid system (.read acks pin rawTimeStamp) = some next) :
    system.stage = .reading := by
  by_contra other
  rw [cycleStep, if_neg other] at taken
  cases taken

theorem cycleStep_read_of_acks (reading : system.stage = .reading)
    (running : system.coordinator.cycle = some []) (active : system.driver.active = true) (pin : Bool)
    (rawTimeStamp : Int)
    (taken : cycleStep format deviceUuid system (.read ⟨true, true⟩ pin rawTimeStamp) = some next) :
    ∃ driver, next =
      { system with
        stage := .ending
        driver
        current :=
          if pin = system.driver.tmpConfig.pol then
            [ambientTemp system.driver, (str "ambient_temp_alert", [])]
          else [ambientTemp system.driver]
        coordinator :=
          { system.coordinator.put (ambientTemp system.driver).1 (ambientTemp system.driver).2
              rawTimeStamp with cycle := some [ambientTemp system.driver] } } := by
  have put := putData_of_acks (decide (pin = system.driver.tmpConfig.pol)) system.driver rawTimeStamp
    system.coordinator running
  simp only [decide_eq_true_eq] at put
  rw [cycleStep, if_pos reading, getData_of_acks active] at taken
  dsimp only at taken
  rw [put] at taken
  cases taken
  exact ⟨_, rfl⟩

theorem cycleStep_read_of_not_ready {acks : ReadAcks} (reading : system.stage = .reading)
    (failed : ¬ (system.driver.active = true ∧ acks = ⟨true, true⟩)) (pin : Bool) (rawTimeStamp : Int)
    (taken : cycleStep format deviceUuid system (.read acks pin rawTimeStamp) = some next) :
    ∃ driver, next = { system with stage := .ending, driver } := by
  have status := @getData_of_not_ready system.driver acks pin failed
  rw [cycleStep, if_pos reading] at taken
  split at taken
  · rename_i same
    rw [same] at status
    cases status
  · cases taken
    exact ⟨_, rfl⟩

theorem Polled.coordinate (polled : Polled format deviceUuid system) {coordinator : State}
    {action : BehaviorCoordinator.Action}
    (taken : BehaviorCoordinator.step format deviceUuid system.coordinator action = some coordinator)
    (same : coordinator.cycle = system.coordinator.cycle ∧ coordinator.cycles = system.coordinator.cycles) :
    Polled format deviceUuid { system with coordinator } :=
  ⟨inv_step action polled.coordinator taken, same.2.trans polled.cycles,
    fun stage => same.1.trans (polled.idle stage),
    fun stage => ⟨same.1.trans (polled.reading stage).1, (polled.reading stage).2⟩,
    fun stage => same.1.trans (polled.ending stage), polled.measured⟩

theorem cycle_receive (state : State) (llpMail : LlpSensorMail) :
    (receive state llpMail).cycle = state.cycle ∧ (receive state llpMail).cycles = state.cycles := by
  unfold receive
  dsimp only
  split_ifs <;> exact ⟨rfl, rfl⟩

theorem cycle_tryGet {state after : State}
    (taken : BehaviorCoordinator.step format deviceUuid state .tryGet = some after) :
    after.cycle = state.cycle ∧ after.cycles = state.cycles := by
  simp only [BehaviorCoordinator.step] at taken
  split at taken
  · split at taken
    · cases taken
      exact ⟨rfl, rfl⟩
    · cases taken
      exact cycle_receive _ _
  · cases taken

theorem cycle_send (state : State) (order : EntityValuePairs) :
    (send format deviceUuid state order).cycle = state.cycle ∧
      (send format deviceUuid state order).cycles = state.cycles := by
  unfold send
  split <;> exact ⟨rfl, rfl⟩

theorem cycle_checkSend {state after : State} {order : EntityValuePairs}
    (taken : BehaviorCoordinator.step format deviceUuid state (.checkSend order) = some after) :
    after.cycle = state.cycle ∧ after.cycles = state.cycles := by
  simp only [BehaviorCoordinator.step] at taken
  split at taken
  · split_ifs at taken
    · cases taken
      exact cycle_send _ _
    · cases taken
      exact ⟨rfl, rfl⟩
  · cases taken

theorem polled_step (reads : ReadsDecimals format) {event : Event}
    (polled : Polled format deviceUuid system) (quiet : NoAlert system event)
    (taken : cycleStep format deviceUuid system event = some next) : Polled format deviceUuid next := by
  cases event with
  | start rawTimeStamp => exact polled.start rawTimeStamp taken
  | finish rawTimeStamp => exact polled.finish rawTimeStamp taken
  | read acks pin rawTimeStamp =>
      have reading := reading_of_read taken
      obtain ⟨running, empty⟩ := polled.reading reading
      by_cases ready : system.driver.active = true ∧ acks = ⟨true, true⟩
      · obtain ⟨active, rfl⟩ := ready
        obtain ⟨driver, rfl⟩ := cycleStep_read_of_acks reading running active pin rawTimeStamp taken
        rw [if_neg (quiet active rfl)]
        exact polled.read_ok reads reading rawTimeStamp driver
      · obtain ⟨driver, rfl⟩ := cycleStep_read_of_not_ready reading ready pin rawTimeStamp taken
        refine ⟨polled.coordinator, polled.cycles, fun other => (by cases other),
          fun other => (by cases other), fun _ => running.trans (congrArg some empty.symm), polled.measured⟩
  | convert temperature =>
      cases taken
      exact ⟨polled.coordinator, polled.cycles, polled.idle, polled.reading, polled.ending, polled.measured⟩
  | tryGet =>
      obtain ⟨coordinator, stepped, rfl⟩ := Option.map_eq_some_iff.mp taken
      exact polled.coordinate stepped (cycle_tryGet stepped)
  | checkSend order =>
      obtain ⟨coordinator, stepped, rfl⟩ := Option.map_eq_some_iff.mp taken
      exact polled.coordinate stepped (cycle_checkSend stepped)

theorem lost_of_alert (polled : Polled format deviceUuid system) (reads : ReadsDecimals format)
    {event : Event} (alerted : ¬ NoAlert system event)
    (taken : cycleStep format deviceUuid system event = some next) :
    ¬ Delivered format deviceUuid next := by
  cases event with
  | read acks pin rawTimeStamp =>
      have reading := reading_of_read taken
      simp only [NoAlert, not_forall, not_not] at alerted
      obtain ⟨active, rfl, matching⟩ := alerted
      obtain ⟨running, -⟩ := polled.reading reading
      obtain ⟨driver, rfl⟩ := cycleStep_read_of_acks reading running active pin rawTimeStamp taken
      intro delivered
      have inv := (polled.read_ok reads reading rawTimeStamp driver).coordinator
      have entry := delivered.put rfl (str "ambient_temp_alert", []) (by simp [matching])
      rw [System.mails, inv.current _ rfl, List.mem_singleton] at entry
      exact absurd (congrArg Prod.fst entry) (by decide : str "ambient_temp_alert" ≠ str "ambient_temp")
  | start rawTimeStamp => exact absurd trivial alerted
  | finish rawTimeStamp => exact absurd trivial alerted
  | convert temperature => exact absurd trivial alerted
  | tryGet => exact absurd trivial alerted
  | checkSend order => exact absurd trivial alerted

end Polled

/-- In every interleaving each entry that `GetData` appends is delivered exactly as long as the alert
pin never matches the polarity. -/
theorem delivered_iff_noAlert (reads : ReadsDecimals format) (driver : Driver) (events : List Event) :
    EveryState (cycleStep format deviceUuid) (Delivered format deviceUuid) (boot driver) events ↔
      EveryStep (cycleStep format deviceUuid) NoAlert (boot driver) events :=
  everyState_iff_everyStep (fun _ polled => polled.delivered reads)
    (fun _ _ _ polled quiet taken => polled_step reads polled quiet taken)
    (fun _ _ _ polled alerted taken => lost_of_alert polled reads alerted taken) (polled_boot driver) events

-- whole numbers, as `std::stod` reads them and jsoncpp prints them
def wholeFormat : DoubleFormat where
  Double := Int
  stod s := if s.any isDigit then .ok (leadingInteger s) else .error (.outOfRange "stod")
  valueToString valueFloat := decimalInt valueFloat ++ str ".0"
  printable := by
    intro valueFloat c member
    rcases List.mem_append.mp member with member | member
    · exact le_of_mem_decimalInt valueFloat c member
    · exact @le_of_all (str ".0") (by decide) c member

theorem readsDecimals_wholeFormat : ReadsDecimals wholeFormat := by
  rintro text width negative value ⟨whole, fraction, rfl, nonempty, digits, -⟩ - -
  obtain ⟨c, member⟩ := List.exists_mem_of_ne_nil whole nonempty
  refine ⟨_, if_pos (List.any_eq_true.mpr ⟨c, ?_, List.all_eq_true.mp digits c member⟩)⟩
  exact List.mem_append_left _ (List.mem_append_right _ member)

def warm : Driver :=
  { tmp75 0 0 0 ⟨0x1900, 0, 0⟩ with active := true, tmpConfig := { pol := true } }

def warmProfile : EntityValuePairs := updateValue (str "ambient_temp") (str "25.00") 0 ∅

-- a poll cycle, and the coordinator's iterations for its three mails
def warmCycle : List Event :=
  [.start 0, .read ⟨true, true⟩ false 0, .finish 1, .tryGet, .checkSend ∅, .tryGet, .checkSend ∅, .tryGet,
    .checkSend warmProfile]

def warmPacket : Bytes :=
  str "\x7b\"id\":\"7F\",\"method\":\"thing.measurepoint.post\",\"params\":" ++
    str "\x7b\"measurepoints\":\x7b\"ambient_temp\":25.0\x7d\x7d,\"version\":\"1.0\"\x7d"

theorem noAlert_warmCycle : EveryStep (cycleStep wholeFormat (str "7F")) NoAlert (boot warm) warmCycle := by
  refine (everyStep_cons ..).mpr fun started taken => ⟨trivial, ?_⟩
  obtain rfl := Option.some.inj taken
  refine (everyStep_cons ..).mpr fun measured _ => ⟨fun _ _ => (by decide : false ≠ true), ?_⟩
  refine (everyStep_cons ..).mpr fun finished _ => ⟨trivial, ?_⟩
  iterate 6 refine (everyStep_cons ..).mpr fun _ _ => ⟨trivial, ?_⟩
  exact everyStep_nil _ _ _

theorem delivered_warm :
    (run (cycleStep wholeFormat (str "7F")) (boot warm) warmCycle).map
        (fun system => system.coordinator.commsUpstream) = some [warmPacket] ∧
      EveryState (cycleStep wholeFormat (str "7F")) (Delivered wholeFormat (str "7F")) (boot warm) warmCycle := by
  constructor
  · decide +kernel
  · exact (delivered_iff_noAlert _ _ readsDecimals_wholeFormat warm _).mpr noAlert_warmCycle

theorem alert_lost : ¬ ∀ (format : DoubleFormat) (deviceUuid : Bytes), ReadsDecimals format →
    ∀ (driver : Driver) (events : List Event),
      EveryState (cycleStep format deviceUuid) (Delivered format deviceUuid) (boot driver) events := by
  intro delivered
  have every := delivered wholeFormat (str "7F") readsDecimals_wholeFormat warm
    [.start 0, .read ⟨true, true⟩ true 0]
  have started := (polled_boot warm : Polled wholeFormat (str "7F") _).start 0 rfl
  refine @lost_of_alert _ _ _ _ started readsDecimals_wholeFormat (.read ⟨true, true⟩ true 0) ?_ rfl
    (every.last rfl)
  exact fun quiet => quiet rfl rfl rfl

end DecadaEmbedded.Tmp75
