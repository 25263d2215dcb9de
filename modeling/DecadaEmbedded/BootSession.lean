import DecadaEmbedded.BootManager

/-!
# What a session of the boot manager does, in order

The lines that `GetUserInputString` returns, the menus and the flash writes of `RunBootManager`.
`replay_runBootManagerEvents` gives the flash of `runBootManager` back from the writes.
-/

namespace DecadaEmbedded.BootSession
open Library PersistStore BootManager

inductive Event where
  | menu
  | line (entered : Bytes)
  | write (key : PersistKey) (val : Bytes)
deriving DecidableEq, Repr

def loginEvents : Nat → Bytes → List Event
  | 0, _ => []
  | attempts + 1, console =>
      match getUserInputString [] console with
      | .error _ => []
      | .ok (userInput, rest) =>
          .line userInput :: if userInput = bootLoginPw then [] else loginEvents attempts rest

def initAfterLoginEvents : List Event :=
  [.write .cycleInterval pollRateMs, .write .initFlag (str "true")]

variable (useSecureElement : Bool)

def clearClientSslDataEvents : List Event :=
  [.write .clientCertificate [], .write .clientCertificateSn []] ++
    if useSecureElement then [] else [.write .clientPrivateKey []]

def setDefaultConfigEvents : List Event :=
  [.write .wifiSsid (str "WIFI_SSID"), .write .wifiPass (str "WIFI_PW")] ++
    clearClientSslDataEvents useSecureElement

def enterEvents (key : PersistKey) (console : Bytes) : List Event :=
  match getUserInputString [] console with
  | .error _ => []
  | .ok (entered, _) => [.line entered, .write key entered]

def choiceEvents (userInput console : Bytes) : List Event :=
  if userInput = str "-2" then []
  else if userInput = str "-1" then setDefaultConfigEvents useSecureElement
  else if userInput = str "1" then enterEvents .wifiSsid console
  else if userInput = str "2" then enterEvents .wifiPass console
  else if userInput = str "3" then clearClientSslDataEvents useSecureElement
  else []

def menuTurnEvents (console : Bytes) (flash : Flash) : List Event :=
  .menu ::
    match printMenu flash.now with
    | .error _ => []
    | .ok _ =>
        match getUserInputString [] console with
        | .error _ => []
        | .ok (userInput, rest) => .line userInput :: choiceEvents useSecureElement userInput rest

def menuLoopEvents (console : Bytes) (flash : Flash) : List Event :=
  match turn : menuTurn useSecureElement console flash with
  | .error _ => menuTurnEvents useSecureElement console flash
  | .ok (rest, next) =>
      have := menuTurn_length useSecureElement turn
      menuTurnEvents useSecureElement console flash ++ menuLoopEvents rest next
termination_by console.length

def Event.perform (flash : Flash) : Event → Flash
  | .write key val => flash.advance (writeKey 0 key val)
  | .menu | .line _ => flash

def replay (flash : Flash) (events : List Event) : Flash := events.foldl Event.perform flash

def startEvents (store : Store) : List Event :=
  (if readInitFlag {} store ≠ str "true" then setDefaultConfigEvents useSecureElement else []) ++
    [.write .swVer sdkVer]

def afterLoginEvents (console : Bytes) (flash : Flash) : List Event :=
  match bootManagerLogin maxLoginAttempts console with
  | .error _ => []
  | .ok rest => initAfterLoginEvents ++ menuLoopEvents useSecureElement rest (initAfterLogin flash)

def runBootManagerEvents (console : Bytes) (store : Store) : List Event :=
  let started := startEvents useSecureElement store
  started ++ loginEvents maxLoginAttempts console ++
    afterLoginEvents useSecureElement console (replay (.start store) started)

/-! ## The writes -/

theorem replay_append (flash : Flash) (events later : List Event) :
    replay flash (events ++ later) = replay (replay flash events) later :=
  List.foldl_append

theorem replay_loginEvents (attempts : Nat) (console : Bytes) (flash : Flash) :
    replay flash (loginEvents attempts console) = flash := by
  induction attempts generalizing console with
  | zero => rfl
  | succ attempts ih =>
      unfold loginEvents
      cases getUserInputString [] console with
      | error halt => rfl
      | ok entered =>
          obtain ⟨userInput, rest⟩ := entered
          dsimp only
          split_ifs
          · rfl
          · exact ih rest

theorem replay_clearClientSslDataEvents (flash : Flash) :
    replay flash (clearClientSslDataEvents useSecureElement) = clearClientSslData useSecureElement flash := by
  cases useSecureElement <;> rfl

theorem replay_setDefaultConfigEvents (flash : Flash) :
    replay flash (setDefaultConfigEvents useSecureElement) = setDefaultConfig useSecureElement flash := by
  cases useSecureElement <;> rfl

/-! ## The lines -/

def Event.entered? : Event → Option Bytes
  | .line entered => some entered
  | .menu | .write _ _ => none

def entered (events : List Event) : List Bytes := events.filterMap Event.entered?

theorem entered_append (events later : List Event) :
    entered (events ++ later) = entered events ++ entered later :=
  List.filterMap_append

theorem entered_line (line : Bytes) (events : List Event) :
    entered (.line line :: events) = line :: entered events := rfl

theorem entered_clearClientSslDataEvents : entered (clearClientSslDataEvents useSecureElement) = [] := by
  cases useSecureElement <;> rfl

theorem entered_setDefaultConfigEvents : entered (setDefaultConfigEvents useSecureElement) = [] := by
  cases useSecureElement <;> rfl

theorem entered_startEvents (store : Store) : entered (startEvents useSecureElement store) = [] := by
  unfold startEvents
  split_ifs
  · rw [entered_append, entered_setDefaultConfigEvents]
    rfl
  · rfl

/-- What part of a session leaves behind: its events, replayed, lead to the flash, and the lines
among them are the first ones of the console. -/
inductive Does (console : Bytes) (flash : Flash) (events : List Event) :
    Except Halt (Bytes × Flash) → Prop where
  | halts {halt : Halt} (kept : replay flash events = flash) (read : entered events <+: lines console) :
      Does console flash events (.error halt)
  | goesOn {rest : Bytes} {next : Flash} (wrote : replay flash events = next)
      (read : lines console = entered events ++ lines rest) : Does console flash events (.ok (rest, next))

theorem enterEvents_does (key : PersistKey) (console : Bytes) (flash : Flash) :
    Does console flash (enterEvents key console) (do
      let (entered, console) ← getUserInputString [] console
      return (console, flash.advance (writeKey 0 key entered))) := by
  unfold enterEvents
  rcases getUserInputString_cases [] console with ⟨waits, -⟩ | ⟨line, rest, taken, first⟩
  · rw [waits]
    exact .halts rfl List.nil_prefix
  · rw [taken]
    exact .goesOn rfl first

theorem Does.line {console rest line : Bytes} {flash : Flash} {events : List Event}
    {result : Except Halt (Bytes × Flash)} (first : lines console = line :: lines rest)
    (does : Does rest flash events result) : Does console flash (.line line :: events) result := by
  cases does with
  | halts kept read =>
      refine .halts kept ?_
      rw [first, entered_line]
      exact List.cons_prefix_cons.mpr ⟨rfl, read⟩
  | goesOn wrote read =>
      refine .goesOn wrote ?_
      rw [first, entered_line, read, List.cons_append]

theorem Does.menu {console : Bytes} {flash : Flash} {events : List Event}
    {result : Except Halt (Bytes × Flash)} (does : Does console flash events result) :
    Does console flash (.menu :: events) result := by
  cases does with
  | halts kept read => exact .halts kept read
  | goesOn wrote read => exact .goesOn wrote read

theorem menuTurn_does (console : Bytes) (flash : Flash) :
    Does console flash (menuTurnEvents useSecureElement console flash)
      (menuTurn useSecureElement console flash) := by
  unfold menuTurn menuTurnEvents
  apply Does.menu
  cases printMenu flash.now with
  | error raised => exact .halts rfl List.nil_prefix
  | ok text =>
      dsimp only [Except.mapError]
      rw [ok_bind]
      rcases getUserInputString_cases [] console with ⟨waits, -⟩ | ⟨userInput, rest, taken, first⟩
      · rw [waits]
        exact .halts rfl List.nil_prefix
      · rw [taken, ok_bind]
        apply Does.line first
        unfold choiceEvents
        split_ifs
        · exact .halts rfl List.nil_prefix
        · refine .goesOn (replay_setDefaultConfigEvents useSecureElement flash) ?_
          rw [entered_setDefaultConfigEvents, List.nil_append]
        · exact enterEvents_does .wifiSsid rest flash
        · exact enterEvents_does .wifiPass rest flash
        · refine .goesOn (replay_clearClientSslDataEvents useSecureElement flash) ?_
          rw [entered_clearClientSslDataEvents, List.nil_append]
        · exact .goesOn rfl rfl

theorem menuLoopEvents_of_ok {console rest : Bytes} {flash next : Flash}
    (turn : menuTurn useSecureElement console flash = .ok (rest, next)) :
    menuLoopEvents useSecureElement console flash =
      menuTurnEvents useSecureElement console flash ++ menuLoopEvents useSecureElement rest next := by
  rw [menuLoopEvents]
  split
  · rename_i same
    cases turn.symm.trans same
  · rename_i same
    cases turn.symm.trans same
    rfl

theorem menuLoopEvents_of_error {console : Bytes} {flash : Flash} {halt : Halt}
    (turn : menuTurn useSecureElement console flash = .error halt) :
    menuLoopEvents useSecureElement console flash = menuTurnEvents useSecureElement console flash := by
  rw [menuLoopEvents]
  split
  · rfl
  · rename_i same
    cases turn.symm.trans same

theorem menuLoopEvents_does (console : Bytes) (flash : Flash) :
    replay flash (menuLoopEvents useSecureElement console flash) =
        (menuLoop useSecureElement console flash).2 ∧
      entered (menuLoopEvents useSecureElement console flash) <+: lines console := by
  induction length : console.length using Nat.strong_induction_on generalizing console flash with
  | _ n ih =>
      have does := menuTurn_does useSecureElement console flash
      cases result : menuTurn useSecureElement console flash with
      | error halt =>
          rw [menuLoopEvents_of_error useSecureElement result, menuLoop_of_error useSecureElement result]
          rw [result] at does
          cases does with
          | halts kept read => exact ⟨kept, read⟩
      | ok after =>
          obtain ⟨rest, next⟩ := after
          have shorter := menuTurn_length useSecureElement result
          obtain ⟨wroteLater, readLater⟩ := ih rest.length (by omega) rest next rfl
          rw [menuLoopEvents_of_ok useSecureElement result, menuLoop_of_ok useSecureElement result,
            replay_append, entered_append]
          rw [result] at does
          cases does with
          | goesOn wrote read =>
              rw [wrote, read]
              exact ⟨wroteLater, (List.prefix_append_right_inj _).mpr readLater⟩

/-! ## What the menu writes -/

def menuKeys : List PersistKey :=
  [.wifiSsid, .wifiPass, .clientCertificate, .clientCertificateSn, .clientPrivateKey]

def WritesOnly (keys : List PersistKey) (events : List Event) : Prop :=
  ∀ key val, .write key val ∈ events → key ∈ keys

theorem writesOnly_setDefaultConfigEvents :
    WritesOnly menuKeys (setDefaultConfigEvents useSecureElement) := by
  intro key val member
  cases useSecureElement <;>
    simp [setDefaultConfigEvents, clearClientSslDataEvents] at member <;>
    rcases member with ⟨rfl, -⟩ | ⟨rfl, -⟩ | ⟨rfl, -⟩ | ⟨rfl, -⟩ | ⟨rfl, -⟩ <;> decide

theorem writesOnly_clearClientSslDataEvents :
    WritesOnly menuKeys (clearClientSslDataEvents useSecureElement) :=
  fun key val member =>
    writesOnly_setDefaultConfigEvents useSecureElement key val (List.mem_append_right _ member)

theorem writesOnly_enterEvents {key : PersistKey} (menu : key ∈ menuKeys) (console : Bytes) :
    WritesOnly menuKeys (enterEvents key console) := by
  intro written val member
  unfold enterEvents at member
  split at member
  · cases member
  · simp only [List.mem_cons, reduceCtorEq, Event.write.injEq, List.not_mem_nil, or_false,
      false_or] at member
    rw [member.1]
    exact menu

theorem writesOnly_menuTurnEvents (console : Bytes) (flash : Flash) :
    WritesOnly menuKeys (menuTurnEvents useSecureElement console flash) := by
  intro key val member
  unfold menuTurnEvents at member
  rcases List.mem_cons.mp member with same | member
  · cases same
  split at member
  · cases member
  split at member
  · cases member
  rcases List.mem_cons.mp member with same | member
  · cases same
  unfold choiceEvents at member
  split_ifs at member
  · cases member
  · exact writesOnly_setDefaultConfigEvents useSecureElement key val member
  · exact writesOnly_enterEvents (by decide) _ key val member
  · exact writesOnly_enterEvents (by decide) _ key val member
  · exact writesOnly_clearClientSslDataEvents useSecureElement key val member
  · cases member

theorem writesOnly_menuLoopEvents (console : Bytes) (flash : Flash) :
    WritesOnly menuKeys (menuLoopEvents useSecureElement console flash) := by
  induction length : console.length using Nat.strong_induction_on generalizing console flash with
  | _ n ih =>
      intro key val member
      cases result : menuTurn useSecureElement console flash with
      | error halt =>
          rw [menuLoopEvents_of_error useSecureElement result] at member
          exact writesOnly_menuTurnEvents useSecureElement console flash key val member
      | ok after =>
          obtain ⟨rest, next⟩ := after
          have shorter := menuTurn_length useSecureElement result
          rw [menuLoopEvents_of_ok useSecureElement result] at member
          rcases List.mem_append.mp member with now | later
          · exact writesOnly_menuTurnEvents useSecureElement console flash key val now
          · exact ih rest.length (by omega) rest next rfl key val later

theorem always_replay {property : Store → Prop} {keys : List PersistKey}
    (keeps : ∀ key ∈ keys, ∀ val store, property store → property (writeKey 0 key val store))
    {events : List Event} (writes : WritesOnly keys events) {flash : Flash}
    (always : flash.Always property) : (replay flash events).Always property := by
  induction events generalizing flash with
  | nil => exact always
  | cons event events ih =>
      have rest : WritesOnly keys events :=
        fun key val member => writes key val (List.mem_cons_of_mem _ member)
      apply ih rest
      cases event with
      | menu => exact always
      | line line => exact always
      | write key val =>
          exact always.advance (writeKey 0 key val) (keeps key (writes key val (by simp)) val _ always.now)

/-! ## The login -/

/-- The login takes lines up to the passphrase, or all it may. -/
inductive Logs (attempts : Nat) (console : Bytes) (events : List Event) : Except Halt Bytes → Prop where
  | refused {halt : Halt} (read : entered events <+: lines console)
      (wrong : bootLoginPw ∉ (lines console).take attempts) : Logs attempts console events (.error halt)
  | accepted {rest : Bytes} (read : lines console = entered events ++ lines rest)
      (few : (entered events).length ≤ attempts) (passphrase : bootLoginPw ∈ entered events) :
      Logs attempts console events (.ok rest)

theorem loginEvents_logs (attempts : Nat) (console : Bytes) :
    Logs attempts console (loginEvents attempts console) (bootManagerLogin attempts console) := by
  induction attempts generalizing console with
  | zero => exact .refused List.nil_prefix (by simp)
  | succ attempts ih =>
      unfold loginEvents bootManagerLogin
      rcases getUserInputString_cases [] console with ⟨waits, none⟩ | ⟨userInput, rest, taken, first⟩
      · rw [waits]
        refine .refused List.nil_prefix ?_
        rw [show lines console = [] from none]
        simp
      · rw [taken, ok_bind]
        dsimp only
        by_cases right : userInput = bootLoginPw
        · rw [if_pos right, if_pos right]
          refine .accepted first ?_ ?_
          · rw [entered_line, List.length_cons]
            exact Nat.succ_le_succ (Nat.zero_le attempts)
          · simp [entered_line, right]
        · rw [if_neg right, if_neg right]
          have later := ih rest
          have split : lines console = userInput :: lines rest := first
          cases result : bootManagerLogin attempts rest with
          | error halt =>
              rw [result] at later
              cases later with
              | refused read wrong =>
                  refine .refused ?_ ?_
                  · rw [split, entered_line]
                    exact List.cons_prefix_cons.mpr ⟨rfl, read⟩
                  · rw [split, List.take_succ_cons, List.mem_cons, not_or]
                    exact ⟨Ne.symm right, wrong⟩
          | ok left =>
              rw [result] at later
              cases later with
              | accepted read few passphrase =>
                  refine .accepted ?_ ?_ ?_
                  · rw [split, entered_line, read, List.cons_append]
                  · rw [entered_line, List.length_cons]
                    exact Nat.succ_le_succ few
                  · rw [entered_line]
                    exact List.mem_cons_of_mem _ passphrase

/-! ## What the passphrase guards -/

def Event.Privileged : Event → Prop
  | .menu => True
  | .line _ => False
  | .write key _ => key ≠ .swVer

instance : DecidablePred Event.Privileged
  | .menu => isTrue trivial
  | .line _ => isFalse id
  | .write _ _ => inferInstanceAs (Decidable (_ ≠ _))

structure Guarded (console : Bytes) (store : Store) (events : List Event) (flash : Flash) : Prop where
  written : replay (.start store) events = flash
  read : entered events <+: lines console
  passphraseFirst : ∀ before event, before ++ [event] <+: events → event.Privileged →
    bootLoginPw ∈ (entered before).take maxLoginAttempts
  locked : bootLoginPw ∉ (lines console).take maxLoginAttempts → ∀ event ∈ events, ¬ event.Privileged

theorem not_privileged_of_mem_loginEvents {attempts : Nat} {console : Bytes} {event : Event}
    (member : event ∈ loginEvents attempts console) : ¬ event.Privileged := by
  induction attempts generalizing console with
  | zero => cases member
  | succ attempts ih =>
      unfold loginEvents at member
      split at member
      · cases member
      · rcases List.mem_cons.mp member with rfl | later
        · exact id
        · split_ifs at later
          · cases later
          · exact ih later

theorem startEvents_of_ready {store : Store} (ready : readInitFlag {} store = str "true") :
    startEvents useSecureElement store = [.write .swVer sdkVer] := by
  simp [startEvents, ready]

theorem replay_runBootManagerEvents (console : Bytes) (store : Store) :
    replay (.start store) (runBootManagerEvents useSecureElement console store) =
      (runBootManager useSecureElement console store).2 := by
  have started : replay (.start store) (startEvents useSecureElement store) =
      (if readInitFlag {} store ≠ str "true" then
        setDefaultConfig useSecureElement (.start store) else .start store).advance (writeSwVer 0 sdkVer) := by
    unfold startEvents
    split_ifs
    · rw [replay_append, replay_setDefaultConfigEvents]
      rfl
    · rfl
  simp only [runBootManagerEvents, replay_append, replay_loginEvents, afterLoginEvents, started,
    runBootManager, Journal.now_start]
  cases bootManagerLogin maxLoginAttempts console with
  | error halt => rfl
  | ok rest =>
      rw [replay_append]
      exact (menuLoopEvents_does useSecureElement rest _).1

theorem read_runBootManagerEvents (console : Bytes) (store : Store) :
    entered (runBootManagerEvents useSecureElement console store) <+: lines console := by
  have logs := loginEvents_logs maxLoginAttempts console
  simp only [runBootManagerEvents, entered_append, entered_startEvents, List.nil_append,
    afterLoginEvents]
  cases result : bootManagerLogin maxLoginAttempts console with
  | error halt =>
      rw [result] at logs
      cases logs with
      | refused read wrong => simpa [entered] using read
  | ok rest =>
      rw [result] at logs
      cases logs with
      | accepted read few passphrase =>
          rw [read, entered_append]
          exact (List.prefix_append_right_inj _).mpr (menuLoopEvents_does useSecureElement rest _).2

theorem prefix_or_append_prefix {α : Type} {before : List α} {event : α} {first later : List α}
    (earlier : before ++ [event] <+: first ++ later) : event ∈ first ∨ first <+: before := by
  rcases Nat.lt_or_ge before.length first.length with inside | beyond
  · left
    have whole : before ++ [event] <+: first := by
      apply List.prefix_of_prefix_length_le earlier (List.prefix_append _ _)
      rw [List.length_append]
      exact inside
    exact whole.subset (by simp)
  · right
    exact List.prefix_of_prefix_length_le (List.prefix_append _ _)
      ((List.prefix_append _ _).trans earlier) beyond

theorem mem_take_of_prefix {first whole : List Bytes} {line : Bytes} {attempts : Nat}
    (read : first <+: whole) (few : first.length ≤ attempts) (member : line ∈ first) :
    line ∈ whole.take attempts := by
  have whole_take : first <+: whole.take attempts :=
    List.prefix_of_prefix_length_le read (List.take_prefix _ _) (by
      rw [List.length_take]
      exact le_min few read.length_le)
  exact whole_take.subset member

/-- On a configured device nothing but `sw_ver` is written and no menu is shown before one of the
first three lines has been the passphrase, and never if none of them is. -/
theorem runBootManager_guarded {store : Store} (ready : readInitFlag {} store = str "true")
    (console : Bytes) :
    Guarded console store (runBootManagerEvents useSecureElement console store)
      (runBootManager useSecureElement console store).2 := by
  have early : ∀ event ∈ startEvents useSecureElement store ++ loginEvents maxLoginAttempts console,
      ¬ event.Privileged := by
    intro event member
    rw [startEvents_of_ready useSecureElement ready] at member
    rcases List.mem_append.mp member with started | login
    · rw [List.mem_singleton.mp started]
      decide
    · exact not_privileged_of_mem_loginEvents login
  have written := replay_runBootManagerEvents useSecureElement console store
  have taken := read_runBootManagerEvents useSecureElement console store
  have logs := loginEvents_logs maxLoginAttempts console
  cases result : bootManagerLogin maxLoginAttempts console with
  | error halt =>
      have unprivileged : ∀ event ∈ runBootManagerEvents useSecureElement console store,
          ¬ event.Privileged := by
        simpa only [runBootManagerEvents, afterLoginEvents, result, List.append_nil] using early
      refine ⟨written, taken, ?_, fun _ => unprivileged⟩
      intro before event earlier privileged
      exact absurd privileged (unprivileged event (earlier.subset (by simp)))
  | ok rest =>
      rw [result] at logs
      cases logs with
      | accepted read few passphrase =>
          refine ⟨written, taken, ?_, fun wrong => ?_⟩
          · intro before event earlier privileged
            rcases prefix_or_append_prefix earlier with member | ⟨later, rfl⟩
            · exact absurd privileged (early event member)
            · rw [entered_append, entered_append, entered_startEvents, List.nil_append]
              exact mem_take_of_prefix (List.prefix_append _ _) few passphrase
          · apply absurd _ wrong
            rw [read]
            exact mem_take_of_prefix (List.prefix_append _ _) few passphrase

def configured : Store := writeInitFlag 0 (str "true") fun _ => none

theorem runBootManager_guarded_configured :
    Guarded (str "a\x08stack2020\r-2\r") configured
      (runBootManagerEvents false (str "a\x08stack2020\r-2\r") configured)
      (runBootManager false (str "a\x08stack2020\r-2\r") configured).2 :=
  runBootManager_guarded false (by decide +kernel) _

end DecadaEmbedded.BootSession
