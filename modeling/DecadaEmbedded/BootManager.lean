import DecadaEmbedded.PersistStore

/-!
# `BootManager/boot_manager.cpp`

The boot manager as a function of the console bytes and the flash. Where the bytes end it waits
for more. What it prints is left out, apart from the censored password. Flash calls succeed.
-/

namespace DecadaEmbedded.BootManager
open Library PersistStore

inductive Halt where
  | waiting
  | locked
  | reset
  | raised (raised : Raised)
deriving DecidableEq, Repr

def sdkVer : Bytes := str "3.1.0"
def maxLoginAttempts : Nat := 3
def pollRateMs : Bytes := str "10000"
def bootLoginPw : Bytes := str "stack2020"

-- the censored password
def printMenu (store : Store) : Except Raised Bytes :=
  let censoredWifiPass := readWifiPass {} store
  replace censoredWifiPass 1 (sizeSub censoredWifiPass.length 2) (sizeSub censoredWifiPass.length 2) 42

/-- The line read, after the part of it that stands in `input`, and the bytes behind it. -/
def getUserInputString (input : Bytes) : Bytes → Except Halt (Bytes × Bytes)
  | [] => .error .waiting
  | c :: rest =>
      if c = 13 ∨ c = 10 then .ok (input, rest)
      else if c = 8 then
        -- on an empty line the count wraps to the largest size, and the whole line is taken
        match substr input 0 (sizeSub input.length 1) with
        | .ok input => getUserInputString input rest
        | .error raised => .error (.raised raised)
      else getUserInputString (input ++ [c]) rest

def bootManagerLogin : Nat → Bytes → Except Halt Bytes
  | 0, _ => .error .locked
  | attempts + 1, console => do
      let (userInput, rest) ← getUserInputString [] console
      if userInput = bootLoginPw then return rest
      else bootManagerLogin attempts rest

def initAfterLogin (flash : Flash) : Flash :=
  (flash.advance (writeCycleInterval 0 pollRateMs)).advance (writeInitFlag 0 (str "true"))

variable (useSecureElement : Bool)

def clearClientSslData (flash : Flash) : Flash :=
  let flash := flash.advance (writeClientCertificate 0 [])
  let flash := flash.advance (writeClientCertificateSerialNumber 0 [])
  if useSecureElement then flash else flash.advance (writeClientPrivateKey 0 [])

def setDefaultConfig (flash : Flash) : Flash :=
  let flash := flash.advance (writeWifiSsid 0 (str "WIFI_SSID"))
  let flash := flash.advance (writeWifiPass 0 (str "WIFI_PW"))
  clearClientSslData useSecureElement flash

def menuTurn (console : Bytes) (flash : Flash) : Except Halt (Bytes × Flash) := do
  let _ ← (printMenu flash.now).mapError Halt.raised
  let (userInput, console) ← getUserInputString [] console
  if userInput = str "-2" then .error .reset
  else if userInput = str "-1" then return (console, setDefaultConfig useSecureElement flash)
  else if userInput = str "1" then
    let (ssid, console) ← getUserInputString [] console
    return (console, flash.advance (writeWifiSsid 0 ssid))
  else if userInput = str "2" then
    let (pass, console) ← getUserInputString [] console
    return (console, flash.advance (writeWifiPass 0 pass))
  else if userInput = str "3" then return (console, clearClientSslData useSecureElement flash)
  else return (console, flash)

theorem substr_backspace (input : Bytes) :
    substr input 0 (sizeSub input.length 1) = .ok input.dropLast := by
  cases input with
  | nil => rfl
  | cons c rest => simp [substr, sizeSub, List.dropLast_eq_take]

theorem getUserInputString_length {input console line rest : Bytes}
    (taken : getUserInputString input console = .ok (line, rest)) : rest.length < console.length := by
  induction console generalizing input with
  | nil => cases taken
  | cons c console ih =>
      simp only [getUserInputString, substr_backspace] at taken
      split_ifs at taken
      · cases taken
        simp
      · exact Nat.lt_succ_of_lt (ih taken)
      · exact Nat.lt_succ_of_lt (ih taken)

theorem menuTurn_length {console rest : Bytes} {flash next : Flash}
    (turn : menuTurn useSecureElement console flash = .ok (rest, next)) :
    rest.length < console.length := by
  simp only [menuTurn] at turn
  obtain ⟨-, -, turn⟩ := bind_eq_ok.mp turn
  obtain ⟨⟨userInput, after⟩, choice, turn⟩ := bind_eq_ok.mp turn
  have shorter := getUserInputString_length choice
  split_ifs at turn
  · cases pure_eq_ok.mp turn
    exact shorter
  · obtain ⟨⟨ssid, last⟩, entered, done⟩ := bind_eq_ok.mp turn
    cases pure_eq_ok.mp done
    exact (getUserInputString_length entered).trans shorter
  · obtain ⟨⟨pass, last⟩, entered, done⟩ := bind_eq_ok.mp turn
    cases pure_eq_ok.mp done
    exact (getUserInputString_length entered).trans shorter
  · cases pure_eq_ok.mp turn
    exact shorter
  · cases pure_eq_ok.mp turn
    exact shorter

def menuLoop (console : Bytes) (flash : Flash) : Halt × Flash :=
  match turn : menuTurn useSecureElement console flash with
  | .error halt => (halt, flash)
  | .ok (rest, next) =>
      have := menuTurn_length useSecureElement turn
      menuLoop rest next
termination_by console.length

def runBootManager (console : Bytes) (store : Store) : Halt × Flash :=
  let flash := Journal.start store
  let flash :=
    if readInitFlag {} flash.now ≠ str "true" then setDefaultConfig useSecureElement flash else flash
  let flash := flash.advance (writeSwVer 0 sdkVer)
  match bootManagerLogin maxLoginAttempts console with
  | .error halt => (halt, flash)
  | .ok console => menuLoop useSecureElement console (initAfterLogin flash)

/-! ## Lines -/

/-- The complete lines of a console stream, edited; `line` is the part of the first one before it. -/
def linesFrom (line : Bytes) : Bytes → List Bytes
  | [] => []
  | c :: rest =>
      if c = 13 ∨ c = 10 then line :: linesFrom [] rest
      else if c = 8 then linesFrom line.dropLast rest
      else linesFrom (line ++ [c]) rest

def lines (console : Bytes) : List Bytes := linesFrom [] console

/-- The passwords that the operator enters before quitting. -/
def newPasswords : List Bytes → List Bytes
  | [] | [_] => []
  | choice :: line :: rest =>
      if choice = str "-2" then []
      else if choice = str "1" then newPasswords rest
      else if choice = str "2" then line :: newPasswords rest
      else newPasswords (line :: rest)

theorem getUserInputString_cases (input console : Bytes) :
    (getUserInputString input console = .error .waiting ∧ linesFrom input console = []) ∨
      ∃ line rest, getUserInputString input console = .ok (line, rest) ∧
        linesFrom input console = line :: lines rest := by
  induction console generalizing input with
  | nil => exact .inl ⟨rfl, rfl⟩
  | cons c console ih =>
      simp only [getUserInputString, linesFrom, substr_backspace]
      split_ifs
      · exact .inr ⟨input, console, rfl, rfl⟩
      · exact ih _
      · exact ih _

theorem newPasswords_cons (choice : Bytes) (rest : List Bytes) :
    newPasswords (choice :: rest) =
      if choice = str "-2" then []
      else if choice = str "1" then newPasswords rest.tail
      else if choice = str "2" then rest.head?.toList ++ newPasswords rest.tail
      else newPasswords rest := by
  cases rest with
  | nil => simp [newPasswords]
  | cons line rest => simp [newPasswords]

/-! ## The censored password -/

-- no string is longer than `maxSize`
def Censorable (pass : Bytes) : Prop := 2 ≤ pass.length ∧ pass.length ≤ maxSize

instance : DecidablePred Censorable := fun _ => inferInstanceAs (Decidable (_ ∧ _))

theorem printMenu_ok_iff {store : Store} :
    (∃ text, printMenu store = .ok text) ↔ Censorable (readWifiPass {} store) := by
  generalize pass : readWifiPass {} store = text
  simp only [printMenu, pass, replace, Censorable]
  split_ifs with short long
  · simp only [exists_false, false_iff]
    omega
  · simp only [exists_false, false_iff]
    simp only [sizeSub, maxSize] at long ⊢
    split_ifs at long <;> omega
  · simp only [Except.ok.injEq, exists_eq', true_iff]
    simp only [sizeSub, maxSize] at long ⊢
    split_ifs at long <;> omega

theorem menuTurn_of_not_censorable {console : Bytes} {flash : Flash}
    (tooShort : ¬ Censorable (readWifiPass {} flash.now)) :
    ∃ raised, menuTurn useSecureElement console flash = .error (.raised raised) := by
  cases printed : printMenu flash.now with
  | ok text => exact absurd (printMenu_ok_iff.mp ⟨text, printed⟩) tooShort
  | error raised => exact ⟨raised, by simp [menuTurn, printed, Except.mapError, error_bind]⟩

@[simp] theorem readWifiPass_clearClientSslData (flash : Flash) :
    readWifiPass {} (clearClientSslData useSecureElement flash).now = readWifiPass {} flash.now := by
  cases useSecureElement <;>
    simp [clearClientSslData, readWifiPass, writeClientCertificate, writeClientPrivateKey,
      writeClientCertificateSerialNumber, readKey_writeKey_of_ne]

@[simp] theorem readWifiPass_setDefaultConfig (flash : Flash) :
    readWifiPass {} (setDefaultConfig useSecureElement flash).now = str "WIFI_PW" := by
  rw [setDefaultConfig, readWifiPass_clearClientSslData, Journal.now_advance]
  exact readKey_writeKey_self _ _ _

inductive Turn (console : Bytes) : Except Halt (Bytes × Flash) → Prop where
  | halts {halt : Halt} (quiet : ∀ raised, halt ≠ .raised raised)
      (none : newPasswords (lines console) = []) : Turn console (.error halt)
  | keeps {rest : Bytes} {next : Flash} (same : newPasswords (lines console) = newPasswords (lines rest))
      (censorable : Censorable (readWifiPass {} next.now)) : Turn console (.ok (rest, next))
  | enters {rest pass : Bytes} {next : Flash}
      (entered : newPasswords (lines console) = pass :: newPasswords (lines rest))
      (stored : readWifiPass {} next.now = cstr pass) : Turn console (.ok (rest, next))

theorem menuTurn_turn {flash : Flash} (console : Bytes)
    (censorable : Censorable (readWifiPass {} flash.now)) :
    Turn console (menuTurn useSecureElement console flash) := by
  obtain ⟨text, printed⟩ := printMenu_ok_iff.mpr censorable
  simp only [menuTurn, printed, Except.mapError, ok_bind]
  rcases getUserInputString_cases [] console with ⟨choice, none⟩ | ⟨userInput, rest, choice, first⟩
  · rw [choice]
    exact .halts (by simp) (by simp [lines, none, newPasswords])
  rw [choice]
  have passwords : newPasswords (lines console) = _ :=
    (congrArg newPasswords first).trans (newPasswords_cons userInput (lines rest))
  simp only [ok_bind]
  by_cases quit : userInput = str "-2"
  · subst quit
    exact .halts (by simp) passwords
  by_cases defaults : userInput = str "-1"
  · subst defaults
    refine .keeps passwords ?_
    rw [readWifiPass_setDefaultConfig]
    decide
  by_cases newSsid : userInput = str "1"
  · subst newSsid
    change Turn console (do
      let (ssid, console) ← getUserInputString [] rest
      return (console, flash.advance (writeWifiSsid 0 ssid)))
    rcases getUserInputString_cases [] rest with ⟨waits, none⟩ | ⟨ssid, last, entered, second⟩
    · rw [waits]
      exact .halts (by simp) (passwords.trans (by rw [lines, none]; rfl))
    · rw [entered]
      refine .keeps (passwords.trans (by rw [lines, second]; rfl)) ?_
      rwa [Journal.now_advance, readWifiPass, writeWifiSsid, readKey_writeKey_of_ne (by decide)]
  by_cases newPass : userInput = str "2"
  · subst newPass
    change Turn console (do
      let (pass, console) ← getUserInputString [] rest
      return (console, flash.advance (writeWifiPass 0 pass)))
    rcases getUserInputString_cases [] rest with ⟨waits, none⟩ | ⟨pass, last, entered, second⟩
    · rw [waits]
      exact .halts (by simp) (passwords.trans (by rw [lines, none]; rfl))
    · rw [entered]
      have stored := readKey_writeKey_self .wifiPass pass flash.now
      exact .enters (passwords.trans (by rw [lines, second]; rfl)) stored
  simp only [quit, newSsid, newPass, ↓reduceIte] at passwords
  by_cases clear : userInput = str "3"
  · subst clear
    refine .keeps passwords ?_
    rwa [readWifiPass_clearClientSslData]
  · simp only [quit, defaults, newSsid, newPass, clear, ↓reduceIte]
    exact .keeps passwords censorable

theorem menuLoop_of_ok {console rest : Bytes} {flash next : Flash}
    (turn : menuTurn useSecureElement console flash = .ok (rest, next)) :
    menuLoop useSecureElement console flash = menuLoop useSecureElement rest next := by
  rw [menuLoop]
  split
  · rename_i same
    cases turn.symm.trans same
  · rename_i same
    cases turn.symm.trans same
    rfl

theorem menuLoop_of_error {console : Bytes} {flash : Flash} {halt : Halt}
    (turn : menuTurn useSecureElement console flash = .error halt) :
    menuLoop useSecureElement console flash = (halt, flash) := by
  rw [menuLoop]
  split
  · rename_i same
    cases turn.symm.trans same
    rfl
  · rename_i same
    cases turn.symm.trans same

theorem menuLoop_quiet_iff (console : Bytes) (flash : Flash) :
    (∀ raised, (menuLoop useSecureElement console flash).1 ≠ .raised raised) ↔
      Censorable (readWifiPass {} flash.now) ∧
        ∀ pass ∈ newPasswords (lines console), Censorable (cstr pass) := by
  induction length : console.length using Nat.strong_induction_on generalizing console flash with
  | _ n ih =>
      by_cases censorable : Censorable (readWifiPass {} flash.now)
      · have turn := menuTurn_turn useSecureElement console censorable
        cases result : menuTurn useSecureElement console flash with
        | error halt =>
            rw [result] at turn
            cases turn with
            | halts quiet none =>
                rw [menuLoop_of_error useSecureElement result]
                simp [censorable, none, quiet]
        | ok after =>
            obtain ⟨rest, next⟩ := after
            have shorter := menuTurn_length useSecureElement result
            rw [menuLoop_of_ok useSecureElement result,
              ih rest.length (by omega) rest next rfl]
            rw [result] at turn
            cases turn with
            | keeps same kept => simp [censorable, kept, same]
            | enters entered stored => simp [censorable, entered, stored]
      · obtain ⟨raised, result⟩ := menuTurn_of_not_censorable useSecureElement censorable
        rw [menuLoop_of_error useSecureElement result]
        simp [censorable]

theorem bootManagerLogin_ne_raised (attempts : Nat) (console : Bytes) (raised : Raised) :
    bootManagerLogin attempts console ≠ .error (.raised raised) := by
  induction attempts generalizing console with
  | zero => simp [bootManagerLogin]
  | succ attempts ih =>
      unfold bootManagerLogin
      rcases getUserInputString_cases [] console with ⟨waits, -⟩ | ⟨userInput, rest, entered, -⟩
      · simp [waits, error_bind]
      · rw [entered, ok_bind]
        dsimp only
        split_ifs
        · simp [pure, Except.pure]
        · exact ih rest

/-- Once the login has succeeded the boot manager never raises exactly if the password stored by
then can be censored, and every password entered later. -/
theorem runBootManager_quiet_iff (console : Bytes) (store : Store) :
    (∀ raised, (runBootManager useSecureElement console store).1 ≠ .raised raised) ↔
      ∀ rest, bootManagerLogin maxLoginAttempts console = .ok rest →
        (readInitFlag {} store = str "true" → Censorable (readWifiPass {} store)) ∧
          ∀ pass ∈ newPasswords (lines rest), Censorable (cstr pass) := by
  cases login : bootManagerLogin maxLoginAttempts console with
  | error halt =>
      have quiet : ∀ raised, halt ≠ .raised raised := by
        rintro raised rfl
        exact bootManagerLogin_ne_raised maxLoginAttempts console raised login
      simpa [runBootManager, login] using quiet
  | ok rest =>
      simp only [runBootManager, login, menuLoop_quiet_iff, Except.ok.injEq, forall_eq']
      apply and_congr_left
      intro _
      simp only [initAfterLogin, Journal.now_advance, readWifiPass, writeInitFlag,
        writeCycleInterval, writeSwVer, ne_eq, readKey_writeKey_of_ne, not_false_eq_true,
        reduceCtorEq, Journal.now_start]
      by_cases ready : readInitFlag {} store = str "true"
      · simp [ready]
      · -- the defaults that are stored first can be censored
        have defaults : Censorable (readKey {} .wifiPass
            (setDefaultConfig useSecureElement (Journal.start store)).now) := by
          rw [← readWifiPass, readWifiPass_setDefaultConfig]
          decide
        simp [ready, defaults]

theorem runBootManager_raised : ¬ ∀ useSecureElement console store raised,
    (runBootManager useSecureElement console store).1 ≠ .raised raised := by
  intro quiet
  have login : bootManagerLogin maxLoginAttempts (str "stack2020\r2\r\r") = .ok (str "2\r\r") := by
    decide +kernel
  have never := quiet false (str "stack2020\r2\r\r") fun _ => none
  simp only [runBootManager, login] at never
  have entered : [] ∈ newPasswords (lines (str "2\r\r")) := by decide +kernel
  exact absurd (((menuLoop_quiet_iff _ _ _).mp never).2 [] entered) (by decide)

end DecadaEmbedded.BootManager
