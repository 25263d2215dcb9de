import DecadaEmbedded.Http.OneByOne

/-!
# Headers in segments

A turn in a field name or in a value goes on to its end or to that of the segment, and counts its bytes
once; one at a time they count twice.
-/

namespace DecadaEmbedded.Http
open Library

/-! ## Header fields -/

theorem fieldChar_nread (parser : Parser) (nread : Nat) (ch : UInt8) :
    fieldChar { parser with nread } ch = (fieldChar parser ch).map fun parser => { parser with nread } := by
  obtain ⟨flags, state, headerState⟩ := parser
  cases headerState <;> rfl

theorem fieldLoop_nread (parser : Parser) (nread : Nat) (bytes : Bytes) :
    fieldLoop { parser with nread } bytes =
      (fieldLoop parser bytes).map fun ended => ({ ended.1 with nread }, ended.2) := by
  induction bytes generalizing parser with
  | nil => rfl
  | cons ch rest ih =>
      unfold fieldLoop
      split_ifs
      · rfl
      · rw [fieldChar_nread]
        cases fieldChar parser ch with
        | none => rfl
        | some next =>
            simp only [Option.map_some, Option.bind_eq_bind, Option.bind_some, ih]
            cases fieldLoop next rest <;> rfl

/-- Either all bytes pass, or there is a first that does not. -/
theorem exists_first (passes : UInt8 → Prop) [DecidablePred passes] (bytes : Bytes) :
    (∀ ch ∈ bytes, passes ch) ∨
      ∃ xs ch rest, bytes = xs ++ ch :: rest ∧ (∀ ch ∈ xs, passes ch) ∧ ¬ passes ch := by
  induction bytes with
  | nil => exact .inl fun _ there => nomatch there
  | cons ch rest ih =>
      by_cases here : passes ch
      · rcases ih with all | ⟨xs, stop, behind, rfl, before, stops⟩
        · exact .inl (List.forall_mem_cons.mpr ⟨here, all⟩)
        · exact .inr ⟨ch :: xs, stop, behind, rfl, List.forall_mem_cons.mpr ⟨here, before⟩, stops⟩
      · exact .inr ⟨[], ch, rest, rfl, (fun _ there => nomatch there), here⟩

theorem fieldLoop_append {xs : Bytes} (names : ∀ ch ∈ xs, token ch ≠ 0) {stop : UInt8} (stops : token stop = 0)
    (parser : Parser) (rest : Bytes) : fieldLoop parser (xs ++ stop :: rest) = fieldLoop parser xs := by
  induction xs generalizing parser with
  | nil => exact if_pos stops
  | cons ch xs ih =>
      obtain ⟨name, names⟩ := List.forall_mem_cons.mp names
      rw [List.cons_append, fieldLoop, fieldLoop, if_neg name, if_neg name]
      simp only [ih names]

/-- The session whose header bytes have been counted up to here. -/
def Session.counting (session : Session) (parser : Parser) (n : Nat) : Session :=
  ⟨{ parser with nread := parser.nread + n }, session.response⟩

theorem onHeaderField_eq (session : Session) (text : Bytes) {bytes : Bytes} {parser : Parser} {n : Nat}
    (looped : fieldLoop session.parser bytes = some (parser, n)) :
    onHeaderField (session.marking .headerField text) bytes =
      if httpMaxHeaderSize < parser.nread + n then
        .error ((session.counting parser n).marking .headerField text) n .headerOverflow
      else match bytes[n]? with
        | none => .next ((session.counting parser n).marking .headerField text) (n - 1)
        | some ch =>
            if ch = colon then
              .next (Session.unmarked
                ⟨{ parser with nread := parser.nread + n, state := .headerValueDiscardWs },
                  session.response.setHeaderField (text ++ bytes.take n)⟩) n
            else .error ((session.counting parser n).marking .headerField text) n .invalidHeaderToken := by
  unfold onHeaderField
  rw [show (session.marking .headerField text).parser = session.parser from rfl, looped]
  refine if_congr Iff.rfl rfl ?_
  cases bytes[n]? with
  | none => rfl
  | some ch =>
      refine if_congr Iff.rfl ?_ rfl
      have called := marking_callbackData
        ⟨{ parser with nread := parser.nread + n, state := .headerValueDiscardWs }, session.response⟩
        .headerField text (bytes.take n)
      exact congrArg (Step.next · n) called

theorem marking_counted {session : Session} (datum : Datum) (text : Bytes)
    (counting : session.parser.state.parsingHeader) :
    (session.marking datum text).counted =
      Session.marking ⟨{ session.parser with nread := session.parser.nread + 1 }, session.response⟩ datum text :=
  if_pos counting

section Field
variable {b next final : Session} {ch : UInt8}

theorem switch_field (state : b.parser.state = .headerField) (text : Bytes) (ch : UInt8) (tail : Bytes) :
    switch (b.marking .headerField text).counted ch tail = onHeaderField
      (Session.marking ⟨{ b.parser with nread := b.parser.nread + 1 }, b.response⟩ .headerField text)
      (ch :: tail) := by
  rw [switch, counted_state, show (b.marking .headerField text).parser.state = .headerField from state,
    marking_counted _ _ (by rw [state]; rfl)]

/-- A byte of a name, read alone. -/
theorem byte_field (settled : b.Settled) (state : b.parser.state = .headerField)
    (accepted : byte b ch = some next) (name : token ch ≠ 0) :
    ∃ parser, fieldChar b.parser ch = some parser ∧ parser.state = .headerField ∧
      b.parser.nread + 2 ≤ httpMaxHeaderSize ∧
      next = ⟨{ parser with nread := b.parser.nread + 2 }, b.response.setHeaderField [ch]⟩ := by
  have resumes : b.resume = b.marking .headerField [] := resume_marking .headerField (by rw [state]; rfl)
  obtain ⟨ok, -, -, ends⟩ := byte_spec settled accepted
  have inField : b.parser.headerState.inField := by
    have sound := (settled ok).2
    rw [Parser.Sound, state] at sound
    exact sound
  obtain ⟨index, headerState, taken, -⟩ := fieldChar_spec inField ch
  have looped : fieldLoop { b.parser with nread := b.parser.nread + 1 } [ch] =
      some ({ b.parser with nread := b.parser.nread + 1, index, headerState }, 1) := by
    rw [fieldLoop, if_neg name, fieldChar_nread, taken]
    rfl
  have step := onHeaderField_eq ⟨{ b.parser with nread := b.parser.nread + 1 }, b.response⟩ [] looped
  refine ⟨_, taken, state, ?_⟩
  rcases ends with ⟨run, turned, rfl⟩ | ⟨run, turned, rfl⟩
  · have ends := (turn_eq_switch turned (by simp) (by simp)).1
    rw [resumes, switch_field state, step] at ends
    dsimp only at ends
    split_ifs at ends with exceeds
    cases ends
    refine ⟨by omega, ?_⟩
    rw [marking_advance, marking_flushed]
    rfl
  · have ends := (turn_eq_switch turned (by simp) (by simp)).1
    rw [resumes, switch_field state, step] at ends
    dsimp only at ends
    split_ifs at ends
    cases ends

/-- The byte behind a name, read alone. -/
theorem byte_colon (settled : b.Settled) (state : b.parser.state = .headerField)
    (accepted : byte b ch = some next) (stop : token ch = 0) :
    ch = colon ∧ b.parser.nread + 1 ≤ httpMaxHeaderSize ∧
      next = ⟨{ b.parser with nread := b.parser.nread + 1, state := .headerValueDiscardWs },
        b.response.setHeaderField []⟩ := by
  have resumes : b.resume = b.marking .headerField [] := resume_marking .headerField (by rw [state]; rfl)
  obtain ⟨-, -, -, ends⟩ := byte_spec settled accepted
  have looped : fieldLoop { b.parser with nread := b.parser.nread + 1 } [ch] =
      some ({ b.parser with nread := b.parser.nread + 1 }, 0) := by
    rw [fieldLoop, if_pos stop]
  have step := onHeaderField_eq ⟨{ b.parser with nread := b.parser.nread + 1 }, b.response⟩ [] looped
  rcases ends with ⟨run, turned, rfl⟩ | ⟨run, turned, rfl⟩
  · have ends := (turn_eq_switch turned (by simp) (by simp)).1
    rw [resumes, switch_field state, step] at ends
    dsimp only at ends
    split_ifs at ends with exceeds
    rw [List.getElem?_cons_zero] at ends
    dsimp only at ends
    split_ifs at ends with named
    cases ends
    refine ⟨named, by omega, ?_⟩
    rw [unmarked_advance, unmarked_flushed]
    rfl
  · have ends := (turn_eq_switch turned (by simp) (by simp)).1
    rw [resumes, switch_field state, step] at ends
    dsimp only at ends
    split_ifs at ends
    rw [List.getElem?_cons_zero] at ends
    dsimp only at ends
    split_ifs at ends

/-- The bytes of a name, read one at a time: each counts twice. -/
theorem oneByOne_field (settled : b.Settled) (state : b.parser.state = .headerField) {xs : Bytes}
    (names : ∀ ch ∈ xs, token ch ≠ 0) (accepted : oneByOne b xs = some next) :
    ∃ parser, fieldLoop b.parser xs = some (parser, xs.length) ∧ parser.state = .headerField ∧
      next.parser = { parser with nread := b.parser.nread + 2 * xs.length } ∧
      (xs ≠ [] → b.parser.nread + 2 * xs.length ≤ httpMaxHeaderSize) ∧
      (xs ≠ [] → next.response = b.response.setHeaderField xs) ∧
      ∀ y, next.response.setHeaderField y = b.response.setHeaderField (xs ++ y) := by
  induction xs generalizing b with
  | nil =>
      cases accepted
      exact ⟨_, rfl, state, rfl, fun filled => absurd rfl filled, fun filled => absurd rfl filled, fun _ => rfl⟩
  | cons ch rest ih =>
      rw [oneByOne_cons] at accepted
      obtain ⟨middle, one, more⟩ := Option.bind_eq_some_iff.mp accepted
      obtain ⟨parser, taken, state', fits, rfl⟩ := byte_field settled state one (names ch List.mem_cons_self)
      obtain ⟨last, looped, state', parsers, fits', whole, appends⟩ := ih (byte_spec settled one).2.2.1 state'
        (fun ch there => names ch (List.mem_cons_of_mem _ there)) more
      rw [fieldLoop_nread] at looped
      obtain ⟨⟨left, n⟩, looped', same⟩ := Option.map_eq_some_iff.mp looped
      obtain ⟨rfl, rfl⟩ := Prod.mk.inj same
      refine ⟨left, ?_, state', ?_, fun _ => ?_, fun _ => ?_, fun y => ?_⟩
      · rw [fieldLoop, if_neg (names ch List.mem_cons_self), taken]
        simp only [Option.bind_eq_bind, Option.bind_some, looped']
        rfl
      · rw [parsers, List.length_cons]
        dsimp only
        congr 1
        omega
      · cases rest with
        | nil => exact fits
        | cons =>
            have := fits' (List.cons_ne_nil _ _)
            simp only [List.length_cons] at this ⊢
            omega
      · cases rest with
        | nil => cases more; rfl
        | cons =>
            rw [whole (List.cons_ne_nil _ _), HttpResponse.setHeaderField_append]
            rfl
      · rw [appends, HttpResponse.setHeaderField_append]
        rfl

end Field

section Keeps
variable {a : Run} {b final : Session} {ch : UInt8} {tail : Bytes}

/-- A run with a text marked, beside the session to which the text has been passed on. -/
theorem Follows.marked (follows : Follows a b) (datum : Datum) (isSet : (resumed a.parser.state datum).isSome)
    (only : ∀ other, other ≠ datum → a.parser.state.opens other = false) :
    ∃ text, a = a.toSession.marking datum text ∧ Session.Like ⟨a.parser, a.on text datum⟩ b := by
  have others (other : Datum) (differs : other ≠ datum) : a.marks other = none :=
    follows.invariant.unmarked (only other differs)
  obtain ⟨text, marked⟩ := Option.isSome_iff_exists.mp (follows.invariant.set datum isSet)
  have marking := eq_marking others marked
  have like := follows.like
  rw [marking, marking_flushed] at like
  exact ⟨text, marking, like⟩

theorem keeps_field (follows : Follows a b) (accepted : oneByOne b (ch :: tail) = some final)
    (state : a.parser.state = .headerField) : Keeps a b ch tail := by
  have state' := follows.state.trans state
  obtain ⟨text, marking, like⟩ := follows.marked .headerField (by rw [state]; rfl)
    (fun other differs => by rw [state]; cases other <;> first | rfl | exact absurd rfl differs)
  obtain ⟨k, m, below, same⟩ := like
  obtain ⟨parsers, responses⟩ := Session.mk.inj same
  have appended (passed : Bytes) : a.response.setHeaderField (text ++ passed) =
      { b.response.setHeaderField passed with statusMessage := m } := by
    rw [← HttpResponse.setHeaderField_append, show a.response.setHeaderField text = _ from responses]
    rfl
  have bounded (fits : b.parser.nread + 1 ≤ httpMaxHeaderSize) : a.Bounded :=
    fun _ => by rw [parsers]; exact (Nat.succ_le_succ below).trans fits
  have turned (fits : b.parser.nread + 1 ≤ httpMaxHeaderSize) : turn a ch tail = onHeaderField
      (Session.marking ⟨{ b.parser with nread := k + 1 }, a.response⟩ .headerField text) (ch :: tail) := by
    rw [turn_of_bounded follows.invariant (bounded fits), marking, switch_field state,
      show a.toSession.parser = a.parser from rfl, parsers]
    rfl
  rcases exists_first (fun ch => token ch ≠ 0) (ch :: tail) with names | ⟨xs, stop, rest, whole, names, stops⟩
  · -- the name goes on behind this segment
    obtain ⟨parser, looped, -, parsers', fits, whole, -⟩ :=
      oneByOne_field follows.settled state' names accepted
    have fits := fits (List.cons_ne_nil ch tail)
    rw [List.length_cons] at fits
    have looped' : fieldLoop { b.parser with nread := k + 1 } (ch :: tail) =
        some ({ parser with nread := k + 1 }, (ch :: tail).length) := by
      rw [fieldLoop_nread, looped]
      rfl
    have turned := turned (by omega)
    rw [onHeaderField_eq _ text looped', if_neg (by rw [List.length_cons]; dsimp only; omega),
      List.getElem?_eq_none le_rfl] at turned
    refine .inl ⟨_, _, final, turned, ?_, ?_⟩
    · rw [List.length_cons, Nat.add_sub_cancel, List.take_length]
      exact accepted
    · refine follows_next follows turned (oneByOne_settled follows.settled accepted) ?_
      rw [List.length_cons, Nat.add_sub_cancel, List.take_length, marking_advance, marking_flushed]
      refine ⟨k + 1 + (tail.length + 1), m, ?_, ?_⟩
      · rw [parsers', List.length_cons]
        dsimp only
        omega
      · rw [parsers', whole (List.cons_ne_nil ch tail), Session.on, Session.counting, appended]
  · -- the byte behind the name
    rw [whole, oneByOne_append] at accepted
    obtain ⟨middle, read, accepted⟩ := Option.bind_eq_some_iff.mp accepted
    rw [oneByOne_cons] at accepted
    obtain ⟨b', one, -⟩ := Option.bind_eq_some_iff.mp accepted
    obtain ⟨parser, looped, state'', parsers', -, -, appends⟩ :=
      oneByOne_field follows.settled state' names read
    rw [not_not] at stops
    have settled := oneByOne_settled follows.settled read
    obtain ⟨rfl, fits, ends⟩ := byte_colon settled (by rw [parsers']; exact state'') one stops
    rw [parsers'] at fits
    have looped' : fieldLoop { b.parser with nread := k + 1 } (ch :: tail) =
        some ({ parser with nread := k + 1 }, xs.length) := by
      rw [fieldLoop_nread, whole, fieldLoop_append names stops, looped]
      rfl
    dsimp only at fits
    have turned := turned (by omega)
    have found : (ch :: tail)[xs.length]? = some colon := by
      rw [whole, List.getElem?_append_right le_rfl, Nat.sub_self]
      rfl
    have taken : (ch :: tail).take (xs.length + 1) = xs ++ [colon] := by
      rw [whole, List.append_cons]
      exact List.take_left' (by rw [List.length_append, List.length_singleton])
    rw [onHeaderField_eq _ text looped', if_neg (by dsimp only; omega), found] at turned
    dsimp only at turned
    rw [if_pos rfl] at turned
    have read' : oneByOne b (xs ++ [colon]) = some b' := by
      rw [oneByOne_append, read, Option.bind_some, oneByOne_cons, one]
      rfl
    refine .inl ⟨_, _, b', turned, ?_, ?_⟩
    · rw [← List.take_succ_cons, taken]
      exact read'
    · refine follows_next follows turned (oneByOne_settled follows.settled read') ?_
      rw [unmarked_advance, unmarked_flushed]
      refine ⟨k + 1 + xs.length, m, ?_, ?_⟩
      · rw [ends, parsers']
        dsimp only
        omega
      · have empty := appends []
        rw [List.append_nil] at empty
        rw [ends, parsers', empty, ← appended, whole, List.take_left]

end Keeps

/-! ## Header values -/

def ValueChar.map (f : Parser → Parser) : ValueChar → ValueChar
  | .go headerState parser => .go headerState (f parser)
  | .invalidContentLength => .invalidContentLength
  | .assertion => .assertion

def ValueLoop.map (f : Parser → Parser) : ValueLoop → ValueLoop
  | .ended headerState parser n => .ended headerState (f parser) n
  | .error parser n errno => .error (f parser) n errno
  | .assertion => .assertion

theorem valueChar_renamed (headerState other : HeaderState) (parser : Parser) (nread : Nat) (ch : UInt8) :
    valueChar headerState { parser with nread, headerState := other } ch =
      (valueChar headerState parser ch).map fun parser => { parser with nread, headerState := other } := by
  cases headerState with
  | contentLength | matchingConnectionToken | connectionKeepAlive | connectionClose | connectionUpgrade =>
      unfold valueChar
      dsimp only
      split_ifs <;> rfl
  | _ => rfl

theorem valueChar_nread (headerState : HeaderState) (parser : Parser) (nread : Nat) (ch : UInt8) :
    valueChar headerState { parser with nread } ch =
      (valueChar headerState parser ch).map fun parser => { parser with nread } := by
  cases headerState with
  | contentLength | matchingConnectionToken | connectionKeepAlive | connectionClose | connectionUpgrade =>
      unfold valueChar
      dsimp only
      split_ifs <;> rfl
  | _ => rfl

theorem valueLoop_nread (headerState : HeaderState) (parser : Parser) (nread : Nat) (bytes : Bytes) :
    valueLoop headerState { parser with nread } bytes =
      (valueLoop headerState parser bytes).map fun parser => { parser with nread } := by
  induction bytes generalizing headerState parser with
  | nil => rfl
  | cons ch rest ih =>
      unfold valueLoop
      split_ifs
      · rfl
      · rfl
      · rfl
      · rw [valueChar_nread]
        cases valueChar headerState parser ch with
        | go next parser =>
            simp only [ValueChar.map, ih]
            cases valueLoop next parser rest <;> rfl
        | invalidContentLength => rfl
        | assertion => rfl

theorem valueLoop_keeps_nread {headerState next : HeaderState} {parser last : Parser} {bytes : Bytes} {n : Nat}
    (looped : valueLoop headerState parser bytes = .ended next last n) : last.nread = parser.nread := by
  have same := valueLoop_nread headerState parser parser.nread bytes
  rw [looped] at same
  injection same with _ same
  rw [same]

/-- The loop over a value reads neither the count nor the state of the header in the parser. -/
theorem valueLoop_ended {headerState next : HeaderState} {parser last : Parser} {bytes : Bytes} {n : Nat}
    (looped : valueLoop headerState parser bytes = .ended next last n) (other : HeaderState) (nread : Nat) :
    valueLoop headerState { parser with nread, headerState := other } bytes =
      .ended next { last with nread, headerState := other } n := by
  induction bytes generalizing headerState parser n with
  | nil => cases looped; rfl
  | cons ch rest ih =>
      unfold valueLoop at looped ⊢
      split_ifs at looped ⊢
      · cases looped; rfl
      · cases looped; rfl
      · cases taken : valueChar headerState parser ch with
        | go middle parser' =>
            have taken' : valueChar headerState { parser with nread, headerState := other } ch =
                .go middle { parser' with nread, headerState := other } := by
              rw [valueChar_renamed, taken]
              rfl
            rw [taken] at looped
            rw [taken']
            dsimp only at looped ⊢
            cases rest' : valueLoop middle parser' rest with
            | ended middle' parser'' k =>
                rw [rest'] at looped
                cases looped
                rw [ih rest']
                rfl
            | error parser'' k errno => rw [rest'] at looped; cases looped
            | assertion => rw [rest'] at looped; cases looped
        | invalidContentLength => rw [taken] at looped; cases looped
        | assertion => rw [taken] at looped; cases looped

/-- The bytes that end a value. -/
def lineEnd (ch : UInt8) : Prop := ch = cr ∨ ch = lf

instance (ch : UInt8) : Decidable (lineEnd ch) := inferInstanceAs (Decidable (_ ∨ _))

theorem lineLength_all {xs : Bytes} (inside : ∀ ch ∈ xs, ¬ lineEnd ch) : lineLength xs = xs.length := by
  have whole : (xs.take httpMaxHeaderSize).takeWhile (fun ch => ch ≠ cr && ch ≠ lf) =
      xs.take httpMaxHeaderSize := by
    rw [List.takeWhile_eq_self_iff]
    intro ch there
    have := inside ch (List.mem_of_mem_take there)
    simpa [lineEnd] using this
  unfold lineLength
  dsimp only
  rw [whole, if_neg (lt_irrefl _)]

theorem lineLength_stop {xs : Bytes} (inside : ∀ ch ∈ xs, ¬ lineEnd ch) {stop : UInt8} (stops : lineEnd stop)
    (short : xs.length < httpMaxHeaderSize) (rest : Bytes) : lineLength (xs ++ stop :: rest) = xs.length := by
  obtain ⟨k, room⟩ : ∃ k, httpMaxHeaderSize = xs.length + (k + 1) := Nat.exists_eq_add_of_lt short
  have window : (xs ++ stop :: rest).take httpMaxHeaderSize = xs ++ stop :: rest.take k := by
    rw [room, List.take_length_add_append, List.take_succ_cons]
  have before : (xs ++ stop :: rest.take k).takeWhile (fun ch => ch ≠ cr && ch ≠ lf) = xs := by
    rw [List.takeWhile_append_of_pos fun ch there => by simpa [lineEnd] using inside ch there,
      List.takeWhile_cons_of_neg (by rcases stops with rfl | rfl <;> decide), List.append_nil]
  unfold lineLength
  dsimp only
  rw [window, before, if_pos (by simp)]

theorem valueLoop_general {parser last : Parser} {headerState : HeaderState} {bytes : Bytes} {n : Nat}
    (looped : valueLoop .general parser bytes = .ended headerState last n) :
    headerState = .general ∧ last = parser := by
  cases bytes with
  | nil => cases looped; exact ⟨rfl, rfl⟩
  | cons ch rest =>
      unfold valueLoop at looped
      rw [if_pos (rfl : HeaderState.general = .general)] at looped
      split_ifs at looped <;> cases looped <;> exact ⟨rfl, rfl⟩

theorem valueLoop_append {xs : Bytes} (inside : ∀ ch ∈ xs, ¬ lineEnd ch) {stop : UInt8} (stops : lineEnd stop)
    (short : xs.length < httpMaxHeaderSize) (rest : Bytes) {headerState next : HeaderState}
    {parser last : Parser} (looped : valueLoop headerState parser xs = .ended next last xs.length) :
    valueLoop headerState parser (xs ++ stop :: rest) = .ended next last xs.length := by
  induction xs generalizing headerState parser with
  | nil =>
      cases looped
      have ends : (decide (stop = cr) || decide (stop = lf)) = true := by simpa [lineEnd] using stops
      rw [List.nil_append, valueLoop, if_pos ends]
      rfl
  | cons ch xs ih =>
      obtain ⟨here, inside'⟩ := List.forall_mem_cons.mp inside
      have length := lineLength_stop inside stops short rest
      rw [List.cons_append] at length ⊢
      unfold valueLoop at looped ⊢
      split_ifs at looped ⊢ with ends foreign general
      · cases looped
      · rw [length]
        rwa [lineLength_all inside] at looped
      · cases taken : valueChar headerState parser ch with
        | go middle parser' =>
            rw [taken] at looped
            dsimp only at looped ⊢
            cases rest' : valueLoop middle parser' xs with
            | ended middle' parser'' n =>
                rw [rest'] at looped
                cases looped
                rw [ih inside' (Nat.lt_of_succ_lt short) rest']
                rfl
            | error parser'' n errno => rw [rest'] at looped; cases looped
            | assertion => rw [rest'] at looped; cases looped
        | invalidContentLength => rw [taken] at looped; cases looped
        | assertion => rw [taken] at looped; cases looped

/-- The state behind the byte that ends a value. -/
def behindValue (ch : UInt8) : State := if ch = cr then .headerAlmostDone else .headerValueLws

section Value
variable {b next : Session} {ch : UInt8} {bytes : Bytes} {headerState : HeaderState} {parser : Parser} {n : Nat}

theorem onHeaderValue_over (session : Session) (text : Bytes)
    (looped : valueLoop session.parser.headerState session.parser bytes = .ended headerState parser n)
    (exceeds : httpMaxHeaderSize < parser.nread + n) :
    ∃ run, onHeaderValue (session.marking .headerValue text) bytes = .error run n .headerOverflow := by
  unfold onHeaderValue
  rw [show (session.marking .headerValue text).parser = session.parser from rfl, looped]
  dsimp only
  cases bytes[n]? with
  | none => exact ⟨_, if_pos exceeds⟩
  | some ch =>
      dsimp only
      split_ifs with ends fits fits
      · exact ⟨_, rfl⟩
      · refine absurd ?_ fits
        simp only [Run.countHeaderSize, Run.callbackData_parser, Run.updateState]
        exact exceeds
      · exact ⟨_, rfl⟩
      · exact absurd exceeds fits

theorem onHeaderValue_error (session : Session) (text : Bytes) {errno : Errno}
    (looped : valueLoop session.parser.headerState session.parser bytes = .error parser n errno) :
    ∃ run, onHeaderValue (session.marking .headerValue text) bytes = .error run n errno := by
  unfold onHeaderValue
  rw [show (session.marking .headerValue text).parser = session.parser from rfl, looped]
  exact ⟨_, rfl⟩

theorem onHeaderValue_all (session : Session) (text : Bytes)
    (looped : valueLoop session.parser.headerState session.parser bytes = .ended headerState parser n)
    (fits : parser.nread + n ≤ httpMaxHeaderSize) (none : bytes[n]? = none) :
    onHeaderValue (session.marking .headerValue text) bytes =
      .next (Session.marking
        ⟨{ parser with nread := parser.nread + n, headerState }, session.response⟩ .headerValue text) (n - 1) := by
  unfold onHeaderValue
  rw [show (session.marking .headerValue text).parser = session.parser from rfl, looped]
  dsimp only
  rw [none]
  exact if_neg (Nat.not_lt.mpr fits)

theorem onHeaderValue_ends (session : Session) (text : Bytes)
    (looped : valueLoop session.parser.headerState session.parser bytes = .ended headerState parser n)
    (fits : parser.nread + n ≤ httpMaxHeaderSize) (found : bytes[n]? = some ch)
    (ends : lineEnd ch) :
    onHeaderValue (session.marking .headerValue text) bytes =
      .next (Session.unmarked
        ⟨{ parser with nread := parser.nread + n, headerState, state := behindValue ch },
          session.response.setHeaderValue (text ++ bytes.take n)⟩) n := by
  have called (nread : Nat) := marking_callbackData
    ⟨{ parser with nread, state := .headerAlmostDone, headerState }, session.response⟩
    .headerValue text (bytes.take n)
  unfold onHeaderValue
  rw [show (session.marking .headerValue text).parser = session.parser from rfl, looped]
  dsimp only
  rw [found]
  rcases ends with rfl | rfl
  · dsimp only
    rw [if_pos rfl]
    have counted := congrArg (Run.countHeaderSize · n) (called parser.nread)
    refine (congrArg (fun run : Run => if httpMaxHeaderSize < run.parser.nread then
      Step.error run n .headerOverflow else .next run n) counted).trans ?_
    exact if_neg (Nat.not_lt.mpr fits)
  · dsimp only
    rw [if_neg (by decide)]
    refine (if_neg (Nat.not_lt.mpr fits)).trans ?_
    refine (congrArg (fun run => (onHeaderAlmostDone run lf).after n) (called (parser.nread + n))).trans ?_
    rfl

theorem switch_value (state : b.parser.state = .headerValue) (text : Bytes) (ch : UInt8) (tail : Bytes) :
    switch (b.marking .headerValue text).counted ch tail = onHeaderValue
      (Session.marking ⟨{ b.parser with nread := b.parser.nread + 1 }, b.response⟩ .headerValue text)
      (ch :: tail) := by
  rw [switch, counted_state, show (b.marking .headerValue text).parser.state = .headerValue from state,
    marking_counted _ _ (by rw [state]; rfl)]

/-- What the loop over a value makes of one byte, if it is accepted there. -/
theorem valueLoop_byte {parser : Parser} (here : InValue parser headerState) (inside : ¬ lineEnd ch) :
    (∃ next parser', valueLoop headerState parser [ch] = .ended next parser' 1 ∧ InValue parser' next ∧
      ∀ rest, (∀ ch ∈ rest, ¬ lineEnd ch) → ∀ last final,
        valueLoop next parser' rest = .ended last final rest.length →
        valueLoop headerState parser (ch :: rest) = .ended last final (rest.length + 1)) ∨
    ∃ parser' errno, valueLoop headerState parser [ch] = .error parser' 0 errno := by
  have goes : ¬ (decide (ch = cr) || decide (ch = lf)) = true := by simpa [lineEnd] using inside
  by_cases foreign : (!isHeaderChar ch) = true
  · exact .inr ⟨_, _, by rw [valueLoop, if_neg goes, if_pos foreign]⟩
  · by_cases general : headerState = .general
    · subst general
      refine .inl ⟨.general, parser, ?_, here, fun rest inRest last final looped => ?_⟩
      · rw [valueLoop, if_neg goes, if_neg foreign, if_pos rfl, lineLength_all (by simpa using inside)]
        rfl
      · obtain ⟨rfl, rfl⟩ := valueLoop_general looped
        rw [valueLoop, if_neg goes, if_neg foreign, if_pos rfl,
          lineLength_all (List.forall_mem_cons.mpr ⟨inside, inRest⟩)]
        rfl
    · rcases valueChar_spec here ch with ⟨next, parser', taken, there⟩ | failed
      · refine .inl ⟨next, parser', ?_, there, fun rest _ last final looped => ?_⟩
        · rw [valueLoop, if_neg goes, if_neg foreign, if_neg general, taken]
          rfl
        · rw [valueLoop, if_neg goes, if_neg foreign, if_neg general, taken]
          dsimp only
          rw [looped]
          rfl
      · exact .inr ⟨_, _, by rw [valueLoop, if_neg goes, if_neg foreign, if_neg general, failed]⟩

theorem Session.Settled.inValue (settled : b.Settled) (ok : b.parser.httpErrno = .ok)
    (state : b.parser.state = .headerValue) : InValue b.parser b.parser.headerState := by
  obtain ⟨bounded, sound⟩ := settled ok
  rw [Parser.Sound, state] at sound
  exact ⟨ok, bounded, state, sound⟩

/-- A byte of a value, read alone. -/
theorem byte_value (settled : b.Settled) (state : b.parser.state = .headerValue)
    (accepted : byte b ch = some next) (inside : ¬ lineEnd ch) :
    ∃ headerState parser, valueLoop b.parser.headerState b.parser [ch] = .ended headerState parser 1 ∧
      InValue parser headerState ∧
      (∀ rest, (∀ ch ∈ rest, ¬ lineEnd ch) → ∀ last final,
        valueLoop headerState parser rest = .ended last final rest.length →
        valueLoop b.parser.headerState b.parser (ch :: rest) = .ended last final (rest.length + 1)) ∧
      parser.nread = b.parser.nread ∧ b.parser.nread + 2 ≤ httpMaxHeaderSize ∧
      next = ⟨{ parser with headerState, nread := b.parser.nread + 2 }, b.response.setHeaderValue [ch]⟩ := by
  have ok := (byte_spec settled accepted).1
  obtain ⟨-, ends⟩ := byte_switch settled accepted
  rw [resume_marking .headerValue (by rw [state]; rfl), switch_value state] at ends
  rcases valueLoop_byte (settled.inValue ok state) inside with
    ⟨headerState, parser, looped, there, goes⟩ | ⟨parser, errno, failed⟩
  · have looped' : valueLoop b.parser.headerState { b.parser with nread := b.parser.nread + 1 } [ch] =
        .ended headerState { parser with nread := b.parser.nread + 1 } 1 := by
      rw [valueLoop_nread, looped]
      rfl
    refine ⟨headerState, parser, looped, there, goes, valueLoop_keeps_nread looped, ?_⟩
    by_cases fits : b.parser.nread + 1 + 1 ≤ httpMaxHeaderSize
    · rw [onHeaderValue_all _ [] looped' fits rfl] at ends
      rcases ends with ⟨run, same, rfl⟩ | ⟨run, same, rfl⟩
      · cases same
        refine ⟨fits, ?_⟩
        rw [marking_advance, marking_flushed]
        rfl
      · cases same
    · obtain ⟨run, exceeds⟩ :=
        onHeaderValue_over ⟨{ b.parser with nread := b.parser.nread + 1 }, b.response⟩ [] looped' (Nat.not_le.mp fits)
      rw [exceeds] at ends
      rcases ends with ⟨_, same, -⟩ | ⟨_, same, -⟩ <;> cases same
  · have failed' : valueLoop b.parser.headerState { b.parser with nread := b.parser.nread + 1 } [ch] =
        .error { parser with nread := b.parser.nread + 1 } 0 errno := by
      rw [valueLoop_nread, failed]
      rfl
    obtain ⟨run, exceeds⟩ := onHeaderValue_error ⟨{ b.parser with nread := b.parser.nread + 1 }, b.response⟩ []
      failed'
    rw [exceeds] at ends
    rcases ends with ⟨_, same, -⟩ | ⟨_, same, -⟩ <;> cases same

/-- The byte behind a value, read alone. -/
theorem byte_lineEnd (settled : b.Settled) (state : b.parser.state = .headerValue)
    (accepted : byte b ch = some next) (ends : lineEnd ch) :
    b.parser.nread + 1 ≤ httpMaxHeaderSize ∧
      next = ⟨{ b.parser with nread := b.parser.nread + 1, state := behindValue ch },
        b.response.setHeaderValue []⟩ := by
  obtain ⟨bounded, step⟩ := byte_switch settled accepted
  have fits : b.parser.nread + 1 ≤ httpMaxHeaderSize := bounded (by rw [Session.resume, state]; rfl)
  have looped : valueLoop b.parser.headerState { b.parser with nread := b.parser.nread + 1 } [ch] =
      .ended b.parser.headerState { b.parser with nread := b.parser.nread + 1 } 0 := by
    rw [valueLoop, if_pos (by simpa [lineEnd] using ends)]
  rw [resume_marking .headerValue (by rw [state]; rfl), switch_value state,
    onHeaderValue_ends ⟨{ b.parser with nread := b.parser.nread + 1 }, b.response⟩ [] looped fits rfl ends] at step
  rcases step with ⟨run, same, rfl⟩ | ⟨run, same, rfl⟩
  · cases same
    refine ⟨fits, ?_⟩
    rw [unmarked_advance, unmarked_flushed]
    rfl
  · cases same

/-- The bytes of a value, read one at a time: each counts twice. -/
theorem oneByOne_value (settled : b.Settled) (state : b.parser.state = .headerValue) {xs : Bytes}
    (inside : ∀ ch ∈ xs, ¬ lineEnd ch) (accepted : oneByOne b xs = some next) :
    ∃ headerState parser, valueLoop b.parser.headerState b.parser xs = .ended headerState parser xs.length ∧
      parser.state = .headerValue ∧
      next.parser = { parser with headerState, nread := b.parser.nread + 2 * xs.length } ∧
      (xs ≠ [] → b.parser.nread + 2 * xs.length ≤ httpMaxHeaderSize) ∧
      (xs ≠ [] → next.response = b.response.setHeaderValue xs) ∧
      ∀ y, next.response.setHeaderValue y = b.response.setHeaderValue (xs ++ y) := by
  induction xs generalizing b with
  | nil =>
      cases accepted
      exact ⟨_, _, rfl, state, rfl, fun filled => absurd rfl filled, fun filled => absurd rfl filled, fun _ => rfl⟩
  | cons ch rest ih =>
      obtain ⟨here, inRest⟩ := List.forall_mem_cons.mp inside
      rw [oneByOne_cons] at accepted
      obtain ⟨middle, one, more⟩ := Option.bind_eq_some_iff.mp accepted
      obtain ⟨headerState, parser, looped, there, goes, count, fits, rfl⟩ := byte_value settled state one here
      obtain ⟨last, final, looped', state', parsers, fits', whole, appends⟩ :=
        ih (byte_spec settled one).2.2.1 there.state inRest more
      have looped' : valueLoop headerState parser rest =
          .ended last { final with nread := parser.nread, headerState := parser.headerState } rest.length :=
        valueLoop_ended looped' parser.headerState parser.nread
      refine ⟨last, _, goes rest inRest _ _ looped', state', ?_, fun _ => ?_, fun _ => ?_, fun y => ?_⟩
      · rw [parsers, List.length_cons]
        dsimp only
        congr 1
        omega
      · cases rest with
        | nil => exact fits
        | cons =>
            have := fits' (List.cons_ne_nil _ _)
            simp only [List.length_cons] at this ⊢
            omega
      · cases rest with
        | nil => cases more; rfl
        | cons =>
            rw [whole (List.cons_ne_nil _ _), HttpResponse.setHeaderValue_append]
            rfl
      · rw [appends, HttpResponse.setHeaderValue_append]
        rfl

end Value

section Keeps
variable {a : Run} {b final : Session} {ch : UInt8} {tail : Bytes}

theorem keeps_value (follows : Follows a b) (accepted : oneByOne b (ch :: tail) = some final)
    (state : a.parser.state = .headerValue) : Keeps a b ch tail := by
  have state' := follows.state.trans state
  obtain ⟨text, marking, like⟩ := follows.marked .headerValue (by rw [state]; rfl)
    (fun other differs => by rw [state]; cases other <;> first | rfl | exact absurd rfl differs)
  obtain ⟨k, m, below, same⟩ := like
  obtain ⟨parsers, responses⟩ := Session.mk.inj same
  have appended (passed : Bytes) : a.response.setHeaderValue (text ++ passed) =
      { b.response.setHeaderValue passed with statusMessage := m } := by
    rw [← HttpResponse.setHeaderValue_append, show a.response.setHeaderValue text = _ from responses]
    rfl
  have bounded (fits : b.parser.nread + 1 ≤ httpMaxHeaderSize) : a.Bounded :=
    fun _ => by rw [parsers]; exact (Nat.succ_le_succ below).trans fits
  have turned (fits : b.parser.nread + 1 ≤ httpMaxHeaderSize) : turn a ch tail = onHeaderValue
      (Session.marking ⟨{ b.parser with nread := k + 1 }, a.response⟩ .headerValue text) (ch :: tail) := by
    rw [turn_of_bounded follows.invariant (bounded fits), marking, switch_value state,
      show a.toSession.parser = a.parser from rfl, parsers]
    rfl
  rcases exists_first (fun ch => ¬ lineEnd ch) (ch :: tail) with inside | ⟨xs, stop, rest, whole, inside, stops⟩
  · -- the value goes on behind this segment
    obtain ⟨headerState, parser, looped, -, parsers', fits, whole, -⟩ :=
      oneByOne_value follows.settled state' inside accepted
    have fits := fits (List.cons_ne_nil ch tail)
    rw [List.length_cons] at fits
    have looped' : valueLoop b.parser.headerState { b.parser with nread := k + 1 } (ch :: tail) =
        .ended headerState { parser with nread := k + 1 } (ch :: tail).length := by
      rw [valueLoop_nread, looped]
      rfl
    have turned := turned (by omega)
    rw [onHeaderValue_all _ text looped' (by rw [List.length_cons]; dsimp only; omega)
      (List.getElem?_eq_none le_rfl)] at turned
    refine .inl ⟨_, _, final, turned, ?_, ?_⟩
    · rw [List.length_cons, Nat.add_sub_cancel, List.take_length]
      exact accepted
    · refine follows_next follows turned (oneByOne_settled follows.settled accepted) ?_
      rw [List.length_cons, Nat.add_sub_cancel, List.take_length, marking_advance, marking_flushed]
      refine ⟨k + 1 + (tail.length + 1), m, ?_, ?_⟩
      · rw [parsers', List.length_cons]
        dsimp only
        omega
      · rw [parsers', whole (List.cons_ne_nil ch tail), Session.on, appended]
  · -- the end of the line
    rw [not_not] at stops
    rw [whole, oneByOne_append] at accepted
    obtain ⟨middle, read, accepted⟩ := Option.bind_eq_some_iff.mp accepted
    rw [oneByOne_cons] at accepted
    obtain ⟨b', one, -⟩ := Option.bind_eq_some_iff.mp accepted
    obtain ⟨headerState, parser, looped, state'', parsers', fits', -, appends⟩ :=
      oneByOne_value follows.settled state' inside read
    have settled := oneByOne_settled follows.settled read
    obtain ⟨fits, ends⟩ := byte_lineEnd settled (by rw [parsers']; exact state'') one stops
    rw [parsers'] at fits
    dsimp only at fits
    have short : xs.length < httpMaxHeaderSize := by omega
    have looped' : valueLoop b.parser.headerState { b.parser with nread := k + 1 } (ch :: tail) =
        .ended headerState { parser with nread := k + 1 } xs.length := by
      rw [valueLoop_nread, whole, valueLoop_append inside stops short rest looped]
      rfl
    have turned := turned (by omega)
    have found : (ch :: tail)[xs.length]? = some stop := by
      rw [whole, List.getElem?_append_right le_rfl, Nat.sub_self]
      rfl
    have taken : (ch :: tail).take (xs.length + 1) = xs ++ [stop] := by
      rw [whole, List.append_cons]
      exact List.take_left' (by rw [List.length_append, List.length_singleton])
    rw [onHeaderValue_ends _ text looped' (by dsimp only; omega) found stops] at turned
    have read' : oneByOne b (xs ++ [stop]) = some b' := by
      rw [oneByOne_append, read, Option.bind_some, oneByOne_cons, one]
      rfl
    refine .inl ⟨_, _, b', turned, ?_, ?_⟩
    · rw [← List.take_succ_cons, taken]
      exact read'
    · refine follows_next follows turned (oneByOne_settled follows.settled read') ?_
      rw [unmarked_advance, unmarked_flushed]
      refine ⟨k + 1 + xs.length, m, ?_, ?_⟩
      · rw [ends, parsers']
        dsimp only
        omega
      · have empty := appends []
        rw [List.append_nil] at empty
        rw [ends, parsers', empty, ← appended, whole, List.take_left]

end Keeps

end DecadaEmbedded.Http
