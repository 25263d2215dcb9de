import DecadaEmbedded.Json.RoundTrip

/-! # `TraceManager/trace_manager.cpp` -/

namespace DecadaEmbedded.TraceManager
open Json Json.Value Json.Reader Json.Writer

-- `trace_name[POLL_RATE_UPDATE]`
def pollRateUpdate : Bytes := str "poll_rate_updated"

def createDecadaResponse (msg msgId : Bytes) : Except Raised Bytes := do
  let details ← Value.null.setField msg (.string (str "true"))
  let messageContent ← Value.null.setField (str "id") (.string msgId)
  let messageContent ← messageContent.setField (str "code") (.int 200)
  let messageContent ← messageContent.setField (str "data") details
  return (write messageContent).filter (· ≠ 10)

def response (msg msgId : Bytes) : Value :=
  .object [(str "code", .int 200), (str "data", .object [(msg, .string (str "true"))]),
    (str "id", .string msgId)]

theorem printed_response (msg msgId : Bytes) : Printed (response msg msgId) := by
  refine .object ?_
  simp only [List.forall_mem_cons, List.not_mem_nil, false_implies, implies_true, and_true]
  refine ⟨.int 200, .object ?_, .string msgId⟩
  simpa using Printed.string (str "true")

theorem createDecadaResponse_eq (msg msgId : Bytes) :
    createDecadaResponse msg msgId = .ok (writeValue (response msg msgId)) := by
  have built : createDecadaResponse msg msgId =
      .ok ((write (response msg msgId)).filter (· ≠ 10)) := by
    rw [createDecadaResponse, setField_null, ok_bind, setField_null, ok_bind]
    rfl
  rw [built, filter_write (printed_response msg msgId)]

theorem cstr_writeValue_response (msg msgId : Bytes) :
    cstr (writeValue (response msg msgId)) = writeValue (response msg msgId) :=
  cstr_of_nulFree (nulFree_writeValue (printed_response msg msgId))

theorem readable_response {msg msgId : Bytes} (utf8Msg : Utf8 msg) (utf8Id : Utf8 msgId) (levels : Nat) :
    Readable (levels + 3) (response msg msgId) := by
  have keys : keyLt (str "code") (str "data") = true ∧ keyLt (str "code") (str "id") = true ∧
      keyLt (str "data") (str "id") = true := by decide
  refine .object (by simp [Ascending, keys]) ?_ ?_
  · simp only [List.forall_mem_cons, List.not_mem_nil, false_implies, implies_true, and_true]
    exact ⟨utf8_str rfl, utf8_str rfl, utf8_str rfl⟩
  · simp only [List.forall_mem_cons, List.not_mem_nil, false_implies, implies_true, and_true]
    refine ⟨.int (by decide) (by decide), .object (List.pairwise_singleton _ _) ?_ ?_, .string utf8Id⟩
    · simpa using utf8Msg
    · simpa using Readable.string (utf8_str rfl)

theorem parse_response {msg msgId : Bytes} (utf8Msg : Utf8 msg) (utf8Id : Utf8 msgId)
    (decodeDouble : Bytes → Option Bytes) :
    parse decodeDouble (writeValue (response msg msgId)) = .ok (true, response msg msgId) :=
  parse_writeValue (readable_response utf8Msg utf8Id 997)

end DecadaEmbedded.TraceManager
