import Obd2.Session.Requests

/-! Requests that are answered without data.

A service such as 04 is acknowledged by its service byte alone. The loop over the lines finds
no payload in such an answer, and an answer without payload is an error: the request fails
after the vehicle has done what it asked for. -/
namespace Obd2.Session
open ElmCodec Elm327Adapter

/-- An answer of one or more bare acknowledgements: the service and the bytes it repeats, and
nothing after them. -/
structure Acknowledges (service : UInt8) (data : List UInt8) (response : Text) : Prop where
  repeated : skipOf service ≤ data.length + 1
  lines : ∃ n, Reads (requestCommand service data) (responseLines response)
    (List.replicate (n + 1) (acknowledged service data (skipOf service)))

section Adapter
variable {L : Type} [Link L] {service : UInt8} {data : List UInt8} {response : Text}

theorem Acknowledges.no_fault (h : Acknowledges service data response) :
    reportsFault response = false := by
  obtain ⟨n, hreads⟩ := h.lines
  exact reads_no_fault hreads

/-- Whatever the bus, the decoded answer is an error. -/
theorem Acknowledges.decode (h : Acknowledges service data response) :
    ∃ e, ∀ family, decodeResponse family service data response = .error e := by
  obtain ⟨n, hreads⟩ := h.lines
  exact decodeResponse_of_no_payloads (skipOf_pos service) h.repeated
    (fun bytes hbytes => List.eq_of_mem_replicate hbytes) hreads

theorem routedRequest_of_acknowledges {adapter : Elm327Adapter L} {req : RoutedRequest}
    (hanswers : Answers adapter req response) (h : Acknowledges req.serviceId req.data response) :
    ∃ e, ((routedRequest req).run adapter).1 = .error e := by
  obtain ⟨e, hdecode⟩ := h.decode
  obtain ⟨family, adapter', hrun⟩ := routedRequest_of_answers hanswers h.no_fault
  rw [hdecode family] at hrun
  exact ⟨e, congrArg Prod.fst hrun⟩

end Adapter

/-! ### Clearing trouble codes -/

section Clearing

/-- `clear_dtcs`, or `clear_dtcs_on_module`. -/
def clear {A : Type} [Adapter A] : Option ModuleId → Op A Unit
  | none => clearDtcs
  | some module => clearDtcsOnModule module

def clearRequest : Option ModuleId → ServiceRequest
  | none => ⟨0x04, [], .broadcast⟩
  | some module => ⟨0x04, [], .module module.id⟩

theorem clear_eq {A : Type} [Adapter A] (scope : Option ModuleId) :
    (clear scope : Op A Unit) = (do
      ensureInitialized
      let _data ← sendRequest (clearRequest scope)
      pure ()) := by
  cases scope <;> rfl

theorem clearRequest_service (scope : Option ModuleId) :
    (clearRequest scope).serviceId = 0x04 ∧ (clearRequest scope).data = [] := by
  cases scope <;> exact ⟨rfl, rfl⟩

variable {L : Type} [Link L] {response : Text}

theorem clear_of_acknowledges {s : Session (Elm327Adapter L)} {scope : Option ModuleId}
    (hanswered : Answered s (clearRequest scope) response) (h : Acknowledges 0x04 [] response) :
    ∃ e, ((clear scope).run s).1 = .error e := by
  obtain ⟨e, hdecode⟩ := h.decode
  obtain ⟨hservice, hdata⟩ := clearRequest_service scope
  obtain ⟨family, s', hrun⟩ := sendRequest_answered hanswered h.no_fault
  rw [hservice, hdata, hdecode family] at hrun
  refine ⟨e, ?_⟩
  rw [clear_eq, Async.run_bind_ok (ensureInitialized_ready hanswered.initialized),
    Async.run_bind_error hrun]

/-- **A positive answer without data is an error, for every request, and codes that were cleared
are reported as not cleared.** -/
theorem acknowledgement_refused (L : Type) [Link L] (response : Text) :
    (∀ (adapter : Elm327Adapter L) (req : RoutedRequest), Answers adapter req response →
      Acknowledges req.serviceId req.data response →
        ∃ e, ((routedRequest req).run adapter).1 = .error e) ∧
    (∀ (s : Session (Elm327Adapter L)) (scope : Option ModuleId),
      Answered s (clearRequest scope) response → Acknowledges 0x04 [] response →
        ∃ e, ((clear scope).run s).1 = .error e) :=
  ⟨fun _ _ hanswers h => routedRequest_of_acknowledges hanswers h,
    fun _ _ hanswered h => clear_of_acknowledges hanswered h⟩

end Clearing

/-- Both parts, on one answer of two ECUs. -/
theorem acknowledgement_refused_twice :
    let response := "44\r44\r\r>".toList
    let session := readySession .can11Bit500 [("04".toList, response)]
    (∃ e, ((routedRequest ⟨0x04, [], .broadcast⟩).run session.adapter).1 = .error e) ∧
      ∃ e, ((clear none).run session).1 = .error e := by
  intro response session
  have h : Acknowledges 0x04 [] response :=
    ⟨by decide, 1, .bytes rfl (.bytes rfl (.skipped rfl (.skipped rfl .nil)))⟩
  have hanswers : Answers session.adapter ⟨0x04, [], .broadcast⟩ response := ⟨_, _, rfl, rfl⟩
  obtain ⟨hadapter, hsession⟩ := acknowledgement_refused MockTransport response
  exact ⟨hadapter _ _ hanswers h, hsession session none ⟨rfl, rfl, _, rfl, hanswers⟩ h⟩

/-- An ECU has cleared its codes, and the caller is told that there is no valid payload. -/
theorem cleared_reported_as_error :
    let response := "44\r\r>".toList
    let session := readySession .can11Bit500 [("04".toList, response)]
    Answered session ⟨0x04, [], .broadcast⟩ response ∧ Acknowledges 0x04 [] response ∧
      ((routedRequest ⟨0x04, [], .broadcast⟩).run session.adapter).1 ≠ .ok [] ∧
      (clearDtcs.run session).1 = .error (.parseError "no valid payload in response: 44\r\r>") := by
  intro response session
  have h : Acknowledges 0x04 [] response := ⟨by decide, 0, .bytes rfl (.skipped rfl (.skipped rfl .nil))⟩
  have hanswers : Answers session.adapter ⟨0x04, [], .broadcast⟩ response := ⟨_, _, rfl, rfl⟩
  obtain ⟨e, he⟩ := routedRequest_of_acknowledges hanswers h
  refine ⟨⟨rfl, rfl, _, rfl, hanswers⟩, h, ?_, ?_⟩
  · rw [he]
    exact fun heq => by cases heq
  · rfl

end Obd2.Session
