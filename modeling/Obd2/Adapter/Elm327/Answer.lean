import Obd2.Adapter.Elm327
import Obd2.Adapter.ElmCodec.Lines

/-! What a request comes to when the device answers it.

Every command is one exchange on the link (`sendCommandRaw_run`). A device that answers a
request (`Answers`) with lines of bytes reports no fault by them, so the request comes down
to decoding its answer (`routedRequest_of_answers`). -/
namespace Obd2.Elm327Adapter
open ElmCodec

section Exchange
variable {L : Type} [Link L]

/-- One command on the link, and the text of the reply. -/
def exchange (cmd : Text) : Async Obd2Error L Text := do
  Link.write (Text.bytes (cmd ++ ['\r']))
  let responseBytes ← Link.read
  pure (Text.fromUtf8Lossy (responseBytes.filter (· != 0)))

/-- A command is its exchange on the link; besides the link only the events change. -/
theorem sendCommandRaw_run (cmd : Text) (adapter : Elm327Adapter L) :
    ∃ events, (sendCommandRaw cmd).run adapter =
      (((exchange cmd).run adapter.transport).1,
        {adapter with transport := ((exchange cmd).run adapter.transport).2, events}) := by
  unfold sendCommandRaw exchange
  simp only [Async.run_bind, onTransport, Async.run_on]
  cases hw : (Link.write (Text.bytes (cmd ++ ['\r'])) : Async Obd2Error L Unit).run adapter.transport with
  | mk wrote transport =>
    cases wrote with
    | error e => exact ⟨adapter.events, rfl⟩
    | dropped => exact ⟨adapter.events, rfl⟩
    | ok u =>
      dsimp only
      cases hr : (Link.read : Async Obd2Error L (List UInt8)).run transport with
      | mk answer transport' =>
        cases answer with
        | error e => exact ⟨adapter.events, rfl⟩
        | dropped => exact ⟨adapter.events, rfl⟩
        | ok raw =>
          dsimp only [sanitizeResponseBytes]
          split
          · exact ⟨_, rfl⟩
          · exact ⟨adapter.events, rfl⟩

theorem sendCommand_run {cmd response : Text} {adapter : Elm327Adapter L} {transport : L}
    (h : (exchange cmd).run adapter.transport = (.ok response, transport))
    (hfault : reportsFault response = false) :
    ∃ events, (sendCommand cmd).run adapter = (.ok response, {adapter with transport, events}) := by
  obtain ⟨events, hraw⟩ := sendCommandRaw_run cmd adapter
  rw [h] at hraw
  refine ⟨events ++ responseEvents response, ?_⟩
  rw [sendCommand, Async.run_bind_ok hraw, handleFaultRecovery, hfault]
  rfl

end Exchange

/-! ### Lines of bytes report no fault -/

section Faults
variable {service : UInt8} {data : List UInt8}

/-- A letter that is no digit is in no skipped line but the progress message, and in no line
of bytes. -/
theorem line_of_letter {c : Char} (code : UInt8) (hspace : Text.isWhitespace c = false)
    (hcode : String.utf8EncodeChar c = [code]) (hletter : Hex.hexNibble code = none)
    (hvisible : Text.isAsciiWhitespace code = false) {lines : List Text} {reads : List (List UInt8)}
    (h : Reads ((service :: data).flatMap Text.hexByte) lines reads) {line : Text}
    (hline : line ∈ lines) (hc : c ∈ line) : line = "SEARCHING...".toList := by
  induction h with
  | nil => cases hline
  | bytes hbytes _ ih =>
    rcases List.mem_cons.mp hline with rfl | hline
    · exact absurd hletter (Hex.parseHexLine_digits hbytes hc hspace code (by simp [hcode]))
    · exact ih hline
  | @skipped first _ _ hskip _ ih =>
    rcases List.mem_cons.mp hline with rfl | hline
    · simp only [isSkipped, Bool.or_eq_true] at hskip
      rcases hskip with ((hempty | hsearching) | hecho) | htokens
      · rw [List.isEmpty_iff.mp hempty] at hc
        cases hc
      · exact beq_iff_eq.mp hsearching
      · -- The visible bytes of an echo are digits, up to their case.
        have hmem : code ∈ visibleBytes line := by
          refine List.mem_filter.mpr ⟨List.mem_flatMap.mpr ⟨c, hc, by simp [hcode]⟩, ?_⟩
          rw [hvisible]
          rfl
        rw [lineMatchesCommandEcho, Bool.and_eq_true, visibleBytes_command] at hecho
        obtain ⟨b, hb, heq⟩ := eqBytesIgnoreCase_mem hecho.2 code hmem
        obtain ⟨byte, -, hdigit⟩ := List.mem_flatMap.mp hb
        have hnibble := Hex.hexNibble_of_eqIgnoreCase heq
        rw [hletter] at hnibble
        simp only [Hex.digitsOf, List.mem_cons, List.not_mem_nil, or_false] at hdigit
        rcases hdigit with rfl | rfl
        · rw [Hex.hexNibble_high] at hnibble
          cases hnibble
        · rw [Hex.hexNibble_low] at hnibble
          cases hnibble
      · obtain ⟨word, hword, -⟩ := Text.mem_splitWhitespace hc hspace
        rw [List.isEmpty_iff.mp htokens] at hword
        cases hword
    · exact ih hline

/-- A message in a response is in one of its lines, up to whitespace and prompt. -/
theorem line_of_message {response message : Text} (hne : message ≠ [])
    (hsep : message.any (fun c => c == '\r' || c == '\n') = false)
    (h : Text.contains (Text.trim response) message = true) :
    ∃ line ∈ responseLines response, ∀ c ∈ message, Text.isWhitespace c = false → c ≠ '>' → c ∈ line := by
  have hinfix : message <:+: response := ((Text.contains_iff_infix _ _).mp h).trans (Text.trim_infix _)
  have hsep : ∀ c ∈ message, (c == '\r' || c == '\n') = false := fun c hc =>
    Bool.eq_false_iff.mpr (List.any_eq_false.mp hsep c hc)
  obtain ⟨raw, hraw, hin⟩ := Text.infix_piece hsep hne hinfix
  refine ⟨_, List.mem_map.mpr ⟨raw, hraw, rfl⟩, fun c hc hspace hprompt => ?_⟩
  exact Text.mem_trimEndWhile (Text.mem_trim (hin.subset hc) hspace) (beq_eq_false_iff_ne.mpr hprompt)

theorem reads_no_fault {response : Text} {reads : List (List UInt8)}
    (h : Reads ((service :: data).flatMap Text.hexByte) (responseLines response) reads) :
    reportsFault response = false := by
  rw [reportsFault, Bool.or_eq_false_iff]
  constructor
  · refine Bool.eq_false_iff.mpr fun hcontains => ?_
    obtain ⟨line, hline, hmem⟩ := line_of_message (by decide) (by decide) hcontains
    have hsearching := line_of_letter (c := 'R') 82 (by decide) (by rfl) (by decide)
      (by decide) h hline (hmem 'R' (by decide) (by decide) (by decide))
    have hnine := hmem '9' (by decide) (by decide) (by decide)
    rw [hsearching] at hnine
    exact absurd hnine (by decide)
  · refine Bool.eq_false_iff.mpr fun hcontains => ?_
    obtain ⟨line, hline, hmem⟩ := line_of_message (by decide) (by decide) hcontains
    have hsearching := line_of_letter (c := 'V') 86 (by decide) (by rfl) (by decide)
      (by decide) h hline (hmem 'V' (by decide) (by decide) (by decide))
    have hletter := hmem 'V' (by decide) (by decide) (by decide)
    rw [hsearching] at hletter
    exact absurd hletter (by decide)

theorem skipOf_pos (service : UInt8) : 0 < skipOf service := by
  unfold skipOf
  split <;> decide

/-- The first payload is the answer, whatever the bus. -/
theorem decodeResponse_of_payloads (family : Codec.BusFamily) {response : Text} {first : List UInt8}
    {rests : List (List UInt8)} (hlen : skipOf service ≤ data.length + 1)
    (hnonempty : ∀ rest ∈ first :: rests, rest ≠ [])
    (h : Reads (requestCommand service data) (responseLines response)
      ((first :: rests).map (acknowledged service data (skipOf service) ++ ·))) :
    decodeResponse family service data response = .ok (truncateKnownPayload service data first) := by
  have hpayloads := payloads_of_reads family (skipOf_pos service) hlen (List.cons_ne_nil first rests)
    hnonempty h
  have hused : expectedPrefixIsUsed (some ((service :: data).flatMap Text.hexByte)) (skipOf service) = true := by
    rw [expectedPrefixIsUsed, decide_eq_true (skipOf_pos service)]
    rfl
  rw [decodeResponse, requestCommand, decodeElmResponsePayloadForCommand, hpayloads]
  simp only [hused, if_true, List.headD_cons]

/-- A response without payload is the same error whatever the bus. -/
theorem decodeResponse_of_no_payloads {response : Text} {reads : List (List UInt8)}
    (hpos : 0 < skipOf service) (hlen : skipOf service ≤ data.length + 1)
    (hreads : ∀ bytes ∈ reads, bytes = acknowledged service data (skipOf service))
    (h : Reads (requestCommand service data) (responseLines response) reads) :
    ∃ e, ∀ family, decodeResponse family service data response = .error e := by
  have hpayloads := fun family => no_payloads_of_reads family hpos hlen hreads h
  simp only [decodeResponse, decodeElmResponsePayloadForCommand, requestCommand, hpayloads]
  cases checkResponseError response with
  | error e => exact ⟨e, fun _ => rfl⟩
  | ok u => exact ⟨_, fun _ => rfl⟩

end Faults

/-! ### Answered requests -/

section Answers
variable {L : Type} [Link L]

/-- The device takes the target of a request, and answers its command with `response`. -/
def Answers (adapter : Elm327Adapter L) (req : RoutedRequest) (response : Text) : Prop :=
  ∃ targeted transport, (applyTarget req.target).run adapter = (.ok (), targeted) ∧
    (exchange (requestCommand req.serviceId req.data)).run targeted.transport = (.ok response, transport)

/-- A request on a device that takes its target and answers its command. -/
theorem routedRequest_run {adapter targeted : Elm327Adapter L} (req : RoutedRequest) {response : Text}
    {transport : L} (htarget : (applyTarget req.target).run adapter = (.ok (), targeted))
    (hexchange : (exchange (requestCommand req.serviceId req.data)).run targeted.transport =
      (.ok response, transport))
    (hfault : reportsFault response = false) :
    ∃ events, (routedRequest req).run adapter =
      (Outcome.ofExcept (decodeResponse (familyOf targeted.info.protocol) req.serviceId req.data response),
        {targeted with transport, events}) := by
  obtain ⟨events, hsend⟩ := sendCommand_run hexchange hfault
  refine ⟨events, ?_⟩
  rw [routedRequest, sendRoutedCommand, Async.run_bind_ok htarget, Async.run_bind_ok hsend]
  exact Async.run_lift _ _

/-- **A request that is answered without a fault is its decoded answer.** -/
theorem routedRequest_of_answers {adapter : Elm327Adapter L} {req : RoutedRequest} {response : Text}
    (h : Answers adapter req response) (hfault : reportsFault response = false) :
    ∃ family adapter', (routedRequest req).run adapter =
      (Outcome.ofExcept (decodeResponse family req.serviceId req.data response), adapter') := by
  obtain ⟨targeted, transport, htarget, hexchange⟩ := h
  obtain ⟨events, hrun⟩ := routedRequest_run req htarget hexchange hfault
  exact ⟨_, _, hrun⟩

end Answers

end Obd2.Elm327Adapter
