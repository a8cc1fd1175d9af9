import Obd2.Adapter.Elm327.NegativeResponses

/-! Adapters without a text protocol.

The purpose of the ELM327 adapter is to put requests to the modules of a vehicle, and to return the data of the
first that answers. `BusAdapter` is this alone: it asks the modules itself, under the header that is to be in
force, and returns what comes of their answer (`BusAnswer.received`).

A device that prints the answers prints a line of digits for each module (`BusAnswer.text`). What is decoded of
the text is what comes of the answer, for any request and any answer (`decodeResponse_text`). -/
namespace Obd2
open Elm327Adapter ElmCodec

/-- The data behind the bytes of the request that a response repeats. -/
abbrev ResponseData := {data : List UInt8 // data ≠ []}

/-- What the modules answer to a request. -/
inductive BusAnswer where
  | silent
  | refused (code : UInt8)
  /-- One module acknowledges the request, without data. -/
  | acknowledged
  | answered (first : ResponseData) (others : List ResponseData)
  deriving DecidableEq

/-- The modules of a vehicle, by the header they are spoken to under. -/
class VehicleBus (V : Type) where
  ask (header : Text) (serviceId : UInt8) (data : List UInt8) : V → BusAnswer × V
  /-- The voltage, in tenths of a volt. -/
  voltage : V → Nat

namespace BusAnswer

/-- The responses, byte by byte. -/
def lines (serviceId : UInt8) (data : List UInt8) : BusAnswer → List (List UInt8)
  | silent => []
  | refused code => [[0x7F, serviceId, code]]
  | acknowledged => [ElmCodec.acknowledged serviceId data (skipOf serviceId)]
  | answered first others =>
    (first :: others).map fun rest => ElmCodec.acknowledged serviceId data (skipOf serviceId) ++ rest.val

/-- Lines of digits, and the prompt. -/
def linesText (lines : List (List UInt8)) : Text :=
  lines.flatMap (fun bytes => bytes.flatMap Text.hexByte ++ ['\r']) ++ ['\r', '>']

/-- The answer as it is printed. -/
def text (serviceId : UInt8) (data : List UInt8) : BusAnswer → Text
  | silent => "NO DATA\r\r>".toList
  | answer => linesText (answer.lines serviceId data)

def unreadable (serviceId : UInt8) (data : List UInt8) (answer : BusAnswer) : Obd2Error :=
  .parseError s!"no valid payload in response: {String.ofList (answer.text serviceId data)}"

/-- What comes of an answer. To a request of fewer bytes than its response repeats, it is all that was said. -/
def received (serviceId : UInt8) (data : List UInt8) (answer : BusAnswer) : Except Obd2Error (List UInt8) :=
  match answer with
  | silent => .error .noData
  | refused code =>
    if data.length + 1 < skipOf serviceId then .ok [0x7F, serviceId, code]
    else if serviceId = 0x3F then .ok [serviceId, code]
    else
      match NegativeResponse.fromByte code with
      | some nrc => .error (.negativeResponse serviceId nrc)
      | none => .error (answer.unreadable serviceId data)
  | acknowledged =>
    if data.length + 1 < skipOf serviceId then .ok (answer.lines serviceId data).flatten
    else .error (answer.unreadable serviceId data)
  | answered first _ =>
    if data.length + 1 < skipOf serviceId then .ok (answer.lines serviceId data).flatten
    else .ok (truncateKnownPayload serviceId data first.val)

end BusAnswer

/-! ### The adapter -/

structure BusAdapter (V : Type) where
  vehicle : V
  info : AdapterInfo
  /-- The header that was set, if one was. -/
  currentHeader : Option Text
  events : List AdapterEvent

namespace BusAdapter
variable {V : Type}

/-- The header that the modules are spoken to under. -/
def header (a : BusAdapter V) : Text := a.currentHeader.getD ((defaultBroadcastHeader a.info.protocol).getD [])

def under (header : Text) (a : BusAdapter V) : BusAdapter V :=
  if a.currentHeader = some header then a
  else {a with currentHeader := some header, events := a.events ++ [⟨.headerChanged header, none⟩]}

def targeted (target : PhysicalTarget) (a : BusAdapter V) : Except Obd2Error (BusAdapter V) :=
  match target with
  | .broadcast =>
    match a.currentHeader, defaultBroadcastHeader a.info.protocol with
    | some _, some header =>
      let a := a.under header
      .ok {a with events := a.events ++ [⟨.headerReset header, some "restored broadcast header".toList⟩]}
    | _, _ => .ok {a with currentHeader := none}
  | .addressed address =>
    match headerOf address with
    | some header => .ok (a.under header)
    | none => .error (.adapter "J1939 addressed routing is not implemented yet")

variable [VehicleBus V]

def asked (serviceId : UInt8) (data : List UInt8) (a : BusAdapter V) :
    Outcome Obd2Error (List UInt8) × BusAdapter V :=
  let (answer, vehicle) := VehicleBus.ask a.header serviceId data a.vehicle
  (.ofExcept (answer.received serviceId data), {a with vehicle})

def routedRequest (req : RoutedRequest) : Async Obd2Error (BusAdapter V) (List UInt8) := fun a =>
  match a.targeted req.target with
  | .ok a => a.asked req.serviceId req.data
  | .error e => (.error e, a)

instance : Adapter (BusAdapter V) where
  initializeAdapter := fun a => (.ok ⟨a.info, [], a.events⟩, {a with events := []})
  routedRequest := routedRequest
  batteryVoltage := fun a => (.ok (some (Float.ofScientific (VehicleBus.voltage a.vehicle) true 1)), a)
  info := (·.info)
  drainEvents a := (a.events, {a with events := []})

end BusAdapter

/-! ### What is decoded of a text -/

namespace BusAnswer
open Hex

section Lines

theorem linesText_cons (bytes : List UInt8) (lines : List (List UInt8)) :
    linesText (bytes :: lines) = bytes.flatMap Text.hexByte ++ '\r' :: linesText lines := by
  rw [linesText, List.flatMap_cons, List.append_assoc, List.append_assoc]
  rfl

/-- The lines are read as they were written, whatever the command. -/
theorem reads_linesText (command : Text) {lines : List (List UInt8)} (h : ∀ bytes ∈ lines, bytes ≠ []) :
    Reads command (responseLines (linesText lines)) lines := by
  induction lines with
  | nil => exact .skipped rfl (.skipped rfl .nil)
  | cons bytes lines ih =>
    have hne := h bytes List.mem_cons_self
    have hline : IsLine bytes (bytes.flatMap Text.hexByte) := .inl rfl
    have hsplit : rawLines (bytes.flatMap Text.hexByte ++ '\r' :: linesText lines) =
        bytes.flatMap Text.hexByte :: rawLines (linesText lines) :=
      List.splitOnP_append_cons_of_forall_mem (hline.within hne) '\r' rfl _
    have htext := (hline.isTrimmed hne).lineText (.inl rfl)
    rw [List.append_nil] at htext
    rw [linesText_cons, responseLines_eq, hsplit, List.map_cons, htext, ← responseLines_eq]
    exact .bytes (hline.parseHexLine hne) (ih fun b hb => h b (List.mem_cons_of_mem bytes hb))

theorem lines_ne_nil {serviceId : UInt8} {data : List UInt8} (answer : BusAnswer) :
    ∀ bytes ∈ answer.lines serviceId data, bytes ≠ [] := by
  cases answer with
  | silent => exact fun _ h => nomatch h
  | refused code => exact List.forall_mem_singleton.mpr (List.cons_ne_nil _ _)
  | acknowledged => exact List.forall_mem_singleton.mpr (List.cons_ne_nil _ _)
  | answered first others =>
    intro bytes hbytes
    obtain ⟨rest, -, rfl⟩ := List.mem_map.mp hbytes
    exact List.cons_ne_nil _ _

/-- A line and the prompt are a reply. -/
theorem replies_linesText {bytes : List UInt8} (hne : bytes ≠ []) : Replies (linesText [bytes]) bytes := by
  have htext : linesText [bytes] = bytes.flatMap Text.hexByte ++ (['\r', '\r'] ++ ['>']) := linesText_cons bytes []
  rw [htext]
  exact replies_of_line hne (.inl rfl) (by simp) (.inr rfl)

/-- A text of lines is trimmed already. -/
theorem trim_linesText {bytes : List UInt8} (hne : bytes ≠ []) (lines : List (List UInt8)) :
    Text.trim (linesText (bytes :: lines)) = linesText (bytes :: lines) := by
  obtain ⟨⟨c, rest, hfirst, hc⟩, -⟩ := IsLine.isTrimmed hne (.inl rfl)
  have hend : linesText (bytes :: lines) =
      ((bytes :: lines).flatMap (fun bytes => bytes.flatMap Text.hexByte ++ ['\r']) ++ ['\r']) ++ ['>'] := by
    rw [linesText, List.append_assoc]
    rfl
  have hstart : (linesText (bytes :: lines)).dropWhile Text.isWhitespace = linesText (bytes :: lines) := by
    rw [linesText_cons, hfirst]
    exact List.dropWhile_cons_of_neg (by simp [hc])
  rw [Text.trim, hstart, hend, Text.trimEndWhile_concat]
  exact if_neg (by decide)

end Lines

section Decoded
variable {serviceId : UInt8} {data : List UInt8} (family : Codec.BusFamily)

/-- No data, whether or not that is the command. -/
theorem decodeResponse_silent : decodeResponse family serviceId data "NO DATA\r\r>".toList = .error .noData := by
  have hline (expected : Option (List UInt8)) :
      ∃ e, decodeLine "NO DATA".toList family (skipOf serviceId) expected = .error e := by
    cases family with
    | can => exact ⟨_, rfl⟩
    | j1850 => exact ⟨_, rfl⟩
    | iso9141 => exact ⟨_, rfl⟩
    | kwp2000 => exact ⟨_, rfl⟩
  have hloop (expected : Option (List UInt8)) :
      acceptLines family (skipOf serviceId) (some (requestCommand serviceId data)) expected
          ⟨expected.isNone, [], []⟩ (responseLines "NO DATA\r\r>".toList) =
        .ok ⟨expected.isNone, [], []⟩ ∨
      ∃ e, acceptLines family (skipOf serviceId) (some (requestCommand serviceId data)) expected
          ⟨expected.isNone, [], []⟩ (responseLines "NO DATA\r\r>".toList) = .error e := by
    have hlines : responseLines "NO DATA\r\r>".toList = ["NO DATA".toList, [], []] := by decide +kernel
    obtain ⟨e, he⟩ := hline expected
    have hmatched : (expected.isNone && expected.isSome) = false := by cases expected <;> rfl
    rw [hlines, acceptLines, acceptLine, hmatched, Bool.false_and, he]
    by_cases hskipped : isSkipped (some (requestCommand serviceId data)) "NO DATA".toList = true
    · rw [if_pos hskipped]
      exact .inl rfl
    · rw [if_neg hskipped]
      exact .inr ⟨e, rfl⟩
  have hpayload : ∃ e, decodeElmResponsePayloadForCommand "NO DATA\r\r>".toList family (skipOf serviceId)
      (some (requestCommand serviceId data)) = .error e := by
    rw [decodeElmResponsePayloadForCommand, decodeElmResponsePayloadsForCommand]
    dsimp only
    obtain hnone | ⟨e, herror⟩ := hloop ((some (requestCommand serviceId data)).bind
      (expectedResponsePrefix · (skipOf serviceId)))
    · rw [hnone]
      exact ⟨_, rfl⟩
    · rw [herror]
      exact ⟨_, rfl⟩
  obtain ⟨e, he⟩ := hpayload
  have hcheck : checkResponseError "NO DATA\r\r>".toList = .error .noData := by decide +kernel
  rw [decodeResponse, he]
  dsimp only
  rw [hcheck]

theorem truncateKnownPayload_short (hshort : data.length + 1 < skipOf serviceId) (payload : List UInt8) :
    truncateKnownPayload serviceId data payload = payload := by
  by_cases hmeasurement : IsMeasurement serviceId
  · rw [skipOf_measurement hmeasurement] at hshort
    obtain rfl : data = [] := List.length_eq_zero_iff.mp (by omega)
    exact truncateKnownPayload_nil serviceId payload
  · exact truncateKnownPayload_of_not hmeasurement data payload

/-- An acknowledged service is no error, not even if it is acknowledged by 0x7F. -/
theorem checkResponseError_acknowledged {response : Text}
    (h : Replies response (ElmCodec.acknowledged serviceId data (skipOf serviceId))) :
    checkResponseError response = .ok () := by
  have hunknown : Text.trim response ≠ "?".toList := by
    intro heq
    have hcontains := h.not_fault "?" (by simp)
    rw [(Text.contains_iff_infix _ _).mpr (heq ▸ List.infix_refl _)] at hcontains
    cases hcontains
  have hdata := h.not_fault "NO DATA" (by simp)
  have hconnect := h.not_fault "UNABLE TO CONNECT" (by simp)
  have hinit := h.not_fault "BUS INIT" (by simp)
  have hcan := h.not_fault "CAN ERROR" (by simp)
  simp only [checkResponseError, hdata, hconnect, hinit, hcan, hunknown, Bool.false_and, Bool.false_eq_true, if_false,
    h.compactResponseBytes]
  by_cases hservice : serviceId = 0x3F
  · subst hservice
    rfl
  · have hother : ∀ service : UInt8, service ≠ 0x3F → service + 0x40 ≠ 0x7F := forall_byte (by decide +kernel)
    split
    · rename_i heq
      exact absurd (List.cons.inj heq).1 (hother serviceId hservice)
    · rfl

/-- Lines that repeat a request that is too short are kept whole. -/
theorem decodeResponse_whole (hshort : data.length + 1 < skipOf serviceId) {lines : List (List UInt8)}
    (hne : ∀ bytes ∈ lines, bytes ≠ []) (hsome : lines ≠ [])
    (hlines : ∀ bytes ∈ lines, ∃ rest, bytes = (serviceId + 0x40) :: rest) :
    decodeResponse family serviceId data (linesText lines) = .ok lines.flatten := by
  have hfold (current : List UInt8) :
      lines.foldl (accept none) ⟨true, [], current⟩ = ⟨true, [], current ++ lines.flatten⟩ := by
    clear hsome hlines hne
    induction lines generalizing current with
    | nil => rw [List.flatten_nil, List.append_nil]; rfl
    | cons bytes lines ih =>
      rw [List.foldl_cons, List.flatten_cons, ← List.append_assoc]
      exact ih (current ++ bytes)
  have hfinish : (⟨true, [], lines.flatten⟩ : Accumulator).finish = [lines.flatten] := by
    obtain ⟨bytes, rest, rfl⟩ := List.exists_cons_of_ne_nil hsome
    obtain ⟨tail, rfl⟩ := hlines bytes List.mem_cons_self
    rfl
  have hloop : acceptLines family (skipOf serviceId) (some (requestCommand serviceId data))
      (expectedResponsePrefix (requestCommand serviceId data) (skipOf serviceId))
      ⟨(expectedResponsePrefix (requestCommand serviceId data) (skipOf serviceId)).isNone, [], []⟩
      (responseLines (linesText lines)) = .ok ⟨true, [], lines.flatten⟩ := by
    rw [expectedResponsePrefix_short hshort, Option.isNone_none,
      acceptLines_short hshort (fun _ hline => tidy_of_mem hline) (reads_linesText _ hne) hlines, hfold, List.nil_append]
  rw [decodeResponse_of_finish hloop hfinish, truncateKnownPayload_short hshort]

theorem replies_refusal (code : UInt8) : Replies (linesText [[0x7F, serviceId, code]]) [0x7F, serviceId, code] :=
  replies_linesText (List.cons_ne_nil _ _)

/-- A refusal of a request that is too short is kept whole. -/
theorem decodeResponse_refusal_short (code : UInt8) (hshort : data.length + 1 < skipOf serviceId) :
    decodeResponse family serviceId data (linesText [[0x7F, serviceId, code]]) = .ok [0x7F, serviceId, code] := by
  have hfirst : ∀ service, 1 < skipOf service → service >>> 4 ≠ (0x7F : UInt8) >>> 4 := forall_byte (by decide +kernel)
  have hmany : 1 < skipOf serviceId := Nat.lt_of_le_of_lt (Nat.le_add_left ..) hshort
  have hloop : acceptLines family (skipOf serviceId) (some (requestCommand serviceId data))
      (expectedResponsePrefix (requestCommand serviceId data) (skipOf serviceId))
      ⟨(expectedResponsePrefix (requestCommand serviceId data) (skipOf serviceId)).isNone, [], []⟩
      (responseLines (linesText [[0x7F, serviceId, code]])) = .ok _ :=
    acceptLines_negative (replies_refusal code) (hfirst serviceId hmany) _ _
  have hfinish : (accept (expectedResponsePrefix (requestCommand serviceId data) (skipOf serviceId))
      ⟨(expectedResponsePrefix (requestCommand serviceId data) (skipOf serviceId)).isNone, [], []⟩
      [0x7F, serviceId, code]).finish = [[0x7F, serviceId, code]] := by
    rw [expectedResponsePrefix_short hshort]
    rfl
  rw [decodeResponse_of_finish hloop hfinish, truncateKnownPayload_short hshort]

/-- Service 0x3F is acknowledged by 0x7F, so a refusal of it is taken for an acknowledgement. -/
theorem decodeResponse_refusal_taken (code : UInt8) :
    decodeResponse family 0x3F data (linesText [[0x7F, 0x3F, code]]) = .ok [0x3F, code] := by
  have hexpects : expectedResponsePrefix (requestCommand 0x3F data) (skipOf 0x3F) = some [0x7F] :=
    expectedResponsePrefix_command 0x3F (skipOf_pos 0x3F) (Nat.le_add_left 1 data.length)
  have hfinish : (accept (expectedResponsePrefix (requestCommand 0x3F data) (skipOf 0x3F))
      ⟨(expectedResponsePrefix (requestCommand 0x3F data) (skipOf 0x3F)).isNone, [], []⟩
      [0x7F, 0x3F, code]).finish = [[0x3F, code]] := by
    rw [hexpects]
    rfl
  rw [decodeResponse_of_finish (acceptLines_negative (replies_refusal code) (by decide) _ _) hfinish]
  rfl

/-- A refusal is reported by its name, if the request can be refused and there is a name. -/
theorem decodeResponse_refusal (code : UInt8) :
    decodeResponse family serviceId data (linesText [[0x7F, serviceId, code]]) =
      (refused code).received serviceId data := by
  by_cases hshort : data.length + 1 < skipOf serviceId
  · rw [decodeResponse_refusal_short family code hshort, received, if_pos hshort]
  · rw [received, if_neg hshort]
    by_cases hservice : serviceId = 0x3F
    · subst hservice
      rw [decodeResponse_refusal_taken family code, if_pos rfl]
    · have hnamed : namedError serviceId [code] =
          (NegativeResponse.fromByte code).map fun nrc => .negativeResponse serviceId nrc := by
        rw [namedError]
        cases h : NegativeResponse.fromByte code with
        | some nrc => simp [h]
        | none => simp [h]
      rw [if_neg hservice, decodeResponse_refused family (replies_refusal code) hservice (Nat.le_of_not_lt hshort), hnamed,
        trim_linesText (List.cons_ne_nil _ _)]
      cases NegativeResponse.fromByte code with
      | some nrc => rfl
      | none => rfl

/-- An acknowledgement without data is no response. -/
theorem decodeResponse_acknowledged :
    decodeResponse family serviceId data
        (linesText [ElmCodec.acknowledged serviceId data (skipOf serviceId)]) =
      acknowledged.received serviceId data := by
  have hne : ∀ bytes ∈ [ElmCodec.acknowledged serviceId data (skipOf serviceId)], bytes ≠ [] :=
    List.forall_mem_singleton.mpr (List.cons_ne_nil _ _)
  by_cases hshort : data.length + 1 < skipOf serviceId
  · rw [received, if_pos hshort]
    exact decodeResponse_whole family hshort hne (List.cons_ne_nil _ _) (List.forall_mem_singleton.mpr ⟨_, rfl⟩)
  · have hpayloads := no_payloads_of_reads family (skipOf_pos serviceId) (Nat.le_of_not_lt hshort)
      (List.forall_mem_singleton.mpr rfl) (reads_linesText (requestCommand serviceId data) hne)
    have hreplies := replies_linesText (hne _ List.mem_cons_self)
    rw [received, if_neg hshort, decodeResponse, requestCommand, decodeElmResponsePayloadForCommand, hpayloads]
    dsimp only
    rw [checkResponseError_acknowledged hreplies, trim_linesText (hne _ List.mem_cons_self)]
    rfl

/-- The first response with data is what is returned. -/
theorem decodeResponse_answered (first : ResponseData) (others : List ResponseData) :
    decodeResponse family serviceId data (linesText ((answered first others).lines serviceId data)) =
      (answered first others).received serviceId data := by
  have hne : ∀ bytes ∈ (answered first others).lines serviceId data, bytes ≠ [] := lines_ne_nil _
  by_cases hshort : data.length + 1 < skipOf serviceId
  · rw [received, if_pos hshort]
    refine decodeResponse_whole family hshort hne (List.cons_ne_nil _ _) ?_
    intro bytes hbytes
    obtain ⟨rest, -, rfl⟩ := List.mem_map.mp hbytes
    exact ⟨_, rfl⟩
  · have hdata : ∀ rest ∈ first.val :: others.map Subtype.val, rest ≠ [] := by
      intro rest hrest
      rw [← List.map_cons] at hrest
      obtain ⟨response, -, rfl⟩ := List.mem_map.mp hrest
      exact response.property
    have hreads := reads_linesText (requestCommand serviceId data) hne
    rw [received, if_neg hshort]
    apply decodeResponse_of_payloads family (Nat.le_of_not_lt hshort) hdata
    rw [← List.map_cons, List.map_map]
    exact hreads

/-- **What is decoded of the text of an answer is what comes of the answer**, whatever the bus. -/
theorem decodeResponse_text (answer : BusAnswer) :
    decodeResponse family serviceId data (answer.text serviceId data) = answer.received serviceId data := by
  cases answer with
  | silent => exact decodeResponse_silent family
  | refused code => exact decodeResponse_refusal family code
  | acknowledged => exact decodeResponse_acknowledged family
  | answered first others => exact decodeResponse_answered family first others

end Decoded

end BusAnswer

end Obd2
