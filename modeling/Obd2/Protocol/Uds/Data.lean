import Obd2.Adapter.ElmTransport
import Obd2.Protocol.Uds
import Obd2.Transport.IsoTp.Exchange
import Obd2.Transport.Mock

/-! What the UDS client makes of the data of a response.

A payload that begins like a negative response is taken for one, and a payload that begins like
the whole response loses that beginning. Data are bytes of any value, so either can happen to
data: `data_untouched_iff` says exactly to which, for a transport that takes off the service
byte and for one that takes off the identifier as well. -/
namespace Obd2
open UdsClient

/-! ### The payload of a transport -/

theorem positiveResponseSid_eq {serviceId : UInt8} (hservice : serviceId < 0xC0) :
    positiveResponseSid serviceId = .ok (serviceId + 0x40) := by
  have hlt : serviceId.toNat < 0xC0 := UInt8.lt_iff_toNat_lt.mp hservice
  rw [positiveResponseSid, if_neg (by omega)]

/-- It begins like the whole response. -/
def LooksWhole (serviceId : UInt8) (requestData payload : List UInt8) : Prop :=
  payload.head? = some (serviceId + 0x40) ∧
    rawPositiveResponseMatchesEcho serviceId requestData payload.tail = true

section Normalize
variable {serviceId : UInt8} {requestData payload : List UInt8}

theorem normalize_negative (serviceId : UInt8) (requestData : List UInt8) (h : payload.head? = some 0x7F) :
    ∃ e, normalizeTransportPayload serviceId requestData payload = .error e := by
  cases payload with
  | nil => cases h
  | cons first rest =>
    obtain rfl : first = 0x7F := Option.some.inj h
    rcases rest with _ | ⟨service, _ | ⟨nrc, rest⟩⟩
    · exact ⟨_, rfl⟩
    · exact ⟨_, rfl⟩
    · exact ⟨_, rfl⟩

theorem normalize_whole (hservice : serviceId < 0xC0) (hfirst : payload.head? ≠ some 0x7F)
    (h : LooksWhole serviceId requestData payload) :
    normalizeTransportPayload serviceId requestData payload = .ok payload.tail := by
  cases payload with
  | nil => cases h.1
  | cons first rest =>
    have hne : first ≠ 0x7F := fun heq => hfirst (congrArg some heq)
    rw [normalizeTransportPayload, if_neg hne, positiveResponseSid_eq hservice]
    exact if_pos ⟨Option.some.inj h.1, h.2⟩

theorem normalize_kept (hservice : serviceId < 0xC0) (hfirst : payload.head? ≠ some 0x7F)
    (h : ¬ LooksWhole serviceId requestData payload) :
    normalizeTransportPayload serviceId requestData payload = .ok payload := by
  cases payload with
  | nil => rfl
  | cons first rest =>
    have hne : first ≠ 0x7F := fun heq => hfirst (congrArg some heq)
    rw [normalizeTransportPayload, if_neg hne, positiveResponseSid_eq hservice]
    exact if_neg fun hwhole => h ⟨congrArg some hwhole.1, hwhole.2⟩

/-- **A payload is kept as it is exactly if it looks neither negative nor whole.** -/
theorem normalize_eq_iff (hservice : serviceId < 0xC0) :
    normalizeTransportPayload serviceId requestData payload = .ok payload ↔
      payload.head? ≠ some 0x7F ∧ ¬ LooksWhole serviceId requestData payload := by
  constructor
  · intro hkept
    have hfirst : payload.head? ≠ some 0x7F := by
      intro hnegative
      obtain ⟨e, herror⟩ := normalize_negative serviceId requestData hnegative
      rw [herror] at hkept
      cases hkept
    refine ⟨hfirst, fun hwhole => ?_⟩
    rw [normalize_whole hservice hfirst hwhole] at hkept
    have hlength := congrArg List.length (Except.ok.inj hkept)
    cases payload with
    | nil => cases hwhole.1
    | cons first rest =>
      rw [List.tail_cons, List.length_cons] at hlength
      omega
  · rintro ⟨hfirst, hwhole⟩
    exact normalize_kept hservice hfirst hwhole

end Normalize

/-! ### Data by identifier -/

/-- What is made of the payload of a transport. -/
def dataOf (did : UInt16) (payload : List UInt8) : Except Obd2Error (List UInt8) :=
  (normalizeTransportPayload 0x22 (didBytes did) payload).map fun data =>
    if (didBytes did).isPrefixOf data then data.drop (didBytes did).length else data

section Identifier
variable {did : UInt16} {d : List UInt8}

/-- A whole response of a service that repeats the identifier. -/
theorem looksWhole_identifier {serviceId : UInt8} (hecho : echoLen serviceId = 2) (did : UInt16)
    (data : List UInt8) {payload : List UInt8} :
    LooksWhole serviceId (didBytes did ++ data) payload ↔ ((serviceId + 0x40) :: didBytes did) <+: payload := by
  have hmatches : ∀ rest, rawPositiveResponseMatchesEcho serviceId (didBytes did ++ data) rest =
      (didBytes did).isPrefixOf rest := by
    intro rest
    have hlong : ¬ (didBytes did ++ data).length < 2 := Nat.not_lt.mpr (Nat.le_add_left 2 data.length)
    rw [rawPositiveResponseMatchesEcho, hecho, if_neg (by decide), if_neg hlong]
    rfl
  cases payload with
  | nil => exact iff_of_false (fun h => by cases h.1) fun h => List.cons_ne_nil _ _ (List.prefix_nil.mp h)
  | cons first rest =>
    rw [LooksWhole, hmatches, List.isPrefixOf_iff_prefix, List.cons_prefix_cons, List.head?_cons,
      Option.some.injEq, List.tail_cons, eq_comm]

theorem looksWhole_did {payload : List UInt8} :
    LooksWhole 0x22 (didBytes did) payload ↔ (0x62 :: didBytes did) <+: payload := by
  have hlooks : LooksWhole 0x22 (didBytes did ++ []) payload ↔ (0x62 :: didBytes did) <+: payload :=
    looksWhole_identifier rfl did []
  rwa [List.append_nil] at hlooks

theorem dataOf_negative (did : UInt16) {payload : List UInt8} (h : payload.head? = some 0x7F) :
    dataOf did payload ≠ .ok d := by
  obtain ⟨e, herror⟩ := normalize_negative 0x22 (didBytes did) h
  rw [dataOf, herror]
  nofun

theorem dataOf_whole {payload : List UInt8} (hfirst : payload.head? ≠ some 0x7F)
    (h : (0x62 :: didBytes did) <+: payload) : dataOf did payload = .ok (payload.drop 3) := by
  obtain ⟨rest, rfl⟩ := h
  have hprefix : (didBytes did).isPrefixOf (didBytes did ++ rest) = true :=
    List.isPrefixOf_iff_prefix.mpr (List.prefix_append ..)
  rw [dataOf, normalize_whole (by decide) hfirst (looksWhole_did.mpr (List.prefix_append ..)), List.cons_append,
    List.tail_cons, Except.map, if_pos hprefix]
  rfl

theorem dataOf_kept {payload : List UInt8} (hfirst : payload.head? ≠ some 0x7F)
    (h : ¬ (0x62 :: didBytes did) <+: payload) :
    dataOf did payload = .ok (if (didBytes did).isPrefixOf payload then payload.drop 2 else payload) := by
  rw [dataOf, normalize_kept (by decide) hfirst (mt looksWhole_did.mp h)]
  rfl

/-- The payload after the service byte: the data come out unless the identifier looks like a
negative response, or like a whole response for an identifier of which the first data byte is the end. -/
theorem dataOf_did_iff : dataOf did (didBytes did ++ d) = .ok d ↔
    (didBytes did).head? ≠ some 0x7F ∧ ¬ (didBytes did = [0x62, 0x62] ∧ d.head? = some 0x62) := by
  have hhead : (didBytes did ++ d).head? = (didBytes did).head? := rfl
  have hwhole : (0x62 :: didBytes did) <+: (didBytes did ++ d) ↔
      didBytes did = [0x62, 0x62] ∧ d.head? = some 0x62 := by
    have hone : ∀ b : UInt8, [b] <+: d ↔ d.head? = some b := by
      intro b
      cases d with
      | nil => exact iff_of_false (fun h => List.cons_ne_nil _ _ (List.prefix_nil.mp h)) nofun
      | cons first rest =>
        rw [List.cons_prefix_cons, List.head?_cons, Option.some.injEq, eq_comm]
        exact and_iff_left (List.nil_prefix ..)
    simp only [didBytes, List.cons_append, List.nil_append, List.cons_prefix_cons, hone, List.cons.injEq, and_true]
    constructor
    · rintro ⟨hhi, hlo, hd⟩
      rw [← hlo, ← hhi] at hd
      exact ⟨⟨hhi.symm, hlo.symm.trans hhi.symm⟩, hd⟩
    · rintro ⟨⟨hhi, hlo⟩, hd⟩
      rw [hhi, hlo]
      exact ⟨rfl, rfl, hd⟩
  rw [← hhead, ← hwhole]
  constructor
  · intro hdata
    have hfirst : (didBytes did ++ d).head? ≠ some 0x7F := fun hnegative => dataOf_negative did hnegative hdata
    refine ⟨hfirst, fun hlooks => ?_⟩
    rw [dataOf_whole hfirst hlooks] at hdata
    have hlength := congrArg List.length (Except.ok.inj hdata)
    have hlong := hlooks.length_le
    rw [List.length_drop] at hlength
    simp only [List.length_cons, List.length_append, didBytes, List.length_nil] at hlength hlong
    omega
  · rintro ⟨hfirst, hlooks⟩
    have hprefix : (didBytes did).isPrefixOf (didBytes did ++ d) = true :=
      List.isPrefixOf_iff_prefix.mpr (List.prefix_append ..)
    rw [dataOf_kept hfirst hlooks, if_pos hprefix]
    rfl

/-- The data alone: they come out unless they look like a negative response, or begin with the
identifier or with a whole response. -/
theorem dataOf_bare_iff : dataOf did d = .ok d ↔
    d.head? ≠ some 0x7F ∧ ¬ didBytes did <+: d ∧ ¬ (0x62 :: didBytes did) <+: d := by
  constructor
  · intro hdata
    have hfirst : d.head? ≠ some 0x7F := fun hnegative => dataOf_negative did hnegative hdata
    have hlooks : ¬ (0x62 :: didBytes did) <+: d := by
      intro hlooks
      rw [dataOf_whole hfirst hlooks] at hdata
      have hlength := congrArg List.length (Except.ok.inj hdata)
      have hlong := hlooks.length_le
      rw [List.length_drop] at hlength
      rw [List.length_cons] at hlong
      omega
    refine ⟨hfirst, fun hprefix => ?_, hlooks⟩
    rw [dataOf_kept hfirst hlooks, if_pos (List.isPrefixOf_iff_prefix.mpr hprefix)] at hdata
    have hlength := congrArg List.length (Except.ok.inj hdata)
    have hlong : 2 ≤ d.length := hprefix.length_le
    rw [List.length_drop] at hlength
    omega
  · rintro ⟨hfirst, hprefix, hlooks⟩
    rw [dataOf_kept hfirst hlooks, if_neg (mt List.isPrefixOf_iff_prefix.mp hprefix)]

end Identifier

/-! ### Over the two transports -/

section IsoTp
variable {config : IsoTp.IsoTpConfig} {closed : Obd2Error} {stream : List IsoTp.CanDataFrame}

/-- A positive response over ISO-TP, as the client sees it. -/
theorem requestService_isoTp {serviceId : UInt8} {data response : List UInt8} (hservice : serviceId < 0xC0)
    (hnegative : serviceId ≠ 0x3F)
    (h : IsoTp.Answered config closed serviceId data stream ((serviceId + 0x40) :: response)) :
    ((requestService (IsoTp.transport config) serviceId data).run closed stream).result =
      normalizeTransportPayload serviceId data response := by
  have hexchange : (((IsoTp.transport config).exchange (.broadcastDiagnostic serviceId data)).run closed
      stream).result = .ok response := IsoTp.exchange_positive hservice hnegative h
  rw [requestService, Process.run_bind_ok hexchange]
  exact congrArg Process.Run.result (Process.run_lift ..)

/-- An echoed byte that neither stands for a negative response nor for the response itself. -/
theorem requestEchoed_isoTp {serviceId subfunction : UInt8} {data rest : List UInt8} (label : String)
    (hservice : serviceId < 0xC0) (hnegative : serviceId ≠ 0x3F) (hfirst : subfunction ≠ 0x7F)
    (hother : subfunction ≠ serviceId + 0x40)
    (h : IsoTp.Answered config closed serviceId (subfunction :: data) stream
      ((serviceId + 0x40) :: subfunction :: rest)) :
    ((requestEchoed (IsoTp.transport config) serviceId subfunction data label).run closed stream).result =
      .ok ⟨subfunction, rest⟩ := by
  have hkept : normalizeTransportPayload serviceId (subfunction :: data) (subfunction :: rest) =
      .ok (subfunction :: rest) :=
    normalize_kept hservice (fun heq => hfirst (Option.some.inj heq)) fun h => hother (Option.some.inj h.1)
  have hsplit : splitRequiredEcho (subfunction :: rest) subfunction label = .ok (subfunction, rest) :=
    if_neg fun hne => hne rfl
  rw [requestEchoed, Process.run_bind_ok ((requestService_isoTp hservice hnegative h).trans hkept), hsplit]
  rfl

/-- **The seed comes out as it was sent.** -/
theorem requestSeed_isoTp {seed : List UInt8}
    (h : IsoTp.Answered config closed 0x27 [0x01] stream (0x67 :: 0x01 :: seed)) :
    ((requestSeed (IsoTp.transport config) 0x01).run closed stream).result = .ok seed := by
  have hresponse := requestEchoed_isoTp "security-access subfunction" (by decide) (by decide) (by decide)
    (by decide) h
  rw [requestSeed, securityAccess, Process.run_bind_ok hresponse]
  rfl

theorem readDataByIdentifier_isoTp {did : UInt16} {payload : List UInt8}
    (h : IsoTp.Answered config closed 0x22 (didBytes did) stream (0x62 :: payload)) :
    ((readDataByIdentifier (IsoTp.transport config) did).run closed stream).result = dataOf did payload := by
  have hrequest := requestService_isoTp (by decide) (by decide) h
  rw [dataOf]
  cases hpayload : normalizeTransportPayload 0x22 (didBytes did) payload with
  | error e => exact Process.run_bind_error (hrequest.trans hpayload) _
  | ok data =>
    rw [readDataByIdentifier, Process.run_bind_ok (hrequest.trans hpayload), Except.map]
    split <;> rfl

end IsoTp

section Elm
variable {L : Type} [Link L] {adapter : Elm327Adapter L} {did : UInt16} {response : Text} {d : List UInt8}
open Elm327Adapter ElmCodec

/-- Data over the ELM path, as the client sees them: an empty line of data is no answer. -/
theorem readDataByIdentifier_elm (h : Answers adapter ⟨0x22, didBytes did, .broadcast⟩ response)
    (hreads : Reads (requestCommand 0x22 (didBytes did)) (responseLines response)
      [acknowledged 0x22 (didBytes did) 3 ++ d]) :
    ((readDataByIdentifier (ElmTransport.transport L) did).run adapter).1 = .ok d ↔
      d ≠ [] ∧ dataOf did d = .ok d := by
  obtain ⟨family, adapter', hrun⟩ := routedRequest_of_answers h (reads_no_fault hreads)
  have hexchange : ((ElmTransport.transport L).exchange (.broadcastDiagnostic 0x22 (didBytes did))).run adapter =
      (Outcome.ofExcept (decodeResponse family 0x22 (didBytes did) response), adapter') := hrun
  have hlen : skipOf 0x22 ≤ (didBytes did).length + 1 := Nat.le_refl 3
  by_cases hempty : d = []
  · have hbare : ∀ bytes ∈ [acknowledged 0x22 (didBytes did) 3 ++ d], bytes = acknowledged 0x22 (didBytes did) 3 := by
      rw [hempty, List.append_nil]
      exact fun bytes hbytes => List.mem_singleton.mp hbytes
    obtain ⟨e, herror⟩ := decodeResponse_of_no_payloads (by decide) hlen hbare hreads
    rw [herror] at hexchange
    have hservice := Async.run_bind_error hexchange fun payload =>
      (liftM (normalizeTransportPayload 0x22 (didBytes did) payload) : Elm L _)
    rw [readDataByIdentifier, requestService, Async.run_bind_error hservice]
    exact iff_of_false nofun fun h => h.1 hempty
  · have hnonempty : ∀ rest ∈ [d], rest ≠ [] := List.forall_mem_singleton.mpr hempty
    rw [decodeResponse_of_payloads family hlen hnonempty hreads] at hexchange
    have hservice : (requestService (ElmTransport.transport L) 0x22 (didBytes did)).run adapter =
        (Outcome.ofExcept (normalizeTransportPayload 0x22 (didBytes did) d), adapter') :=
      (Async.run_bind_ok hexchange _).trans (Async.run_lift _ _)
    rw [and_iff_right hempty, dataOf]
    cases hpayload : normalizeTransportPayload 0x22 (didBytes did) d with
    | error e =>
      rw [hpayload] at hservice
      rw [readDataByIdentifier, Async.run_bind_error hservice]
      exact iff_of_false nofun nofun
    | ok data =>
      rw [hpayload] at hservice
      rw [readDataByIdentifier, Async.run_bind_ok hservice, Except.map]
      split
      · exact ⟨fun h => congrArg Except.ok (Outcome.ok.inj h), fun h => congrArg Outcome.ok (Except.ok.inj h)⟩
      · exact ⟨fun h => congrArg Except.ok (Outcome.ok.inj h), fun h => congrArg Outcome.ok (Except.ok.inj h)⟩

/-- **The data of a response come out untouched exactly if they do not look like something
else**: the same data of an identifier over both transports, and the response to any request. -/
theorem data_untouched_iff {config config' : IsoTp.IsoTpConfig} {closed : Obd2Error}
    {stream stream' : List IsoTp.CanDataFrame}
    (hisoTp : IsoTp.Answered config closed 0x22 (didBytes did) stream (0x62 :: (didBytes did ++ d)))
    (helm : Answers adapter ⟨0x22, didBytes did, .broadcast⟩ response)
    (hreads : Reads (requestCommand 0x22 (didBytes did)) (responseLines response)
      [0x62 :: (didBytes did ++ d)])
    {serviceId : UInt8} {request data : List UInt8} (hservice : serviceId < 0xC0) (hnegative : serviceId ≠ 0x3F)
    (hpositive : IsoTp.Answered config' closed serviceId request stream' ((serviceId + 0x40) :: data)) :
    (((readDataByIdentifier (IsoTp.transport config) did).run closed stream).result = .ok d ↔
      (didBytes did).head? ≠ some 0x7F ∧ ¬ (didBytes did = [0x62, 0x62] ∧ d.head? = some 0x62)) ∧
    (((readDataByIdentifier (ElmTransport.transport L) did).run adapter).1 = .ok d ↔
      d ≠ [] ∧ d.head? ≠ some 0x7F ∧ ¬ didBytes did <+: d ∧ ¬ (0x62 :: didBytes did) <+: d) ∧
    (((requestService (IsoTp.transport config') serviceId request).run closed stream').result = .ok data ↔
      data.head? ≠ some 0x7F ∧ ¬ (data.head? = some (serviceId + 0x40) ∧
        rawPositiveResponseMatchesEcho serviceId request data.tail = true)) := by
  refine ⟨?_, ?_, ?_⟩
  · rw [readDataByIdentifier_isoTp hisoTp]
    exact dataOf_did_iff
  · rw [readDataByIdentifier_elm helm hreads, dataOf_bare_iff]
  · rw [requestService_isoTp hservice hnegative hpositive]
    exact normalize_eq_iff hservice

end Elm

/-! ### Examples -/

open ElmCodec (Reads responseLines)

def ecuConfig : IsoTp.IsoTpConfig := .new 0x7E0 0x7E8

def ecuFrame (data : List UInt8) : IsoTp.CanDataFrame := ⟨0x7E8, data, false⟩

def ecuAdapter (expectations : List (Text × Text)) : Elm327Adapter MockTransport :=
  Elm327Adapter.new (MockTransport.expecting expectations)

/-- Two bytes for F190, and the same response to a plain request. -/
theorem data_untouched_f190 :
    let stream := [ecuFrame [0x05, 0x62, 0xF1, 0x90, 0x12, 0x34, 0x00, 0x00]]
    let adapter := ecuAdapter [("22F190".toList, "62 F1 90 12 34\r\r>".toList)]
    ((readDataByIdentifier (IsoTp.transport ecuConfig) 0xF190).run .timeout stream).result = .ok [0x12, 0x34] ∧
      ((readDataByIdentifier (ElmTransport.transport MockTransport) 0xF190).run adapter).1 = .ok [0x12, 0x34] ∧
      ((requestService (IsoTp.transport ecuConfig) 0x22 [0xF1, 0x90]).run .timeout stream).result =
        .ok [0xF1, 0x90, 0x12, 0x34] := by
  intro stream adapter
  have hisoTp : IsoTp.Answered ecuConfig .timeout 0x22 (didBytes 0xF190) stream
      (0x62 :: (didBytes 0xF190 ++ [0x12, 0x34])) :=
    ⟨by decide, rfl, 0, Nat.zero_le _, .cons rfl (.nil _)⟩
  have helm : Elm327Adapter.Answers adapter ⟨0x22, didBytes 0xF190, .broadcast⟩ "62 F1 90 12 34\r\r>".toList :=
    ⟨adapter, _, rfl, Prod.ext (by decide +kernel) rfl⟩
  have hall := data_untouched_iff hisoTp helm
    (.bytes rfl (.skipped rfl (.skipped rfl .nil))) (by decide) (by decide) hisoTp
  exact ⟨hall.1.mpr (by decide), hall.2.1.mpr (by decide), hall.2.2.mpr (by decide)⟩

/-- Data that begin with their identifier lose it over the ELM path, and an identifier that begins
with 7F is taken for a negative response over ISO-TP. -/
theorem data_taken_for_echo :
    let response := "62 F1 90 F1 90 01\r\r>".toList
    let adapter := ecuAdapter [("22F190".toList, response)]
    let stream := [ecuFrame [0x05, 0x62, 0x7F, 0x10, 0x12, 0x34, 0x00, 0x00]]
    Reads "22F190".toList (responseLines response) [[0x62, 0xF1, 0x90, 0xF1, 0x90, 0x01]] ∧
      ((readDataByIdentifier (ElmTransport.transport MockTransport) 0xF190).run adapter).1 = .ok [0x01] ∧
      IsoTp.Answered ecuConfig .timeout 0x22 [0x7F, 0x10] stream [0x62, 0x7F, 0x10, 0x12, 0x34] ∧
      ((readDataByIdentifier (IsoTp.transport ecuConfig) 0x7F10).run .timeout stream).result =
        .error (.negativeResponse 0x10 .subFunctionNotSupported) := by
  exact ⟨.bytes rfl (.skipped rfl (.skipped rfl .nil)), by decide +kernel,
    ⟨by decide, rfl, 0, Nat.zero_le _, .cons rfl (.nil _)⟩, rfl⟩

end Obd2
