import Obd2.Protocol.DoIp
import Obd2.Text.Lemmas

/-! The diagnostic client, and the address it takes for its entity.

Every exit of a routing activation leaves the recorded address alone but one: an answer that refuses
the activation is taken note of before its code is looked at (`activateRouting_cases`). Diagnostics
then speak to the address of a refused activation (`activation_keeps_iff`). -/
namespace Obd2

def doIpRoutingActivationSuccess : UInt8 := 0x10
def doIpMaxDiagnosticEvents : Nat := 16

/-- `0x{:04X}` of an address. -/
def addressHex (n : UInt16) : String := String.ofList ("0x".toList ++ Text.upperHex 4 n.toNat)

/-- `0x{:02X}` of a code. -/
def codeHex (b : UInt8) : String := String.ofList ("0x".toList ++ Text.hexByte b)

/-! ### Payloads -/

/-- Generic negative acknowledgement (0x0000). -/
structure DoIpGenericNegativeAck where
  nackCode : UInt8
  deriving DecidableEq, Repr

/-- Diagnostic message (0x8001). -/
structure DoIpDiagnosticMessage where
  sourceAddress : UInt16
  targetAddress : UInt16
  userData : List UInt8
  deriving DecidableEq, Repr

/-- Diagnostic acknowledgement, positive or negative (0x8002 and 0x8003). -/
structure DoIpDiagnosticAck where
  sourceAddress : UInt16
  targetAddress : UInt16
  ackCode : UInt8
  previousMessageData : List UInt8
  deriving DecidableEq, Repr

/-- Four reserved bytes. -/
structure ReservedBytes where
  first : UInt8
  second : UInt8
  third : UInt8
  fourth : UInt8
  deriving DecidableEq, Repr

def ReservedBytes.bytes (reserved : ReservedBytes) : List UInt8 :=
  [reserved.first, reserved.second, reserved.third, reserved.fourth]

/-- Routing activation request (0x0005). -/
structure DoIpRoutingActivationRequest where
  sourceAddress : UInt16
  activationType : UInt8
  reservedIso : ReservedBytes
  reservedOem : Option ReservedBytes
  deriving DecidableEq, Repr

/-- Routing activation response (0x0006). -/
structure DoIpRoutingActivationResponse where
  testerAddress : UInt16
  entityAddress : UInt16
  responseCode : UInt8
  reservedIso : ReservedBytes
  reservedOem : Option ReservedBytes
  deriving DecidableEq, Repr

namespace DoIpGenericNegativeAck

def parse (payload : List UInt8) : Except Obd2Error DoIpGenericNegativeAck :=
  match payload with
  | [nackCode] => .ok ⟨nackCode⟩
  | _ => .error (.parseError s!"DoIP generic negative ACK payload must be 1 byte, got {payload.length}")

end DoIpGenericNegativeAck

namespace DoIpDiagnosticMessage

def parse (payload : List UInt8) : Except Obd2Error DoIpDiagnosticMessage :=
  match payload with
  | s0 :: s1 :: t0 :: t1 :: userData => .ok ⟨u16FromBe s0 s1, u16FromBe t0 t1, userData⟩
  | _ => .error (.parseError s!"DoIP diagnostic payload requires at least 4 bytes, got {payload.length}")

def toPayload (message : DoIpDiagnosticMessage) : List UInt8 :=
  u16ToBe message.sourceAddress ++ u16ToBe message.targetAddress ++ message.userData

end DoIpDiagnosticMessage

namespace DoIpDiagnosticAck

def parse (payload : List UInt8) : Except Obd2Error DoIpDiagnosticAck :=
  match payload with
  | s0 :: s1 :: t0 :: t1 :: ackCode :: previousMessageData =>
    .ok ⟨u16FromBe s0 s1, u16FromBe t0 t1, ackCode, previousMessageData⟩
  | _ => .error (.parseError s!"DoIP diagnostic ACK payload requires at least 5 bytes, got {payload.length}")

end DoIpDiagnosticAck

namespace DoIpRoutingActivationRequest

def new (sourceAddress : UInt16) (activationType : UInt8) : DoIpRoutingActivationRequest :=
  ⟨sourceAddress, activationType, ⟨0, 0, 0, 0⟩, none⟩

def toPayload (request : DoIpRoutingActivationRequest) : List UInt8 :=
  u16ToBe request.sourceAddress ++ request.activationType :: request.reservedIso.bytes ++
    (match request.reservedOem with
      | some oem => oem.bytes
      | none => [])

end DoIpRoutingActivationRequest

namespace DoIpRoutingActivationResponse

def parse (payload : List UInt8) : Except Obd2Error DoIpRoutingActivationResponse :=
  match payload with
  | [t0, t1, e0, e1, code, i0, i1, i2, i3] =>
    .ok ⟨u16FromBe t0 t1, u16FromBe e0 e1, code, ⟨i0, i1, i2, i3⟩, none⟩
  | [t0, t1, e0, e1, code, i0, i1, i2, i3, o0, o1, o2, o3] =>
    .ok ⟨u16FromBe t0 t1, u16FromBe e0 e1, code, ⟨i0, i1, i2, i3⟩, some ⟨o0, o1, o2, o3⟩⟩
  | _ =>
    .error (.parseError s!"DoIP routing activation response must be 9 or 13 bytes, got {payload.length}")

def toPayload (response : DoIpRoutingActivationResponse) : List UInt8 :=
  u16ToBe response.testerAddress ++ u16ToBe response.entityAddress ++
    response.responseCode :: response.reservedIso.bytes ++
      (match response.reservedOem with
        | some oem => oem.bytes
        | none => [])

end DoIpRoutingActivationResponse

/-! ### The client -/

/-- Packets one by one; an exchange is one sent and the next received. -/
class DoIpTransport (T : Type) where
  send : DoIpMessage → Async Obd2Error T Unit
  recv : Async Obd2Error T DoIpMessage

instance : DoIpTransport DoIpStreamTransport where
  send := DoIpStreamTransport.send
  recv := DoIpStreamTransport.recv

structure DoIpClient (T : Type) where
  transport : T
  testerAddress : UInt16
  entityAddress : UInt16

namespace DoIpClient
variable {T : Type} [DoIpTransport T] {α : Type}

def exchange (message : DoIpMessage) : Async Obd2Error T DoIpMessage := do
  DoIpTransport.send message
  DoIpTransport.recv

def onTransport (x : Async Obd2Error T α) : Async Obd2Error (DoIpClient T) α :=
  x.on (·.transport) fun transport client => {client with transport}

/-- `doip_generic_nack_error`. -/
def genericNackError (payload : List UInt8) : Obd2Error :=
  match DoIpGenericNegativeAck.parse payload with
  | .ok nack => .transport s!"DoIP generic negative ACK {codeHex nack.nackCode}"
  | .error e => e

/-- `DoIpMessage::routing_activation_request`. -/
def activationRequest (testerAddress : UInt16) (activationType : UInt8) : Except Obd2Error DoIpMessage :=
  DoIpMessage.new .routingActivationRequest (DoIpRoutingActivationRequest.new testerAddress activationType).toPayload

/-- The activation a packet answers to a tester, whatever its code. -/
def activationOf (testerAddress : UInt16) (response : DoIpMessage) :
    Except Obd2Error DoIpRoutingActivationResponse :=
  if response.header.payloadType = .genericNegativeAck then
    .error (genericNackError response.payload)
  else if response.header.payloadType ≠ .routingActivationResponse then
    let got := addressHex response.header.payloadType.asU16
    .error (.parseError s!"expected DoIP routing activation response, got payload type {got}")
  else
    match DoIpRoutingActivationResponse.parse response.payload with
    | .error e => .error e
    | .ok activation =>
      if activation.testerAddress ≠ testerAddress then
        let got := addressHex activation.testerAddress
        let requested := addressHex testerAddress
        .error (.parseError
          s!"DoIP routing activation response tester address {got} does not match request {requested}")
      else
        .ok activation

def routingActivation (activationType : UInt8) : Async Obd2Error (DoIpClient T) DoIpRoutingActivationResponse := do
  let client ← .get
  let message ← .lift (activationRequest client.testerAddress activationType)
  let response ← onTransport (exchange message)
  let activation ← .lift (activationOf client.testerAddress response)
  .modify fun client => {client with entityAddress := activation.entityAddress}
  pure activation

def activateRouting (activationType : UInt8) : Async Obd2Error (DoIpClient T) DoIpRoutingActivationResponse := do
  let activation ← routingActivation activationType
  if activation.responseCode = doIpRoutingActivationSuccess then
    pure activation
  else
    .throw (.transport s!"DoIP routing activation failed with response code {codeHex activation.responseCode}")

def validateResponseAddresses (client : DoIpClient T) (sourceAddress targetAddress : UInt16) (label : String) :
    Except Obd2Error Unit :=
  if sourceAddress ≠ client.entityAddress ∨ targetAddress ≠ client.testerAddress then
    let source := addressHex sourceAddress
    let target := addressHex targetAddress
    let entity := addressHex client.entityAddress
    let tester := addressHex client.testerAddress
    .error (.parseError
      s!"DoIP {label} addresses source={source} target={target}; expected source={entity} target={tester}")
  else
    .ok ()

/-- What a packet comes to while a diagnostic response is awaited: the response, or nothing yet. -/
def diagnosticEvent (client : DoIpClient T) (response : DoIpMessage) : Except Obd2Error (Option (List UInt8)) :=
  match response.header.payloadType with
  | .diagnosticMessage => do
    let diag ← DoIpDiagnosticMessage.parse response.payload
    validateResponseAddresses client diag.sourceAddress diag.targetAddress "diagnostic response"
    .ok (some diag.userData)
  | .diagnosticPositiveAck => do
    let ack ← DoIpDiagnosticAck.parse response.payload
    validateResponseAddresses client ack.sourceAddress ack.targetAddress "diagnostic positive ACK"
    .ok none
  | .diagnosticNegativeAck => do
    let ack ← DoIpDiagnosticAck.parse response.payload
    validateResponseAddresses client ack.sourceAddress ack.targetAddress "diagnostic negative ACK"
    .error (.transport s!"DoIP diagnostic negative ACK {codeHex ack.ackCode}")
  | .genericNegativeAck => .error (genericNackError response.payload)
  | other =>
    let got := addressHex other.asU16
    .error (.parseError s!"unexpected DoIP payload type {got} during diagnostic exchange")

/-- The packets up to the response, so many of them at most. -/
def awaitDiagnostic : Nat → Async Obd2Error (DoIpClient T) (List UInt8)
  | 0 => .throw .timeout
  | events + 1 => do
    let response ← onTransport DoIpTransport.recv
    let client ← .get
    match ← .lift (diagnosticEvent client response) with
    | some userData => pure userData
    | none => awaitDiagnostic events

def sendDiagnostic (userData : List UInt8) : Async Obd2Error (DoIpClient T) (List UInt8) := do
  if userData.isEmpty then
    .throw (.parseError "DoIP diagnostic user data is empty")
  else
    let client ← .get
    let request ← .lift (DoIpMessage.new .diagnosticMessage
      (DoIpDiagnosticMessage.toPayload ⟨client.testerAddress, client.entityAddress, userData⟩))
    onTransport (DoIpTransport.send request)
    awaitDiagnostic doIpMaxDiagnosticEvents

end DoIpClient

/-! ### Payloads are read as they were written -/

theorem DoIpDiagnosticMessage.parse_toPayload (message : DoIpDiagnosticMessage) :
    parse message.toPayload = .ok message := by
  obtain ⟨s0, s1, hsource, hs⟩ := u16FromBe_toBe message.sourceAddress
  obtain ⟨t0, t1, htarget, ht⟩ := u16FromBe_toBe message.targetAddress
  simp [parse, toPayload, hsource, htarget, hs, ht]

theorem DoIpRoutingActivationResponse.parse_toPayload (response : DoIpRoutingActivationResponse) :
    parse response.toPayload = .ok response := by
  obtain ⟨t0, t1, htester, ht⟩ := u16FromBe_toBe response.testerAddress
  obtain ⟨e0, e1, hentity, he⟩ := u16FromBe_toBe response.entityAddress
  obtain ⟨testerAddress, entityAddress, responseCode, reservedIso, reservedOem⟩ := response
  cases reservedOem with
  | none => simp [parse, toPayload, htester, hentity, ReservedBytes.bytes, ht, he]
  | some oem => simp [parse, toPayload, htester, hentity, ReservedBytes.bytes, ht, he]

/-! ### Activations -/

namespace DoIpClient
open Async

section Activation
variable {T : Type} {client : DoIpClient T} {response : DoIpMessage}

/-- The packet refuses the activation of this tester, in the name of another address than the recorded
one. -/
def RefusesElsewhere (client : DoIpClient T) (response : DoIpMessage) : Prop :=
  response.header.payloadType = .routingActivationResponse ∧
    ∃ activation, DoIpRoutingActivationResponse.parse response.payload = .ok activation ∧
      activation.testerAddress = client.testerAddress ∧
      activation.responseCode ≠ doIpRoutingActivationSuccess ∧ activation.entityAddress ≠ client.entityAddress

theorem activationOf_eq_ok {testerAddress : UInt16} {activation : DoIpRoutingActivationResponse} :
    activationOf testerAddress response = .ok activation ↔
      response.header.payloadType = .routingActivationResponse ∧
        DoIpRoutingActivationResponse.parse response.payload = .ok activation ∧
        activation.testerAddress = testerAddress := by
  unfold activationOf
  by_cases hnack : response.header.payloadType = .genericNegativeAck
  · rw [if_pos hnack, hnack]
    simp
  · rw [if_neg hnack]
    by_cases htype : response.header.payloadType = .routingActivationResponse
    · rw [if_neg (not_not_intro htype)]
      cases DoIpRoutingActivationResponse.parse response.payload with
      | error e => simp
      | ok parsed =>
        by_cases htester : parsed.testerAddress = testerAddress
        · simp only [htester, ne_eq, not_true_eq_false, if_false, htype, true_and, Except.ok.injEq]
          exact ⟨fun h => ⟨h, h ▸ htester⟩, And.left⟩
        · simp only [htester, ne_eq, not_false_eq_true, if_true, htype, true_and, Except.ok.injEq, reduceCtorEq,
            false_iff, not_and]
          rintro rfl
          exact htester
    · rw [if_pos htype]
      simp [htype]

theorem activationRequest_ok (testerAddress : UInt16) (activationType : UInt8) :
    ∃ request, activationRequest testerAddress activationType = .ok request := ⟨_, rfl⟩

variable [DoIpTransport T]

/-- **How an activation ends**: without an answer to this tester the client is as it was; with one the
address is that of the answer, whatever its code. -/
theorem activateRouting_cases (activationType : UInt8) {request : DoIpMessage}
    (hrequest : activationRequest client.testerAddress activationType = .ok request) :
    (∃ response activation, ((exchange request).run client.transport).1 = .ok response ∧
        activationOf client.testerAddress response = .ok activation ∧
        ((activateRouting activationType).run client).2.entityAddress = activation.entityAddress ∧
        ∃ e, ((activateRouting activationType).run client).1 =
          if activation.responseCode = doIpRoutingActivationSuccess then .ok activation else .error e) ∨
      ((∀ response, ((exchange request).run client.transport).1 = .ok response →
          ∃ e, activationOf client.testerAddress response = .error e) ∧
        ((activateRouting activationType).run client).2.entityAddress = client.entityAddress) := by
  have hrouting : (routingActivation activationType).run client = ((do
      let response ← onTransport (exchange request)
      let activation ← .lift (activationOf client.testerAddress response)
      .modify fun client => {client with entityAddress := activation.entityAddress}
      pure activation : Async Obd2Error (DoIpClient T) DoIpRoutingActivationResponse).run client) := by
    rw [routingActivation, run_bind_ok (run_get client), hrequest]
    rfl
  cases hexchange : (exchange request).run client.transport with
  | mk outcome transport =>
    have hreceived : (onTransport (exchange request)).run client = (outcome, {client with transport}) := by
      rw [onTransport, run_on, hexchange]
    cases outcome with
    | error e =>
      refine .inr ⟨fun _ h => (nomatch h), ?_⟩
      rw [run_bind_error hreceived] at hrouting
      rw [activateRouting, run_bind_error hrouting]
    | dropped =>
      refine .inr ⟨fun _ h => (nomatch h), ?_⟩
      rw [run_bind_dropped hreceived] at hrouting
      rw [activateRouting, run_bind_dropped hrouting]
    | ok response =>
      rw [run_bind_ok hreceived] at hrouting
      cases hactivation : activationOf client.testerAddress response with
      | error e =>
        refine .inr ⟨fun other h => ⟨e, Outcome.ok.inj h ▸ hactivation⟩, ?_⟩
        rw [hactivation, lift_error, run_bind_error (run_throw ..)] at hrouting
        rw [activateRouting, run_bind_error hrouting]
      | ok activation =>
        refine .inl ⟨response, activation, rfl, hactivation, ?_⟩
        rw [hactivation, lift_ok, Async.pure_bind, run_bind_ok (run_modify ..), run_pure] at hrouting
        rw [activateRouting, run_bind_ok hrouting]
        by_cases hcode : activation.responseCode = doIpRoutingActivationSuccess
        · simp only [if_pos hcode]
          exact ⟨rfl, .timeout, rfl⟩
        · simp only [if_neg hcode]
          exact ⟨rfl, _, rfl⟩

/-- **A failed activation leaves the recorded address as it was exactly unless an entity of another
address refuses it.** -/
theorem activation_keeps_iff (client : DoIpClient T) (activationType : UInt8) :
    (∀ e, ((activateRouting activationType).run client).1 = .error e →
        ((activateRouting activationType).run client).2.entityAddress = client.entityAddress) ↔
      ∀ request response, activationRequest client.testerAddress activationType = .ok request →
        ((exchange request).run client.transport).1 = .ok response → ¬ RefusesElsewhere client response := by
  obtain ⟨request, hrequest⟩ := activationRequest_ok client.testerAddress activationType
  constructor
  · rintro hkeeps request' response hrequest' hexchange ⟨htype, activation, hparse, htester, hcode, haddress⟩
    obtain rfl : request = request' := Except.ok.inj (hrequest.symm.trans hrequest')
    have hactivation := activationOf_eq_ok.mpr ⟨htype, hparse, htester⟩
    rcases activateRouting_cases activationType hrequest with
      ⟨response', activation', hexchange', hactivation', hrecorded, e, houtcome⟩ | ⟨hnone, -⟩
    · obtain rfl : response = response' := Outcome.ok.inj (hexchange.symm.trans hexchange')
      obtain rfl : activation = activation' := Except.ok.inj (hactivation.symm.trans hactivation')
      rw [if_neg hcode] at houtcome
      exact haddress (hrecorded.symm.trans (hkeeps e houtcome))
    · obtain ⟨e, he⟩ := hnone response hexchange
      rw [hactivation] at he
      cases he
  · intro hnever e herror
    rcases activateRouting_cases activationType hrequest with
      ⟨response, activation, hexchange, hactivation, hrecorded, e', houtcome⟩ | ⟨-, hsame⟩
    · obtain ⟨htype, hparse, htester⟩ := activationOf_eq_ok.mp hactivation
      have hcode : activation.responseCode ≠ doIpRoutingActivationSuccess := by
        intro hsuccess
        rw [houtcome, if_pos hsuccess] at herror
        cases herror
      rw [hrecorded]
      exact Decidable.of_not_not fun haddress => hnever request response hrequest hexchange
        ⟨htype, activation, hparse, htester, hcode, haddress⟩
    · exact hsame

end Activation

/-! ### Diagnostics -/

section Diagnostics
variable {T : Type}

/-- The addresses are as they were. -/
structure KeepsAddresses (client client' : DoIpClient T) : Prop where
  testerAddress : client'.testerAddress = client.testerAddress
  entityAddress : client'.entityAddress = client.entityAddress

theorem KeepsAddresses.refl (client : DoIpClient T) : KeepsAddresses client client := ⟨rfl, rfl⟩

theorem KeepsAddresses.trans {a b c : DoIpClient T} (h : KeepsAddresses a b) (h' : KeepsAddresses b c) :
    KeepsAddresses a c :=
  ⟨h'.testerAddress.trans h.testerAddress, h'.entityAddress.trans h.entityAddress⟩

variable [DoIpTransport T]

theorem awaitDiagnostic_keeps (events : Nat) :
    Across KeepsAddresses (awaitDiagnostic events : Async Obd2Error (DoIpClient T) (List UInt8)) := by
  induction events with
  | zero => exact Across.throw .refl _
  | succ events ih =>
    refine Across.bind .trans (fun _ => ⟨rfl, rfl⟩) fun response => ?_
    refine Across.bind .trans (Across.get .refl) fun client => ?_
    refine Across.bind .trans (Across.lift .refl _) fun event => ?_
    cases event with
    | some userData => exact Across.pure .refl userData
    | none => exact ih

/-- **A diagnostic exchange changes no address**, however it ends. -/
theorem sendDiagnostic_keeps (userData : List UInt8) :
    Across KeepsAddresses (sendDiagnostic userData : Async Obd2Error (DoIpClient T) (List UInt8)) := by
  unfold sendDiagnostic
  split
  · exact Across.throw .refl _
  · refine Across.bind .trans (Across.get .refl) fun client => ?_
    refine Across.bind .trans (Across.lift .refl _) fun request => ?_
    exact Across.bind .trans (fun _ => ⟨rfl, rfl⟩) fun _ => awaitDiagnostic_keeps _

end Diagnostics

/-- An entity other than the recorded one refuses the tester, and is recorded. -/
theorem refused_activation_recorded :
    let refusal : DoIpMessage := ⟨⟨0x02, 0xFD, .routingActivationResponse, 9⟩,
      DoIpRoutingActivationResponse.toPayload ⟨0x0E80, 0x2000, 0x00, ⟨0, 0, 0, 0⟩, none⟩⟩
    let client : DoIpClient DoIpStreamTransport := ⟨⟨[refusal.encode], []⟩, 0x0E80, 0x1000⟩
    let after := (activateRouting 0x00).run client
    after.1 = .error (.transport "DoIP routing activation failed with response code 0x00") ∧
      after.2.entityAddress = 0x2000 ∧ after.2.entityAddress ≠ client.entityAddress := by
  refine ⟨?_, ?_, ?_⟩
  · decide +kernel
  · decide +kernel
  · decide +kernel

end DoIpClient

end Obd2
