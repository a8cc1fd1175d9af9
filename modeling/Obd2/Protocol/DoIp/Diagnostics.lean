import Obd2.Protocol.DoIp.Client
import Obd2.Protocol.DoIp.Stream

/-! A diagnostic exchange, packet by packet.

What a transport sends and delivers is told by a relation that its two operations keep
(`DoIpChannel`): a queue of packets has it, and so has a byte stream that carries well-formed
packets. Over any such transport one diagnostic message goes out, and what comes back is the data
of the first packet that is not a positive acknowledgement, if it is a response
(`sendDiagnostic_exact`). -/
namespace Obd2
open Async

/-! ### Transports that lose nothing -/

/-- What holds of a transport that has sent `sent` and will deliver `incoming`, and nothing after. -/
structure DoIpChannel {T : Type} [DoIpTransport T] (Holds : T → List DoIpMessage → List DoIpMessage → Prop) :
    Prop where
  send : ∀ {t sent incoming} (message : DoIpMessage), Holds t sent incoming →
    ∃ t', (DoIpTransport.send message).run t = (.ok (), t') ∧ Holds t' (sent ++ [message]) incoming
  recv : ∀ {t sent message incoming}, Holds t sent (message :: incoming) →
    ∃ t', DoIpTransport.recv.run t = (.ok message, t') ∧ Holds t' sent incoming
  closed : ∀ {t sent}, Holds t sent [] →
    ∃ e t', DoIpTransport.recv.run t = (.error e, t') ∧ Holds t' sent []

/-- A queue of packets that are there already. -/
structure MockDoIpTransport where
  sent : List DoIpMessage
  rx : List DoIpMessage

namespace MockDoIpTransport

def send (message : DoIpMessage) : Async Obd2Error MockDoIpTransport Unit :=
  .modify fun transport => {transport with sent := transport.sent ++ [message]}

def recv : Async Obd2Error MockDoIpTransport DoIpMessage := do
  let transport ← .get
  match transport.rx with
  | [] => .throw .timeout
  | message :: rx =>
    .set {transport with rx}
    pure message

instance : DoIpTransport MockDoIpTransport where
  send := send
  recv := recv

def Holds (transport : MockDoIpTransport) (sent incoming : List DoIpMessage) : Prop :=
  transport = ⟨sent, incoming⟩

theorem channel : DoIpChannel Holds where
  send := fun _ h => by
    subst h
    exact ⟨_, rfl, rfl⟩
  recv := fun h => by
    subst h
    exact ⟨_, rfl, rfl⟩
  closed := fun h => by
    subst h
    exact ⟨_, _, rfl, rfl⟩

end MockDoIpTransport

namespace DoIpStreamTransport

/-- The stream has taken the encodings of what was sent, after what was written before, and will
bring those of what comes. -/
structure Holds (before : List UInt8) (stream : DoIpStreamTransport) (sent incoming : List DoIpMessage) :
    Prop where
  written : stream.written = before ++ sent.flatMap DoIpMessage.encode
  arriving : stream.incoming.flatten = incoming.flatMap DoIpMessage.encode
  wellFormed : ∀ message ∈ incoming, message.WellFormed

/-- Receiving writes nothing. -/
def KeepsWritten (stream stream' : DoIpStreamTransport) : Prop := stream'.written = stream.written

theorem KeepsWritten.refl (stream : DoIpStreamTransport) : KeepsWritten stream stream := rfl

theorem KeepsWritten.trans {a b c : DoIpStreamTransport} (h : KeepsWritten a b) (h' : KeepsWritten b c) :
    KeepsWritten a c :=
  Eq.trans h' h

theorem readExact_keeps_written (n : Nat) : Across KeepsWritten (readExact n) := by
  intro stream
  rw [readExact, run_bind_ok (run_get stream)]
  cases takeExact n stream.incoming with
  | none => rfl
  | some taken => rfl

theorem recv_keeps_written : Across KeepsWritten recv := by
  refine Across.bind .trans (readExact_keeps_written _) fun headerBytes => ?_
  refine Across.bind .trans (Across.lift .refl _) fun header => ?_
  exact Across.bind .trans (readExact_keeps_written _) fun payload => Across.pure .refl _

theorem channel (before : List UInt8) : DoIpChannel (Holds before) where
  send := by
    intro stream sent incoming message h
    refine ⟨_, rfl, ?_, h.arriving, h.wellFormed⟩
    show stream.written ++ message.header.encode ++ message.payload = _
    rw [h.written, List.flatMap_append, List.flatMap_singleton, List.append_assoc, List.append_assoc]
    rfl
  recv := by
    intro stream sent message incoming h
    have hrecv := recv_eq stream
    have hbytes : stream.incoming.flatten = message.encode ++ incoming.flatMap DoIpMessage.encode := h.arriving
    rw [hbytes, DoIpMessage.parsePrefix_encode (h.wellFormed _ List.mem_cons_self)] at hrecv
    obtain ⟨stream', hrun, hrest⟩ := hrecv
    have hkept : stream'.written = stream.written := by
      have := recv_keeps_written stream
      rwa [hrun] at this
    exact ⟨stream', hrun, hkept.trans h.written, by rw [hrest, List.drop_left],
      fun m hm => h.wellFormed m (List.mem_cons_of_mem _ hm)⟩
  closed := by
    intro stream sent h
    have hbytes : stream.incoming.flatten = [] := h.arriving
    have hshort : stream.incoming.flatten.length < doIpHeaderLen := by
      rw [hbytes]
      decide
    have hread : (readExact doIpHeaderLen).run stream =
        (.error (.io "early eof"), {stream with incoming := []}) := by
      rw [readExact, run_bind_ok (run_get stream), takeExact_short hshort]
      rfl
    exact ⟨_, _, run_bind_error hread _, h.written, rfl, h.wellFormed⟩

end DoIpStreamTransport

/-! ### The exchange -/

namespace DoIpClient

/-- A positive acknowledgement of the entity to the tester. -/
def IsPositiveAck (entity tester : UInt16) (message : DoIpMessage) : Prop :=
  message.header.payloadType = .diagnosticPositiveAck ∧
    ∃ ack, DoIpDiagnosticAck.parse message.payload = .ok ack ∧
      ack.sourceAddress = entity ∧ ack.targetAddress = tester

/-- A diagnostic message of the entity to the tester, with user data `d`. -/
def IsResponse (entity tester : UInt16) (d : List UInt8) (message : DoIpMessage) : Prop :=
  message.header.payloadType = .diagnosticMessage ∧
    DoIpDiagnosticMessage.parse message.payload = .ok ⟨entity, tester, d⟩

section Events
variable {T : Type} (client : DoIpClient T) (message : DoIpMessage)

theorem validateResponseAddresses_eq_ok (source target : UInt16) (label : String) :
    validateResponseAddresses client source target label = .ok () ↔
      source = client.entityAddress ∧ target = client.testerAddress := by
  unfold validateResponseAddresses
  split
  · next h => exact iff_of_false nofun fun hsame => h.elim (absurd hsame.1) (absurd hsame.2)
  · next h =>
    rw [not_or, Decidable.not_not, Decidable.not_not] at h
    exact iff_of_true rfl h

/-- What is made of a payload with the right addresses in it, and of no other. -/
theorem addressed_eq_ok {α β : Type} {x : Except Obd2Error α} {source target : α → UInt16} {label : String}
    {y : α → Except Obd2Error β} {b : β} :
    (do
      let a ← x
      validateResponseAddresses client (source a) (target a) label
      y a) = .ok b ↔
      ∃ a, x = .ok a ∧ (source a = client.entityAddress ∧ target a = client.testerAddress) ∧ y a = .ok b := by
  cases x with
  | error e => exact iff_of_false nofun fun h => nomatch h.choose_spec.1
  | ok a =>
    have hvalid := validateResponseAddresses_eq_ok client (source a) (target a) label
    have hunique : (∃ a', Except.ok a = (.ok a' : Except Obd2Error α) ∧
        (source a' = client.entityAddress ∧ target a' = client.testerAddress) ∧ y a' = .ok b) ↔
        (source a = client.entityAddress ∧ target a = client.testerAddress) ∧ y a = .ok b := by
      constructor
      · intro h
        obtain ⟨a', ha, h⟩ := h
        cases ha
        exact h
      · exact fun h => ⟨a, rfl, h⟩
    rw [hunique, ← hvalid]
    show (validateResponseAddresses client (source a) (target a) label >>= fun _ => y a) = .ok b ↔ _
    cases validateResponseAddresses client (source a) (target a) label with
    | error e => exact iff_of_false nofun fun h => nomatch h.1
    | ok u => exact (and_iff_right rfl).symm

/-- The data of a packet are those of a response. -/
theorem diagnosticEvent_some (d : List UInt8) : diagnosticEvent client message = .ok (some d) ↔
    IsResponse client.entityAddress client.testerAddress d message := by
  unfold diagnosticEvent IsResponse
  split
  · next htype =>
    rw [addressed_eq_ok, htype, and_iff_right rfl]
    constructor
    · intro h
      obtain ⟨diag, hparse, ⟨hsource, htarget⟩, hdata⟩ := h
      cases hdata
      rw [hparse, ← hsource, ← htarget]
    · exact fun h => ⟨_, h, ⟨rfl, rfl⟩, rfl⟩
  · next htype =>
    rw [addressed_eq_ok, htype]
    exact iff_of_false (fun h => nomatch h.choose_spec.2.2) fun h => nomatch h.1
  · next htype =>
    rw [addressed_eq_ok, htype]
    exact iff_of_false (fun h => nomatch h.choose_spec.2.2) fun h => nomatch h.1
  · next htype =>
    rw [htype]
    exact iff_of_false nofun fun h => nomatch h.1
  · next hother _ _ _ => exact iff_of_false nofun fun h => hother h.1

/-- Nothing but a positive acknowledgement is passed over. -/
theorem diagnosticEvent_none : diagnosticEvent client message = .ok none ↔
    IsPositiveAck client.entityAddress client.testerAddress message := by
  unfold diagnosticEvent IsPositiveAck
  split
  · next htype =>
    rw [addressed_eq_ok, htype]
    exact iff_of_false (fun h => nomatch h.choose_spec.2.2) fun h => nomatch h.1
  · next htype =>
    rw [addressed_eq_ok, htype, and_iff_right rfl]
    simp only [and_true]
  · next htype =>
    rw [addressed_eq_ok, htype]
    exact iff_of_false (fun h => nomatch h.choose_spec.2.2) fun h => nomatch h.1
  · next htype =>
    rw [htype]
    exact iff_of_false nofun fun h => nomatch h.1
  · next _ hother _ _ => exact iff_of_false nofun fun h => hother h.1

end Events

/-- Among the first so many packets is a response with user data `d`, and before it are positive
acknowledgements only. -/
def AnsweredWithin (entity tester : UInt16) (events : Nat) (incoming : List DoIpMessage) (d : List UInt8) :
    Prop :=
  ∃ acks response rest, incoming = acks ++ response :: rest ∧ acks.length < events ∧
    (∀ ack ∈ acks, IsPositiveAck entity tester ack) ∧ IsResponse entity tester d response

section Answers
variable {entity tester : UInt16} {events : Nat} {incoming : List DoIpMessage} {d : List UInt8}

theorem not_answeredWithin_zero : ¬ AnsweredWithin entity tester 0 incoming d := by
  intro h
  obtain ⟨acks, _, _, _, hlt, -⟩ := h
  exact Nat.not_lt_zero _ hlt

theorem not_answeredWithin_nil : ¬ AnsweredWithin entity tester events [] d := by
  intro h
  obtain ⟨acks, _, _, hnil, -⟩ := h
  exact List.append_ne_nil_of_right_ne_nil acks (List.cons_ne_nil _ _) hnil.symm

/-- The first packet is the response, or an acknowledgement to pass over. -/
theorem answeredWithin_cons {message : DoIpMessage} :
    AnsweredWithin entity tester (events + 1) (message :: incoming) d ↔
      IsResponse entity tester d message ∨
        IsPositiveAck entity tester message ∧ AnsweredWithin entity tester events incoming d := by
  constructor
  · intro h
    obtain ⟨acks, response, rest, hsplit, hlt, hacks, hresponse⟩ := h
    cases acks with
    | nil =>
      cases hsplit
      exact .inl hresponse
    | cons ack acks =>
      cases hsplit
      exact .inr ⟨hacks _ List.mem_cons_self, acks, response, rest, rfl, Nat.lt_of_succ_lt_succ hlt,
        fun a ha => hacks a (List.mem_cons_of_mem _ ha), hresponse⟩
  · intro h
    obtain hresponse | ⟨hack, acks, response, rest, rfl, hlt, hacks, hresponse⟩ := h
    · exact ⟨[], message, incoming, rfl, Nat.succ_pos events, fun _ h => absurd h List.not_mem_nil, hresponse⟩
    · exact ⟨message :: acks, response, rest, rfl, Nat.succ_lt_succ hlt,
        List.forall_mem_cons.mpr ⟨hack, hacks⟩, hresponse⟩

end Answers

/-! ### The exchange -/

section Exchange
variable {T : Type} {Holds : T → List DoIpMessage → List DoIpMessage → Prop}

/-- A run that ended with the data that are told by `Answered`, and otherwise with an error, when
`sent` had been sent. -/
structure Ended (Holds : T → List DoIpMessage → List DoIpMessage → Prop) (sent : List DoIpMessage)
    (Answered : List UInt8 → Prop) (after : Outcome Obd2Error (List UInt8) × DoIpClient T) : Prop where
  sends : ∃ incoming, Holds after.2.transport sent incoming
  data : ∀ d, after.1 = .ok d ↔ Answered d
  fails : (∀ d, ¬ Answered d) → ∃ e, after.1 = .error e

theorem Ended.error {sent : List DoIpMessage} {Answered : List UInt8 → Prop} {e : Obd2Error}
    {client : DoIpClient T} (hsent : ∃ incoming, Holds client.transport sent incoming)
    (hnone : ∀ d, ¬ Answered d) : Ended Holds sent Answered (.error e, client) :=
  ⟨hsent, fun d => iff_of_false nofun (hnone d), fun _ => ⟨e, rfl⟩⟩

theorem Ended.congr {sent : List DoIpMessage} {Answered Answered' : List UInt8 → Prop}
    {after : Outcome Obd2Error (List UInt8) × DoIpClient T} (h : Ended Holds sent Answered after)
    (hsame : ∀ d, Answered d ↔ Answered' d) : Ended Holds sent Answered' after :=
  ⟨h.sends, fun d => (h.data d).trans (hsame d), fun hnone => h.fails fun d => mt (hsame d).mp (hnone d)⟩

variable [DoIpTransport T]

/-- The response is awaited behind the acknowledgements. -/
theorem awaitDiagnostic_ended (hchannel : DoIpChannel Holds) (events : Nat) (client : DoIpClient T)
    {sent incoming : List DoIpMessage} (h : Holds client.transport sent incoming) :
    Ended Holds sent (AnsweredWithin client.entityAddress client.testerAddress events incoming)
      ((awaitDiagnostic events).run client) := by
  induction events generalizing client incoming with
  | zero => exact .error ⟨incoming, h⟩ fun d => not_answeredWithin_zero
  | succ events ih =>
    cases incoming with
    | nil =>
      obtain ⟨e, transport, hrecv, hclosed⟩ := hchannel.closed h
      have hreceived : (onTransport DoIpTransport.recv).run client = (.error e, {client with transport}) := by
        rw [onTransport, run_on, hrecv]
      rw [awaitDiagnostic, run_bind_error hreceived]
      exact .error ⟨[], hclosed⟩ fun d => not_answeredWithin_nil
    | cons message incoming =>
      obtain ⟨transport, hrecv, hrest⟩ := hchannel.recv h
      have hreceived : (onTransport DoIpTransport.recv).run client = (.ok message, {client with transport}) := by
        rw [onTransport, run_on, hrecv]
      rw [awaitDiagnostic, run_bind_ok hreceived, run_bind_ok (run_get _)]
      have hsome := diagnosticEvent_some {client with transport} message
      have hnone := diagnosticEvent_none {client with transport} message
      cases hevent : diagnosticEvent {client with transport} message with
      | error e =>
        rw [hevent] at hsome hnone
        refine .error ⟨incoming, hrest⟩ fun d hanswered => ?_
        obtain hresponse | ⟨hack, -⟩ := answeredWithin_cons.mp hanswered
        · cases (hsome d).mpr hresponse
        · cases hnone.mpr hack
      | ok event =>
        rw [hevent] at hsome hnone
        cases event with
        | some data =>
          have hack : ¬ IsPositiveAck client.entityAddress client.testerAddress message := by
            intro hack
            cases hnone.mpr hack
          have hdata : ∀ d, Outcome.ok data = (.ok d : Outcome Obd2Error (List UInt8)) ↔
              AnsweredWithin client.entityAddress client.testerAddress (events + 1) (message :: incoming) d := by
            intro d
            rw [answeredWithin_cons, or_iff_left fun h => hack h.1, ← hsome d]
            simp
          exact ⟨⟨incoming, hrest⟩, hdata, fun h => absurd ((hdata data).mp rfl) (h data)⟩
        | none =>
          have hack : IsPositiveAck client.entityAddress client.testerAddress message := hnone.mp rfl
          refine (ih {client with transport} hrest).congr fun d => ?_
          have hresponse : ¬ IsResponse client.entityAddress client.testerAddress d message := by
            intro h
            cases (hsome d).mpr h
          rw [answeredWithin_cons, or_iff_right hresponse, and_iff_right hack]

/-- The packet a request goes out in. -/
theorem diagnosticRequest_ok (source target : UInt16) {userData : List UInt8}
    (h : 4 + userData.length ≤ doIpMaxPayloadLen.toNat) :
    ∃ request, DoIpMessage.new .diagnosticMessage (DoIpDiagnosticMessage.toPayload ⟨source, target, userData⟩) =
      .ok request := by
  have hlength : (DoIpDiagnosticMessage.toPayload ⟨source, target, userData⟩).length = 4 + userData.length := by
    rw [DoIpDiagnosticMessage.toPayload, List.length_append, List.length_append]
    rfl
  have hmax : doIpMaxPayloadLen.toNat = 16777216 := rfl
  have hsmall : ¬ 4 + userData.length > 4294967295 := by omega
  have hroom : ¬ UInt32.ofNat (4 + userData.length) > doIpMaxPayloadLen := by
    refine UInt32.not_lt.mpr (UInt32.le_iff_toNat_le.mpr ?_)
    rw [UInt32.toNat_ofNat_of_lt' (show 4 + userData.length < 4294967296 by omega)]
    exact h
  rw [DoIpMessage.new, DoIpMessage.withVersion, hlength, if_neg hsmall, DoIpHeader.withVersion, if_neg hroom]
  exact ⟨_, rfl⟩

/-- **A diagnostic exchange is exact.** One diagnostic message goes out. The data of a response come
back if it is among the first sixteen packets and has positive acknowledgements before it only; in
every other case there is an error. -/
theorem sendDiagnostic_exact (hchannel : DoIpChannel Holds) (client : DoIpClient T)
    {sent incoming : List DoIpMessage} (h : Holds client.transport sent incoming) {userData : List UInt8}
    (hne : userData ≠ []) (hfits : 4 + userData.length ≤ doIpMaxPayloadLen.toNat) :
    ∃ request, DoIpMessage.new .diagnosticMessage
        (DoIpDiagnosticMessage.toPayload ⟨client.testerAddress, client.entityAddress, userData⟩) = .ok request ∧
      Ended Holds (sent ++ [request])
        (AnsweredWithin client.entityAddress client.testerAddress doIpMaxDiagnosticEvents incoming)
        ((sendDiagnostic userData).run client) := by
  obtain ⟨request, hrequest⟩ := diagnosticRequest_ok client.testerAddress client.entityAddress hfits
  obtain ⟨transport, hsend, hsent⟩ := hchannel.send request h
  have hwritten : (onTransport (DoIpTransport.send request)).run client = (.ok (), {client with transport}) := by
    rw [onTransport, run_on, hsend]
  have hnonempty : ¬ userData.isEmpty = true := fun hempty => hne (List.isEmpty_iff.mp hempty)
  refine ⟨request, hrequest, ?_⟩
  rw [sendDiagnostic, if_neg hnonempty, run_bind_ok (run_get client), hrequest, lift_ok, Async.pure_bind,
    run_bind_ok hwritten]
  exact awaitDiagnostic_ended hchannel doIpMaxDiagnosticEvents {client with transport} hsent

end Exchange

/-- An acknowledgement, and the response behind it. -/
theorem sendDiagnostic_exact_vin :
    let ack : DoIpMessage := ⟨⟨0x02, 0xFD, .diagnosticPositiveAck, 5⟩, [0x10, 0x01, 0x0E, 0x00, 0x00]⟩
    let response : DoIpMessage :=
      ⟨⟨0x02, 0xFD, .diagnosticMessage, 8⟩, [0x10, 0x01, 0x0E, 0x00, 0x62, 0xF1, 0x90, 0x31]⟩
    let client : DoIpClient MockDoIpTransport := ⟨⟨[], [ack, response]⟩, 0x0E00, 0x1001⟩
    let after := (sendDiagnostic [0x22, 0xF1, 0x90]).run client
    after.1 = .ok [0x62, 0xF1, 0x90, 0x31] ∧ after.2.transport.sent.length = 1 := by
  intro ack response client
  show ((sendDiagnostic [0x22, 0xF1, 0x90]).run client).1 = .ok [0x62, 0xF1, 0x90, 0x31] ∧
    ((sendDiagnostic [0x22, 0xF1, 0x90]).run client).2.transport.sent.length = 1
  have hholds : MockDoIpTransport.Holds client.transport [] [ack, response] := rfl
  obtain ⟨request, -, hended⟩ := sendDiagnostic_exact MockDoIpTransport.channel client hholds
    (List.cons_ne_nil 0x22 [0xF1, 0x90]) (by decide)
  have hack : ∀ message ∈ [ack], IsPositiveAck 0x1001 0x0E00 message :=
    List.forall_mem_singleton.mpr ⟨rfl, ⟨0x1001, 0x0E00, 0x00, []⟩, rfl, rfl, rfl⟩
  refine ⟨(hended.data _).mpr ⟨[ack], response, [], rfl, by decide, hack, rfl, rfl⟩, ?_⟩
  obtain ⟨incoming, hsent⟩ := hended.sends
  exact congrArg (fun transport => transport.sent.length) hsent

end DoIpClient

end Obd2
