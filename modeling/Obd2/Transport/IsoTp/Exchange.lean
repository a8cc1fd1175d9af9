import Obd2.Transport.Framed
import Obd2.Transport.IsoTp

/-! An ISO-TP connection as a transport of diagnostic requests.

A peer answers with a PDU, after some that ask for patience. What is returned is that PDU
without its service byte (`exchange_answered`). -/
namespace Obd2.IsoTp

/-- `Transport for IsoTpTransport`. -/
def transport (config : IsoTpConfig) : Transport IsoTp := ⟨fun req => exchange config req.pdu⟩

/-- The PDUs are received from the stream, one after the other. -/
inductive Delivers (config : IsoTpConfig) (closed : Obd2Error) :
    List CanDataFrame → List (List UInt8) → Prop where
  | nil (stream : List CanDataFrame) : Delivers config closed stream []
  | cons {stream : List CanDataFrame} {pdu : List UInt8} {pdus : List (List UInt8)} :
      ((recvPdu config).run closed stream).result = .ok pdu →
      Delivers config closed ((recvPdu config).run closed stream).rest pdus →
      Delivers config closed stream (pdu :: pdus)

/-- "Response pending" for a service. -/
def pendingPdu (serviceId : UInt8) : List UInt8 := [0x7F, serviceId, 0x78]

/-- The request goes out, and the peer answers it with `response`. -/
structure Answered (config : IsoTpConfig) (closed : Obd2Error) (serviceId : UInt8) (data : List UInt8)
    (stream : List CanDataFrame) (response : List UInt8) : Prop where
  fits : (serviceId :: data).length ≤ config.maxPayloadLen
  sent : ((sendPdu config (serviceId :: data)).run closed stream).result = .ok ()
  delivered : ∃ pending, pending ≤ maxResponsePendingFrames ∧
    Delivers config closed ((sendPdu config (serviceId :: data)).run closed stream).rest
      (List.replicate pending (pendingPdu serviceId) ++ [response])

section Answers
variable {config : IsoTpConfig} {closed : Obd2Error} {serviceId : UInt8}

/-- Pending PDUs are waited out. -/
theorem awaitResponse_delivered {response : List UInt8}
    (hresponse : isResponsePendingFor serviceId response = false) {pending allowed : Nat}
    (hallowed : pending ≤ allowed) {first : List UInt8} {rest : List (List UInt8)}
    (hfirst : List.replicate pending (pendingPdu serviceId) ++ [response] = first :: rest)
    {stream : List CanDataFrame} (h : Delivers config closed stream rest) :
    ((awaitResponse config serviceId allowed first).run closed stream).result =
      stripResponseForRequest serviceId response := by
  induction pending generalizing allowed first rest stream with
  | zero =>
    cases hfirst
    cases allowed with
    | zero => rw [awaitResponse, hresponse, if_neg Bool.false_ne_true, Process.run_lift]
    | succ allowed => rw [awaitResponse, hresponse, if_neg Bool.false_ne_true, Process.run_lift]
  | succ pending ih =>
    obtain ⟨allowed, rfl⟩ : ∃ n, allowed = n + 1 := ⟨allowed - 1, by omega⟩
    rw [List.replicate_succ, List.cons_append, List.cons.injEq] at hfirst
    obtain ⟨rfl, rfl⟩ := hfirst
    have hpending : isResponsePendingFor serviceId (pendingPdu serviceId) = true := beq_self_eq_true _
    rw [awaitResponse, if_pos hpending]
    cases hnext : List.replicate pending (pendingPdu serviceId) ++ [response] with
    | nil => exact absurd hnext (List.append_ne_nil_of_right_ne_nil _ (List.cons_ne_nil _ _))
    | cons next others =>
      rw [hnext] at h
      cases h with
      | cons hrecv hothers =>
        rw [Process.run_bind_ok hrecv]
        exact ih (by omega) hnext hothers

/-- **An answered exchange is the answer without its service byte.** -/
theorem exchange_answered {data : List UInt8} {stream : List CanDataFrame} {response : List UInt8}
    (h : Answered config closed serviceId data stream response)
    (hresponse : isResponsePendingFor serviceId response = false) :
    ((exchange config (serviceId :: data)).run closed stream).result =
      stripResponseForRequest serviceId response := by
  obtain ⟨pending, hpending, hdelivered⟩ := h.delivered
  have hvalid : validatePduLen config (serviceId :: data).length = .ok () := by
    rw [validatePduLen, if_neg (Nat.not_lt.mpr h.fits)]
  rw [exchange, hvalid, Process.lift_ok, Process.ret_bind, Process.run_bind_ok h.sent]
  cases hnext : List.replicate pending (pendingPdu serviceId) ++ [response] with
  | nil => exact absurd hnext (List.append_ne_nil_of_right_ne_nil _ (List.cons_ne_nil _ _))
  | cons next others =>
    rw [hnext] at hdelivered
    cases hdelivered with
    | cons hrecv hothers =>
      rw [Process.run_bind_ok hrecv]
      exact awaitResponse_delivered hresponse hpending hnext hothers

/-- A positive response is its data, whatever they are. -/
theorem exchange_positive {data : List UInt8} {stream : List CanDataFrame} {response : List UInt8}
    (hservice : serviceId < 0xC0) (hnegative : serviceId ≠ 0x3F)
    (h : Answered config closed serviceId data stream ((serviceId + 0x40) :: response)) :
    ((exchange config (serviceId :: data)).run closed stream).result = .ok response := by
  have hne : serviceId + 0x40 ≠ 0x7F := by
    intro heq
    apply hnegative
    have hback : serviceId = serviceId + 0x40 - 0x40 := (UInt8.add_sub_cancel ..).symm
    rw [hback, heq]
    rfl
  have hpending : isResponsePendingFor serviceId ((serviceId + 0x40) :: response) = false := by
    refine beq_eq_false_iff_ne.mpr fun heq => hne ?_
    exact (List.cons.inj heq).1
  have hpositive : ¬ serviceId.toNat + 0x40 > 255 := by
    have hlt : serviceId.toNat < 0xC0 := UInt8.lt_iff_toNat_lt.mp hservice
    omega
  rw [exchange_answered h hpending]
  show (if _ then _ else if _ then _ else if _ then _ else Except.ok response) = _
  rw [if_neg hne, if_neg hpositive, if_neg (fun h => h rfl)]

end Answers

end Obd2.IsoTp
