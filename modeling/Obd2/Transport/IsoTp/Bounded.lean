import Obd2.Process.Rules
import Obd2.Transport.IsoTp

/-! Exchanges end, whatever the peer sends.

Five loops are nested in an exchange, and the peer decides how often each of them goes round.
What it cannot do is start a budget again for nothing: a frame for us uses up the unrelated
frames before it, a wait is for a block that holds a byte of the request at least, a
consecutive frame holds a byte of a message of 4095 at most, and there are nine messages. -/
namespace Obd2.IsoTp
open Process

section Bounds
variable (config : IsoTpConfig)

/-- How often one frame for us is waited for. -/
def frameReads : Nat := config.maxUnrelatedFrames + 1

/-- How often a flow-control frame that lets us go on is waited for. -/
def grantReads : Nat := (config.maxFlowControlWaitFrames + 1) * frameReads config

/-- How often a message is waited for: a first frame, and a byte in each consecutive one. -/
def pduReads : Nat := (maxClassicIsoTpPayload + 1) * frameReads config

theorem readMatchingFrameFrom_atMost (id : UInt32) (allowed : Nat) :
    AtMost (allowed + 1) (readMatchingFrameFrom id allowed) := by
  induction allowed with
  | zero =>
    rw [readMatchingFrameFrom]
    refine .recv fun frame => .lift_bind fun _ => ?_
    split
    · exact .ret _ _
    · exact .fail _ _
  | succ allowed ih =>
    rw [readMatchingFrameFrom]
    refine .recv fun frame => .lift_bind fun _ => ?_
    split
    · exact .ret _ _
    · exact ih

theorem readMatchingFrame_atMost : AtMost (frameReads config) (readMatchingFrame config) :=
  readMatchingFrameFrom_atMost ..

theorem sendFrameData_atMost (n : Nat) (data : List UInt8) : AtMost n (sendFrameData config data) := by
  unfold sendFrameData
  split
  · exact .fail _ _
  · exact .lift_bind fun frame => .send frame (.ret n ())

/-- Sending a frame costs nothing. -/
theorem sendFrameData_bind_atMost {α : Type} {n : Nat} (data : List UInt8) {next : Unit → IsoTp α}
    (h : ∀ u, AtMost n (next u)) : AtMost n (sendFrameData config data >>= next) :=
  ((sendFrameData_atMost config 0 data).bind h).mono (Nat.le_of_eq (Nat.zero_add n))

theorem readFlowControl_atMost : AtMost (frameReads config) (readFlowControl config) :=
  (readMatchingFrame_atMost config).bind fun _ => .lift 0 _

theorem waitForContinueToSendFrom_atMost (allowed : Nat) :
    AtMost ((allowed + 1) * frameReads config) (waitForContinueToSendFrom config allowed) := by
  induction allowed with
  | zero =>
    rw [waitForContinueToSendFrom, Nat.zero_add, Nat.one_mul]
    refine (readFlowControl_atMost config).bind (k := 0) fun fc => ?_
    cases fc.status with
    | continueToSend => exact .ret _ _
    | wait => exact .fail _ _
    | overflow => exact .fail _ _
  | succ allowed ih =>
    rw [waitForContinueToSendFrom, Nat.succ_mul (allowed + 1), Nat.add_comm]
    refine (readFlowControl_atMost config).bind fun fc => ?_
    cases fc.status with
    | continueToSend => exact .ret _ _
    | wait => exact ih
    | overflow => exact .fail _ _

/-- Every block that is waited for has a byte of the request in it. -/
theorem sendConsecutiveFrames_atMost (pdu : List UInt8) (fc : FlowControlFrame) (offset : Nat)
    (sequence sentInBlock : UInt8) :
    AtMost ((pdu.length - offset) * grantReads config)
      (sendConsecutiveFrames config pdu fc offset sequence sentInBlock) := by
  induction hleft : pdu.length - offset using Nat.strongRecOn
    generalizing fc offset sequence sentInBlock with
  | ind left ih =>
    rw [sendConsecutiveFrames]
    split
    · next hmore =>
      refine .lift_bind fun _ => ?_
      have hnext := fun fc sequence sent => ih (pdu.length - (offset + min (pdu.length - offset) 7))
        (by omega) fc (offset + min (pdu.length - offset) 7) sequence sent rfl
      have hround : grantReads config + (pdu.length - (offset + min (pdu.length - offset) 7)) * grantReads config ≤
          left * grantReads config := by
        rw [Nat.add_comm, ← Nat.succ_mul]
        exact Nat.mul_le_mul_right _ (by omega)
      refine sendFrameData_bind_atMost config _ fun _ => AtMost.mono ?_ hround
      dsimp only
      split
      · exact (waitForContinueToSendFrom_atMost config _).bind fun fc => hnext ..
      · exact (hnext ..).mono (Nat.le_add_left ..)
    · exact .ret _ _

theorem sendPdu_atMost (pdu : List UInt8) :
    AtMost (pdu.length * grantReads config) (sendPdu config pdu) := by
  unfold sendPdu sendMultiFramePdu
  split
  · exact sendFrameData_atMost ..
  · split
    · exact .fail _ _
    · next hlong _ =>
      have hall : grantReads config + (pdu.length - 6) * grantReads config ≤ pdu.length * grantReads config := by
        rw [Nat.add_comm, ← Nat.succ_mul]
        exact Nat.mul_le_mul_right _ (by omega)
      refine sendFrameData_bind_atMost config _ fun _ => AtMost.mono ?_ hall
      exact (waitForContinueToSendFrom_atMost config _).bind fun fc => sendConsecutiveFrames_atMost ..

/-- Every consecutive frame has a byte of the message in it. -/
theorem recvConsecutiveFrames_atMost (declaredLen : Nat) (pdu : List UInt8)
    (expectedSequence receivedInBlock : UInt8) :
    AtMost ((declaredLen - pdu.length) * frameReads config)
      (recvConsecutiveFrames config declaredLen pdu expectedSequence receivedInBlock) := by
  induction hleft : declaredLen - pdu.length using Nat.strongRecOn
    generalizing pdu expectedSequence receivedInBlock with
  | ind left ih =>
    rw [recvConsecutiveFrames]
    split
    · next hmore =>
      have hround : frameReads config + (left - 1) * frameReads config = left * frameReads config := by
        rw [Nat.add_comm, ← Nat.succ_mul]
        congr 1
        omega
      rw [← hround]
      refine (readMatchingFrame_atMost config).bind fun frame => .lift_bind fun pci => ?_
      dsimp only
      split
      · exact .fail _ _
      split
      · exact .fail _ _
      split
      · exact .fail _ _
      next hpayload =>
      have hfewer : declaredLen - (pdu ++ (frame.data.drop 1).take
          (min (declaredLen - pdu.length) (frame.data.length - 1))).length ≤ left - 1 := by
        simp only [List.length_append, List.length_take, List.length_drop]
        omega
      have hnext := fun sequence received =>
        (ih _ (by omega) _ sequence received rfl).mono (Nat.mul_le_mul_right (frameReads config) hfewer)
      split
      · exact sendFrameData_bind_atMost config _ fun _ => hnext ..
      · exact hnext ..
    · exact .ret _ _

/-- A first frame has twelve bits for the length. -/
theorem declared_le (pci low : UInt8) :
    ((pci &&& 0x0F).toNat <<< 8) ||| low.toNat ≤ maxClassicIsoTpPayload := by
  have hlow := low.toNat_lt
  have hhigh : (pci &&& 0x0F).toNat < 16 := by
    revert pci
    exact forall_byte (by decide +kernel)
  rw [← Nat.shiftLeft_add_eq_or_of_lt hlow, Nat.shiftLeft_eq]
  show _ ≤ 4095
  omega

theorem recvMultiFramePdu_atMost (frame : CanDataFrame) :
    AtMost (maxClassicIsoTpPayload * frameReads config) (recvMultiFramePdu config frame) := by
  unfold recvMultiFramePdu
  split
  · next pci low payload _ =>
    dsimp only
    split
    · exact .fail _ _
    · refine .lift_bind fun _ => sendFrameData_bind_atMost config _ fun _ => ?_
      refine (recvConsecutiveFrames_atMost ..).mono (Nat.mul_le_mul_right _ ?_)
      exact Nat.le_trans (Nat.sub_le ..) (declared_le pci low)
  · exact .fail _ _

theorem recvPdu_atMost : AtMost (pduReads config) (recvPdu config) := by
  rw [recvPdu, pduReads, Nat.succ_mul, Nat.add_comm]
  refine (readMatchingFrame_atMost config).bind fun frame => .lift_bind fun pci => ?_
  split
  · exact .lift _ _
  split
  · exact recvMultiFramePdu_atMost config frame
  · exact .fail _ _

theorem awaitResponse_atMost (serviceId : UInt8) (allowed : Nat) (responsePdu : List UInt8) :
    AtMost (allowed * pduReads config) (awaitResponse config serviceId allowed responsePdu) := by
  induction allowed generalizing responsePdu with
  | zero =>
    unfold awaitResponse
    split
    · exact .fail _ _
    · exact .lift _ _
  | succ allowed ih =>
    unfold awaitResponse
    split
    · rw [Nat.succ_mul, Nat.add_comm]
      exact (recvPdu_atMost config).bind ih
    · exact .lift _ _

end Bounds

/-- How often an exchange receives at most. -/
def exchangeReads (requestLen maxUnrelatedFrames maxFlowControlWaitFrames : Nat) : Nat :=
  requestLen * ((maxFlowControlWaitFrames + 1) * (maxUnrelatedFrames + 1)) +
    (maxResponsePendingFrames + 1) * ((maxClassicIsoTpPayload + 1) * (maxUnrelatedFrames + 1))

theorem exchange_atMost (config : IsoTpConfig) (pdu : List UInt8) :
    AtMost (exchangeReads pdu.length config.maxUnrelatedFrames config.maxFlowControlWaitFrames)
      (exchange config pdu) := by
  have hsum : pdu.length * grantReads config +
      (pduReads config + maxResponsePendingFrames * pduReads config) =
      exchangeReads pdu.length config.maxUnrelatedFrames config.maxFlowControlWaitFrames := by
    rw [Nat.add_comm (pduReads config), ← Nat.succ_mul]
    rfl
  rw [← hsum]
  unfold exchange
  split
  · exact .fail _ _
  · refine .lift_bind fun _ => (sendPdu_atMost config _).bind fun _ => ?_
    exact (recvPdu_atMost config).bind fun _ => awaitResponse_atMost ..

/-- **An exchange ends on every stream.** However long the peer goes on sending, the exchange is
over after a number of receives that the request's length and the two limits bound, and what
comes after them has no part in it. -/
theorem exchange_ends (config : IsoTpConfig) (pdu : List UInt8) (stream : Nat → CanDataFrame) :
    (exchange config pdu).receives stream ≤
      exchangeReads pdu.length config.maxUnrelatedFrames config.maxFlowControlWaitFrames ∧
    ∃ result sent, ∀ closed rest,
      (exchange config pdu).run closed (firsts stream ((exchange config pdu).receives stream) ++ rest) =
        ⟨result, sent, rest⟩ :=
  ⟨(exchange_atMost config pdu).receives_le stream, run_receives _ stream⟩

end Obd2.IsoTp
