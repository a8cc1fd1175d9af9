import Obd2.Transport.IsoTp

/-! A PDU sent is the PDU received.

The sender of one transport and the receiver of another are put at the two ends of a
pair of FIFO channels. Both count the frames of a block and the bytes of the message
on their own. At the head of the two loops the counters are the same (`lockstep`), and one
round of both keeps them so (`Crossed.round`). One schedule being found, the network decides
all of them (`pdu_delivered`). -/
namespace Obd2.IsoTp
open Network

/-! ### One frame -/

/-- The frame the transport sends `data` in. -/
def frameOf (config : IsoTpConfig) (data : List UInt8) : CanDataFrame :=
  ⟨config.requestId, padded config data, config.requestId > 0x7FF⟩

theorem padded_prefix (config : IsoTpConfig) (data : List UInt8) :
    ∃ pad, padded config data = data ++ pad := by
  unfold padded
  cases config.txPadding with
  | none => exact ⟨[], (List.append_nil _).symm⟩
  | some p => exact ⟨_, rfl⟩

theorem padded_length (config : IsoTpConfig) {data : List UInt8} (h : data.length ≤ 8) :
    data.length ≤ (padded config data).length ∧ (padded config data).length ≤ 8 := by
  unfold padded
  cases config.txPadding with
  | none => exact ⟨Nat.le_refl _, h⟩
  | some p =>
    simp only [List.length_append, List.length_replicate]
    omega

theorem padded_full (config : IsoTpConfig) {data : List UInt8} (h : data.length = 8) :
    padded config data = data := by
  unfold padded
  cases config.txPadding with
  | none => rfl
  | some p => simp only [h, Nat.sub_self, List.replicate_zero, List.append_nil]

theorem sendFrameData_eq {config : IsoTpConfig} (hid : config.requestId ≤ 0x1FFFFFFF)
    {data : List UInt8} (h : data.length ≤ 8) :
    sendFrameData config data = .send (frameOf config data) (.ret ()) := by
  have hdata : ¬ data.length > 8 := by omega
  have hpad : ¬ (padded config data).length > 8 := by
    have := (padded_length config h).2
    omega
  have hid' : ¬ config.requestId > 0x1FFFFFFF := UInt32.not_lt.mpr hid
  simp only [sendFrameData, hdata, if_false, CanDataFrame.new, CanDataFrame.withExtendedId, hid',
    hpad, Process.lift_ok, Process.ret_bind]
  rfl

/-- A frame `read_matching_frame` returns. -/
structure Accepted (config : IsoTpConfig) (frame : CanDataFrame) : Prop where
  id : frame.id = config.responseId
  nonempty : 1 ≤ frame.data.length
  short : frame.data.length ≤ 8

theorem Accepted.validate {config : IsoTpConfig} {frame : CanDataFrame} (h : Accepted config frame) :
    validateCanFrame frame = .ok () := by
  have hshort : ¬ frame.data.length > 8 := by
    have := h.short
    omega
  have hne : frame.data.isEmpty = false := by
    have := h.nonempty
    cases hd : frame.data with
    | nil => simp [hd] at this
    | cons b rest => rfl
  simp [validateCanFrame, hshort, hne]

/-- The reader waits for one frame, and hands an accepted one on. -/
theorem readMatchingFrame_recv {α : Type} (config : IsoTpConfig) (k : CanDataFrame → IsoTp α) :
    ∃ g, (readMatchingFrame config >>= k) = .recv g ∧
      ∀ frame, Accepted config frame → g frame = k frame := by
  unfold readMatchingFrame readMatchingFrameFrom
  refine ⟨_, rfl, fun frame h => ?_⟩
  simp only [h.validate, h.id, if_true, Process.lift_ok, Process.ret_bind]
  rfl

theorem frameOf_accepted {sender receiver : IsoTpConfig} (hid : sender.requestId = receiver.responseId)
    {data : List UInt8} (h1 : 1 ≤ data.length) (h8 : data.length ≤ 8) :
    Accepted receiver (frameOf sender data) := by
  have := padded_length sender h8
  exact ⟨hid, by simp only [frameOf]; omega, by simp only [frameOf]; omega⟩

/-- The PCI byte comes first, padding or not. -/
theorem firstPciByte_frameOf (config : IsoTpConfig) (pci : UInt8) (rest : List UInt8) :
    firstPciByte (frameOf config (pci :: rest)) = .ok pci := by
  obtain ⟨pad, hpad⟩ := padded_prefix config (pci :: rest)
  simp only [firstPciByte, frameOf, hpad]
  rfl

/-! ### The two ends -/

section Ends
variable {sender receiver : IsoTpConfig} {α β : Type}

/-- Identifiers that cross and fit in 29 bits. -/
structure Crossed (sender receiver : IsoTpConfig) : Prop where
  toReceiver : sender.requestId = receiver.responseId
  toSender : receiver.requestId = sender.responseId
  senderValid : sender.requestId ≤ 0x1FFFFFFF
  receiverValid : receiver.requestId ≤ 0x1FFFFFFF

/-- One frame from the sender to the receiver. -/
theorem Crossed.handRight (h : Crossed sender receiver) {data : List UInt8} (h1 : 1 ≤ data.length)
    (h8 : data.length ≤ 8) (p : IsoTp α) (k : CanDataFrame → IsoTp β) :
    Reaches (⟨sendFrameData sender data >>= fun _ => p, readMatchingFrame receiver >>= k, [], []⟩ :
        Network _ _ _ α β)
      ⟨p, k (frameOf sender data), [], []⟩ := by
  obtain ⟨g, hg, haccept⟩ := readMatchingFrame_recv receiver k
  rw [sendFrameData_eq h.senderValid h8, hg, ← haccept _ (frameOf_accepted h.toReceiver h1 h8)]
  exact Reaches.handRight ..

/-- The flow-control frame the receiver sends, as the sender reads it. -/
def granted (receiver : IsoTpConfig) : FlowControlFrame :=
  ⟨.continueToSend, receiver.blockSize, receiver.stMin⟩

theorem decodeFlowControl_granted (receiver : IsoTpConfig) :
    decodeFlowControl (frameOf receiver [0x30 ||| FlowStatus.continueToSend.nibble,
      receiver.blockSize, receiver.stMin]) = .ok (granted receiver) := by
  obtain ⟨pad, hpad⟩ := padded_prefix receiver [0x30 ||| FlowStatus.continueToSend.nibble,
    receiver.blockSize, receiver.stMin]
  simp only [decodeFlowControl, frameOf, hpad]
  rfl

/-- The wait is over with the first frame that grants. -/
theorem waitForContinueToSend_recv (config : IsoTpConfig) (k : FlowControlFrame → IsoTp α) :
    ∃ g, (waitForContinueToSend config >>= k) = .recv g ∧
      ∀ frame fc, Accepted config frame → decodeFlowControl frame = .ok fc →
        fc.status = .continueToSend → g frame = k fc := by
  unfold waitForContinueToSend
  cases config.maxFlowControlWaitFrames with
  | zero =>
    rw [waitForContinueToSendFrom, readFlowControl, Process.bind_assoc, Process.bind_assoc]
    obtain ⟨g, hg, haccept⟩ := readMatchingFrame_recv config _
    refine ⟨g, hg, fun frame fc h hdecode hstatus => ?_⟩
    rw [haccept frame h, hdecode, Process.lift_ok, Process.ret_bind, hstatus]
    rfl
  | succ allowed =>
    rw [waitForContinueToSendFrom, readFlowControl, Process.bind_assoc, Process.bind_assoc]
    obtain ⟨g, hg, haccept⟩ := readMatchingFrame_recv config _
    refine ⟨g, hg, fun frame fc h hdecode hstatus => ?_⟩
    rw [haccept frame h, hdecode, Process.lift_ok, Process.ret_bind, hstatus]
    rfl

/-- One flow-control frame from the receiver to the sender that waits for it. -/
theorem Crossed.grant (h : Crossed sender receiver) (k : FlowControlFrame → IsoTp α) (q : IsoTp β) :
    Reaches (⟨waitForContinueToSend sender >>= k,
        sendFlowControl receiver .continueToSend >>= fun _ => q, [], []⟩ : Network _ _ _ α β)
      ⟨k (granted receiver), q, [], []⟩ := by
  obtain ⟨g, hg, haccept⟩ := waitForContinueToSend_recv sender k
  have hframe : Accepted sender (frameOf receiver [0x30 ||| FlowStatus.continueToSend.nibble,
      receiver.blockSize, receiver.stMin]) := frameOf_accepted h.toSender (by simp) (by simp)
  rw [hg, ← haccept _ _ hframe (decodeFlowControl_granted receiver) rfl, sendFlowControl,
    sendFrameData_eq h.receiverValid (by simp)]
  exact Reaches.handLeft ..

/-! ### The two loops -/

/-- Every STmin byte asks for some delay. -/
theorem stMinDuration_ok (stMin : UInt8) : ∃ delay, stMinDuration stMin = .ok delay := by
  unfold stMinDuration
  split
  · exact ⟨_, rfl⟩
  · split
    · exact ⟨_, rfl⟩
    · exact ⟨_, rfl⟩

/-- Both ends at the head of their loops: `offset` bytes are through, and the counters of
the two are the same. -/
def lockstep (sender receiver : IsoTpConfig) (pdu : List UInt8) (offset : Nat)
    (sequence inBlock : UInt8) : Network Obd2Error CanDataFrame CanDataFrame Unit (List UInt8) :=
  ⟨sendConsecutiveFrames sender pdu (granted receiver) offset sequence inBlock,
    recvConsecutiveFrames receiver pdu.length (pdu.take offset) sequence inBlock, [], []⟩

/-- The receiver takes from a padded consecutive frame exactly the bytes put into it. -/
theorem taken_chunk (config : IsoTpConfig) (pci : UInt8) (pdu : List UInt8) {offset : Nat}
    (h : offset < pdu.length) :
    let chunk := (pdu.drop offset).take (min (pdu.length - offset) 7)
    let data := (frameOf config (pci :: chunk)).data
    (data.drop 1).take (min (pdu.length - offset) (data.length - 1)) = chunk := by
  intro chunk data
  have hlen : chunk.length = min (pdu.length - offset) 7 := by
    simp only [chunk, List.length_take, List.length_drop]
    omega
  have hshort : (pci :: chunk).length ≤ 8 := by
    rw [List.length_cons]
    omega
  have hbound := padded_length config hshort
  obtain ⟨pad, hpad⟩ := padded_prefix config (pci :: chunk)
  have hdata : data = pci :: (chunk ++ pad) := hpad
  have hmin : min (pdu.length - offset) (data.length - 1) = chunk.length := by
    rw [show data = padded config (pci :: chunk) from rfl]
    simp only [List.length_cons] at hbound
    omega
  rw [hmin, hdata, List.drop_one, List.tail_cons, List.take_left']
  rfl

/-- **One round keeps the two in step.** A chunk goes over; at the end of a block that is not
the end of the message a grant comes back. -/
theorem Crossed.round (h : Crossed sender receiver) (pdu : List UInt8) {offset : Nat}
    (ho : offset < pdu.length) {sequence : UInt8} (hseq : sequence &&& 0x0F = sequence)
    (inBlock : UInt8) :
    ∃ inBlock', Reaches (lockstep sender receiver pdu offset sequence inBlock)
      (lockstep sender receiver pdu (offset + min (pdu.length - offset) 7)
        ((sequence + 1) &&& 0x0F) inBlock') := by
  have htaken := taken_chunk sender (0x20 ||| (sequence &&& 0x0F)) pdu ho
  have htake : pdu.take offset ++ (pdu.drop offset).take (min (pdu.length - offset) 7) =
      pdu.take (offset + min (pdu.length - offset) 7) := List.take_add.symm
  generalize hn : min (pdu.length - offset) 7 = n at htaken htake ⊢
  obtain ⟨delay, hdelay⟩ := stMinDuration_ok (granted receiver).stMin
  rw [lockstep, sendConsecutiveFrames, if_pos ho, hdelay, Process.lift_ok, Process.ret_bind, hn,
    recvConsecutiveFrames, if_pos (by rw [List.length_take]; omega)]
  refine Exists.imp (fun _ hb => (h.handRight ?_ ?_ _ _).trans hb) ?_
  · simp
  · simp only [List.length_cons, List.length_take]
    omega
  have hoffset : (pdu.take offset).length = offset := by
    rw [List.length_take]
    omega
  have hnext : (pdu.take (offset + n)).length = offset + n := by
    rw [List.length_take]
    omega
  have havail : (frameOf sender ((0x20 ||| (sequence &&& 0x0F)) :: (pdu.drop offset).take n)).data.length - 1
      ≠ 0 := by
    have hchunk : ((pdu.drop offset).take n).length = n := by
      rw [List.length_take, List.length_drop]
      omega
    have hshort : ((0x20 ||| (sequence &&& 0x0F)) :: (pdu.drop offset).take n).length ≤ 8 := by
      rw [List.length_cons, hchunk]
      omega
    have := padded_length sender hshort
    simp only [frameOf, List.length_cons, hchunk] at this ⊢
    omega
  obtain ⟨-, -, htype, hlow⟩ := tagged_nibble sequence
  have hlow := hlow.trans hseq
  simp only [firstPciByte_frameOf, Process.lift_ok, Process.ret_bind, htype, hlow, hoffset, havail,
    htaken, htake, hnext, ne_eq, not_true_eq_false, if_false]
  by_cases hdue : ¬ receiver.blockSize = 0 ∧ saturatingSucc inBlock ≥ receiver.blockSize ∧
      offset + n < pdu.length
  · -- The sender counts blocks by the granted size, which is the receiver's.
    have hgranted : ¬ (granted receiver).blockSize = 0 ∧
        saturatingSucc inBlock ≥ (granted receiver).blockSize ∧ offset + n < pdu.length := hdue
    refine ⟨0, ?_⟩
    rw [if_pos hgranted, if_pos hdue]
    exact h.grant ..
  · have hgranted : ¬ (¬ (granted receiver).blockSize = 0 ∧
        saturatingSucc inBlock ≥ (granted receiver).blockSize ∧ offset + n < pdu.length) := hdue
    refine ⟨saturatingSucc inBlock, ?_⟩
    rw [if_neg hgranted, if_neg hdue]
    exact Reaches.refl _

/-- The loops run in step to the end of the message. -/
theorem Crossed.consecutive (h : Crossed sender receiver) (pdu : List UInt8) {offset : Nat}
    (ho : offset ≤ pdu.length) {sequence : UInt8} (hseq : sequence &&& 0x0F = sequence)
    (inBlock : UInt8) :
    Reaches (lockstep sender receiver pdu offset sequence inBlock) ⟨.ret (), .ret pdu, [], []⟩ := by
  induction hleft : pdu.length - offset using Nat.strongRecOn generalizing offset sequence inBlock with
  | ind left ih =>
    by_cases hend : offset = pdu.length
    · have hdone : lockstep sender receiver pdu offset sequence inBlock =
          ⟨.ret (), .ret pdu, [], []⟩ := by
        rw [lockstep, sendConsecutiveFrames, recvConsecutiveFrames, hend, List.take_length,
          if_neg (Nat.lt_irrefl _), if_neg (Nat.lt_irrefl _)]
      rw [hdone]
      exact Reaches.refl _
    · obtain ⟨inBlock', hround⟩ := h.round pdu (by omega : offset < pdu.length) hseq inBlock
      refine hround.trans (ih _ ?_ ?_ (nibble_nibble _) inBlock' rfl)
      · omega
      · omega

/-! ### The message -/

theorem Crossed.multi (h : Crossed sender receiver) {pdu : List UInt8} (h8 : 8 ≤ pdu.length)
    (hmax : pdu.length ≤ maxClassicIsoTpPayload) (hfits : pdu.length ≤ receiver.maxPayloadLen) :
    Reaches (⟨sendMultiFramePdu sender pdu, recvPdu receiver, [], []⟩ :
        Network _ _ _ Unit (List UInt8))
      ⟨.ret (), .ret pdu, [], []⟩ := by
  unfold maxClassicIsoTpPayload at hmax
  have htwelve := twelve_bits (show pdu.length < 4096 by omega)
  obtain ⟨htype, hlow, -, -⟩ := tagged_nibble (UInt8.ofNat (pdu.length >>> 8))
  rw [sendMultiFramePdu, if_neg (by unfold maxClassicIsoTpPayload; omega), recvPdu]
  refine (h.handRight ?_ ?_ _ _).trans ?_
  · simp
  · simp only [List.length_cons, List.length_take]
    omega
  have hfull : (((0x10 : UInt8) ||| (UInt8.ofNat (pdu.length >>> 8) &&& 0x0F)) ::
      UInt8.ofNat (pdu.length &&& 0xFF) :: pdu.take 6).length = 8 := by
    simp only [List.length_cons, List.length_take]
    omega
  have hfirst : recvMultiFramePdu receiver (frameOf sender
      (((0x10 : UInt8) ||| (UInt8.ofNat (pdu.length >>> 8) &&& 0x0F)) ::
        UInt8.ofNat (pdu.length &&& 0xFF) :: pdu.take 6)) =
      sendFlowControl receiver .continueToSend >>= fun _ =>
        recvConsecutiveFrames receiver pdu.length (pdu.take 6) 1 0 := by
    have hdeclared : ¬ pdu.length ≤ 7 := by omega
    have htake : (pdu.take 6).take (min pdu.length (pdu.take 6).length) = pdu.take 6 := by
      rw [Nat.min_eq_right (List.length_take_le' ..), List.take_length]
    simp only [recvMultiFramePdu, frameOf, padded_full sender hfull, hlow, htwelve, hdeclared,
      if_false, validatePduLen, Nat.not_lt.mpr hfits, Process.lift_ok, Process.ret_bind, htake]
  simp only [firstPciByte_frameOf, Process.lift_ok, Process.ret_bind, htype, hfirst]
  exact (h.grant ..).trans (h.consecutive pdu (by omega) (by decide) 0)

theorem Crossed.single (h : Crossed sender receiver) {pdu : List UInt8} (h7 : pdu.length ≤ 7)
    (hfits : pdu.length ≤ receiver.maxPayloadLen) :
    Reaches (⟨sendFrameData sender (UInt8.ofNat pdu.length :: pdu), recvPdu receiver, [], []⟩ :
        Network _ _ _ Unit (List UInt8))
      ⟨.ret (), .ret pdu, [], []⟩ := by
  obtain ⟨htype, hlow⟩ := nibble_ofNat (show pdu.length < 16 by omega)
  obtain ⟨pad, hpad⟩ := padded_prefix sender (UInt8.ofNat pdu.length :: pdu)
  have hdecode : decodeSingleFrame receiver (frameOf sender (UInt8.ofNat pdu.length :: pdu)) =
      .ok pdu := by
    have hlen : ¬ (UInt8.ofNat pdu.length :: (pdu ++ pad)).length < pdu.length + 1 := by
      simp only [List.length_cons, List.length_append]
      omega
    have htake : ((UInt8.ofNat pdu.length :: (pdu ++ pad)).drop 1).take pdu.length = pdu := by
      rw [List.drop_one, List.tail_cons, List.take_left]
    simp only [decodeSingleFrame, firstPciByte_frameOf]
    simp only [frameOf, hpad, List.cons_append, hlow, hlen, htake, if_false, validatePduLen,
      Nat.not_lt.mpr hfits, bind, Except.bind]
  have hlast : sendFrameData sender (UInt8.ofNat pdu.length :: pdu) =
      sendFrameData sender (UInt8.ofNat pdu.length :: pdu) >>= fun _ => .ret () :=
    (Process.bind_ret _).symm
  rw [hlast, recvPdu]
  refine (h.handRight ?_ ?_ _ _).trans ?_
  · simp
  · simp only [List.length_cons]
    omega
  simp only [firstPciByte_frameOf, Process.lift_ok, Process.ret_bind, htype, if_true, hdecode]
  exact Reaches.refl _

end Ends

/-- **A PDU sent over crossed channels is the PDU received.** Whatever turns the two ends
take, both finish, and no frame is left over. -/
theorem pdu_delivered {sender receiver : IsoTpConfig} (h : Crossed sender receiver)
    {pdu : List UInt8} (hmax : pdu.length ≤ maxClassicIsoTpPayload)
    (hfits : pdu.length ≤ receiver.maxPayloadLen) :
    Ends ⟨sendPdu sender pdu, recvPdu receiver, [], []⟩ ⟨.ret (), .ret pdu, [], []⟩ := by
  refine Reaches.ends ?_ (done_terminal () pdu)
  by_cases h7 : pdu.length ≤ 7
  · rw [sendPdu, if_pos h7]
    exact h.single h7 hfits
  · rw [sendPdu, if_neg h7]
    exact h.multi (by omega) hmax hfits

/-- A VIN response of twenty bytes between two default connections. -/
theorem pdu_delivered_vin :
    let pdu : List UInt8 := 0x62 :: 0xF1 :: 0x90 :: List.replicate 17 0x41
    Ends ⟨sendPdu (IsoTpConfig.new 0x7E8 0x7E0) pdu, recvPdu (IsoTpConfig.new 0x7E0 0x7E8), [], []⟩
      ⟨.ret (), .ret pdu, [], []⟩ :=
  pdu_delivered ⟨rfl, rfl, by decide, by decide⟩ (by decide) (by decide)

end Obd2.IsoTp
