import Obd2.Process.Rules
import Obd2.Transport.IsoTp.Exchange
import Obd2.Transport.IsoTp.Reception
import Obd2.Transport.IsoTp.Traffic

/-! Exchanges with a peer that asks for patience.

The request goes out once, in its frames, and after it nothing but flow control
(`sendPdu_emits`, `recvPdu_sendsOnly`). Then the PDUs the peer sends decide: pending ones are skipped,
eight of them at most, and the first other one is the answer (`exchange_exact`). -/
namespace Obd2.IsoTp
open Process

/-! ### What is sent -/

/-- What is behind the first frame of a message: seven bytes to a frame, numbered from `k`. -/
def consecutiveSegments (k : Nat) (payload : List UInt8) : List (List UInt8) :=
  if payload = [] then []
  else (UInt8.ofNat (0x20 + k % 16) :: payload.take 7) :: consecutiveSegments (k + 1) (payload.drop 7)
termination_by payload.length
decreasing_by
  have := List.length_pos_iff.mpr ‹payload ≠ []›
  rw [List.length_drop]
  omega

/-- The data bytes of the frames a message is sent in. -/
def segments (pdu : List UInt8) : List (List UInt8) :=
  if pdu.length ≤ 7 then [UInt8.ofNat pdu.length :: pdu]
  else
    (UInt8.ofNat (0x10 + pdu.length / 256) :: UInt8.ofNat pdu.length :: pdu.take 6) ::
      consecutiveSegments 1 (pdu.drop 6)

/-- The frames of a message, and the one that lets the peer go on. -/
def pduFrames (config : IsoTpConfig) (pdu : List UInt8) : List CanDataFrame :=
  (segments pdu).map (frameOf config)

def flowControl (config : IsoTpConfig) : CanDataFrame :=
  frameOf config [0x30, config.blockSize, config.stMin]

section Sending
variable {config : IsoTpConfig}

theorem new_ok {data : List UInt8} {frame : CanDataFrame}
    (h : CanDataFrame.new config.requestId (padded config data) = .ok frame) : frame = frameOf config data := by
  unfold CanDataFrame.new CanDataFrame.withExtendedId at h
  split at h
  · cases h
  split at h
  · cases h
  · cases h
    rfl

theorem sendFrameData_emits (data : List UInt8) :
    Emits [frameOf config data] (sendFrameData config data) := by
  unfold sendFrameData
  split
  · exact .fail _ _
  cases hnew : CanDataFrame.new config.requestId (padded config data) with
  | error e => exact .fail _ e
  | ok frame =>
    rw [new_ok hnew]
    exact .send _ (.ret ())

theorem readMatchingFrameFrom_emits (id : UInt32) (allowed : Nat) :
    Emits [] (readMatchingFrameFrom id allowed) := by
  induction allowed with
  | zero =>
    rw [readMatchingFrameFrom]
    refine .recv fun frame => (Emits.lift _).bind fun _ => ?_
    split
    · exact .ret _
    · exact .fail _ _
  | succ allowed ih =>
    rw [readMatchingFrameFrom]
    refine .recv fun frame => (Emits.lift _).bind fun _ => ?_
    split
    · exact .ret _
    · exact ih

theorem waitForContinueToSendFrom_emits (allowed : Nat) :
    Emits [] (waitForContinueToSendFrom config allowed) := by
  have hread : Emits [] (readFlowControl config) :=
    (readMatchingFrameFrom_emits ..).bind fun frame => .lift _
  induction allowed with
  | zero =>
    rw [waitForContinueToSendFrom]
    refine hread.bind fun fc => ?_
    cases fc.status with
    | continueToSend => exact .ret _
    | wait => exact .fail _ _
    | overflow => exact .fail _ _
  | succ allowed ih =>
    rw [waitForContinueToSendFrom]
    refine hread.bind fun fc => ?_
    cases fc.status with
    | continueToSend => exact .ret _
    | wait => exact ih
    | overflow => exact .fail _ _

theorem consecutive_tag {sequence : UInt8} {k : Nat} (h : sequence.toNat = k % 16) :
    (0x20 : UInt8) ||| (sequence &&& 0x0F) = UInt8.ofNat (0x20 + k % 16) := by
  have hsixteen : ∀ n : Fin 16, (0x20 : UInt8) ||| (UInt8.ofNat n &&& 0x0F) = UInt8.ofNat (0x20 + n) := by
    decide
  have hsequence : sequence = UInt8.ofNat (k % 16) := by
    rw [← h, UInt8.ofNat_toNat]
  rw [hsequence]
  exact hsixteen ⟨k % 16, Nat.mod_lt k (by decide)⟩

theorem first_tag {n : Nat} (h : n ≤ maxClassicIsoTpPayload) :
    (0x10 : UInt8) ||| (UInt8.ofNat (n >>> 8) &&& 0x0F) = UInt8.ofNat (0x10 + n / 256) := by
  have hsixteen : ∀ n : Fin 16, (0x10 : UInt8) ||| (UInt8.ofNat n &&& 0x0F) = UInt8.ofNat (0x10 + n) := by
    decide
  have hlt : n / 256 < 16 := Nat.div_lt_of_lt_mul (Nat.lt_succ_of_le h)
  rw [Nat.shiftRight_eq_div_pow]
  exact hsixteen ⟨n / 256, hlt⟩

theorem low_byte (n : Nat) : UInt8.ofNat (n &&& 0xFF) = UInt8.ofNat n := by
  apply UInt8.toNat_inj.mp
  rw [show (0xFF : Nat) = 2 ^ 8 - 1 from rfl, Nat.and_two_pow_sub_one_eq_mod, UInt8.toNat_ofNat',
    UInt8.toNat_ofNat', Nat.mod_mod]

/-- The chunks of the loop are those of the message from `offset` on. -/
theorem sendConsecutiveFrames_emits (pdu : List UInt8) (fc : FlowControlFrame) (offset : Nat) {k : Nat}
    {sequence : UInt8} (hsequence : sequence.toNat = k % 16) (sentInBlock : UInt8) :
    Emits ((consecutiveSegments k (pdu.drop offset)).map (frameOf config))
      (sendConsecutiveFrames config pdu fc offset sequence sentInBlock) := by
  induction hleft : pdu.length - offset using Nat.strongRecOn
    generalizing fc offset k sequence sentInBlock with
  | ind left ih =>
    rw [sendConsecutiveFrames]
    split
    · next hmore =>
      have hne : pdu.drop offset ≠ [] := by
        intro hnil
        have := congrArg List.length hnil
        rw [List.length_drop, List.length_nil] at this
        omega
      have hchunk : (pdu.drop offset).take (min (pdu.length - offset) 7) = (pdu.drop offset).take 7 := by
        rw [Nat.min_comm, ← List.take_take, ← List.length_drop, List.take_length]
      have hrest : (pdu.drop offset).drop 7 = pdu.drop (offset + min (pdu.length - offset) 7) := by
        rw [List.drop_drop]
        by_cases hlast : pdu.length - offset ≤ 7
        · rw [List.drop_eq_nil_of_le (by omega), List.drop_eq_nil_of_le (by omega)]
        · rw [Nat.min_eq_right (by omega)]
      rw [consecutiveSegments, if_neg hne, List.map_cons, hrest, ← consecutive_tag hsequence, ← hchunk]
      have hnext := fun fc sent => ih (pdu.length - (offset + min (pdu.length - offset) 7)) (by omega) fc
        (offset + min (pdu.length - offset) 7) (next_sequence hsequence) sent rfl
      refine (Emits.lift _).bind fun _ => (sendFrameData_emits _).bind fun _ => ?_
      dsimp only
      split
      · exact (waitForContinueToSendFrom_emits _).bind fun fc => hnext ..
      · exact hnext ..
    · next hend =>
      rw [consecutiveSegments, if_pos (List.drop_eq_nil_of_le (Nat.not_lt.mp hend))]
      exact .ret ()

/-- **A message is sent in its frames, each of them once.** -/
theorem sendPdu_emits (config : IsoTpConfig) (pdu : List UInt8) :
    Emits (pduFrames config pdu) (sendPdu config pdu) := by
  unfold sendPdu sendMultiFramePdu pduFrames segments
  split
  · exact sendFrameData_emits _
  split
  · exact .fail _ _
  · next hmax =>
    rw [first_tag (Nat.not_lt.mp hmax), low_byte, List.map_cons]
    refine (sendFrameData_emits _).bind fun _ => (waitForContinueToSendFrom_emits _).bind fun fc => ?_
    exact sendConsecutiveFrames_emits pdu fc 6 rfl 0

/-- A frame that is sent while receiving lets the peer go on. -/
def IsFlowControl (config : IsoTpConfig) (frame : CanDataFrame) : Prop := frame = flowControl config

theorem readMatchingFrame_sendsOnly : SendsOnly (IsFlowControl config) (readMatchingFrame config) :=
  .of_emits (readMatchingFrameFrom_emits ..) fun _ h => absurd h List.not_mem_nil

theorem sendFlowControl_sendsOnly :
    SendsOnly (IsFlowControl config) (sendFlowControl config .continueToSend) :=
  .of_emits (sendFrameData_emits _) fun _ h => List.mem_singleton.mp h

theorem recvConsecutiveFrames_sendsOnly (declaredLen : Nat) (pdu : List UInt8)
    (expectedSequence receivedInBlock : UInt8) :
    SendsOnly (IsFlowControl config)
      (recvConsecutiveFrames config declaredLen pdu expectedSequence receivedInBlock) := by
  induction hleft : declaredLen - pdu.length using Nat.strongRecOn
    generalizing pdu expectedSequence receivedInBlock with
  | ind left ih =>
    rw [recvConsecutiveFrames]
    split
    · refine readMatchingFrame_sendsOnly.bind fun frame => (SendsOnly.lift _).bind fun pci => ?_
      dsimp only
      split
      · exact .fail _
      split
      · exact .fail _
      split
      · exact .fail _
      have hnext := fun sequence received => ih _ (by
        simp only [List.length_append, List.length_take, List.length_drop]
        omega) (pdu ++ (frame.data.drop 1).take (min (declaredLen - pdu.length) (frame.data.length - 1)))
        sequence received rfl
      split
      · exact sendFlowControl_sendsOnly.bind fun _ => hnext ..
      · exact hnext ..
    · exact .ret _

theorem recvPdu_sendsOnly : SendsOnly (IsFlowControl config) (recvPdu config) := by
  refine readMatchingFrame_sendsOnly.bind fun frame => (SendsOnly.lift _).bind fun pci => ?_
  split
  · exact .lift _
  split
  · unfold recvMultiFramePdu
    split
    · dsimp only
      split
      · exact .fail _
      · exact (SendsOnly.lift _).bind fun _ => sendFlowControl_sendsOnly.bind fun _ =>
          recvConsecutiveFrames_sendsOnly ..
    · exact .fail _
  · exact .fail _

theorem awaitResponse_sendsOnly (serviceId : UInt8) (allowed : Nat) (responsePdu : List UInt8) :
    SendsOnly (IsFlowControl config) (awaitResponse config serviceId allowed responsePdu) := by
  induction allowed generalizing responsePdu with
  | zero =>
    unfold awaitResponse
    split
    · exact .fail _
    · exact .lift _
  | succ allowed ih =>
    unfold awaitResponse
    split
    · exact recvPdu_sendsOnly.bind ih
    · exact .lift _

end Sending

/-! ### What is received -/

section Receiving
variable {config : IsoTpConfig} {closed : Obd2Error} {serviceId : UInt8}

theorem isResponsePendingFor_iff {pdu : List UInt8} :
    isResponsePendingFor serviceId pdu = true ↔ pdu = pendingPdu serviceId := beq_iff_eq

/-- Data are what is behind the service byte of a positive response. -/
theorem stripResponse_ok {pdu data : List UInt8} (h : stripResponseForRequest serviceId pdu = .ok data) :
    serviceId.toNat + 0x40 ≤ 255 ∧ pdu = (serviceId + 0x40) :: data := by
  unfold stripResponseForRequest at h
  split at h
  · cases h
  split at h
  · split at h
    · cases h
    · cases h
  split at h
  · cases h
  next hservice =>
  split at h
  · cases h
  next hfirst =>
  cases h
  exact ⟨Nat.not_lt.mp hservice, congrArg (· :: _) (Decidable.of_not_not hfirst)⟩

/-- The stream behind the first PDUs. -/
def restAfter (config : IsoTpConfig) (closed : Obd2Error) : Nat → List CanDataFrame → List CanDataFrame
  | 0, stream => stream
  | n + 1, stream => restAfter config closed n ((recvPdu config).run closed stream).rest

/-- Nothing but pending PDUs, one more than are allowed for. -/
theorem awaitResponse_timeout {allowed : Nat} {stream : List CanDataFrame}
    (h : Delivers config closed stream (List.replicate allowed (pendingPdu serviceId))) :
    ((awaitResponse config serviceId allowed (pendingPdu serviceId)).run closed stream).result =
      .error .timeout := by
  induction allowed generalizing stream with
  | zero =>
    rw [awaitResponse, if_pos (isResponsePendingFor_iff.mpr rfl)]
    rfl
  | succ allowed ih =>
    rw [awaitResponse, if_pos (isResponsePendingFor_iff.mpr rfl)]
    rw [List.replicate_succ] at h
    cases h with
    | cons hrecv hrest =>
      rw [Process.run_bind_ok hrecv]
      exact ih hrest

/-- A receive that fails while the answer is pending is the failure of the exchange. -/
theorem awaitResponse_error {n allowed : Nat} (hn : n < allowed) {stream : List CanDataFrame}
    (h : Delivers config closed stream (List.replicate n (pendingPdu serviceId))) {e : Obd2Error}
    (herror : ((recvPdu config).run closed (restAfter config closed n stream)).result = .error e) :
    ((awaitResponse config serviceId allowed (pendingPdu serviceId)).run closed stream).result =
      .error e := by
  induction n generalizing allowed stream with
  | zero =>
    obtain ⟨allowed, rfl⟩ : ∃ k, allowed = k + 1 := ⟨allowed - 1, by omega⟩
    rw [awaitResponse, if_pos (isResponsePendingFor_iff.mpr rfl)]
    exact Process.run_bind_error herror _
  | succ n ih =>
    obtain ⟨allowed, rfl⟩ : ∃ k, allowed = k + 1 := ⟨allowed - 1, by omega⟩
    rw [awaitResponse, if_pos (isResponsePendingFor_iff.mpr rfl)]
    rw [List.replicate_succ] at h
    cases h with
    | cons hrecv hrest =>
      rw [Process.run_bind_ok hrecv]
      exact ih (by omega) hrest herror

theorem awaitResponse_answer {allowed : Nat} {stream : List CanDataFrame} {pdu data : List UInt8}
    (hpending : isResponsePendingFor serviceId pdu = false)
    (h : ((awaitResponse config serviceId allowed pdu).run closed stream).result = .ok data) :
    stripResponseForRequest serviceId pdu = .ok data := by
  rwa [awaitResponse_not_pending hpending, Process.run_lift] at h

/-- Where there are data, the PDUs before the answer were pending, and no more than allowed. -/
theorem awaitResponse_ok {allowed : Nat} {stream : List CanDataFrame} {first data : List UInt8}
    (h : ((awaitResponse config serviceId allowed first).run closed stream).result = .ok data) :
    ∃ n response rest, n ≤ allowed ∧ stripResponseForRequest serviceId response = .ok data ∧
      List.replicate n (pendingPdu serviceId) ++ [response] = first :: rest ∧
      Delivers config closed stream rest := by
  induction allowed generalizing first stream with
  | zero =>
    cases hpending : isResponsePendingFor serviceId first with
    | false => exact ⟨0, first, [], Nat.le_refl 0, awaitResponse_answer hpending h, rfl, .nil stream⟩
    | true =>
      rw [awaitResponse, if_pos hpending] at h
      cases h
  | succ allowed ih =>
    cases hpending : isResponsePendingFor serviceId first with
    | false => exact ⟨0, first, [], Nat.zero_le _, awaitResponse_answer hpending h, rfl, .nil stream⟩
    | true =>
      rw [awaitResponse, if_pos hpending] at h
      cases hrecv : ((recvPdu config).run closed stream).result with
      | error e =>
        rw [Process.run_bind_error hrecv] at h
        cases h
      | ok next =>
        rw [Process.run_bind_ok hrecv] at h
        obtain ⟨n, response, rest, hn, hstrip, hpdus, hrest⟩ := ih h
        refine ⟨n + 1, response, next :: rest, Nat.succ_le_succ hn, hstrip, ?_, .cons hrecv hrest⟩
        rw [List.replicate_succ, List.cons_append, hpdus, isResponsePendingFor_iff.mp hpending]

/-- What an exchange does once its request is out. -/
def awaitAnswer (config : IsoTpConfig) (serviceId : UInt8) : IsoTp (List UInt8) := do
  let responsePdu ← recvPdu config
  awaitResponse config serviceId maxResponsePendingFrames responsePdu

theorem exchange_fits {data : List UInt8} (h : (serviceId :: data).length ≤ config.maxPayloadLen) :
    exchange config (serviceId :: data) =
      sendPdu config (serviceId :: data) >>= fun _ => awaitAnswer config serviceId := by
  have hvalid : validatePduLen config (serviceId :: data).length = .ok () := by
    rw [validatePduLen, if_neg (Nat.not_lt.mpr h)]
  rw [exchange, hvalid, Process.lift_ok, Process.ret_bind]
  rfl

theorem exchange_too_long {data : List UInt8} (h : config.maxPayloadLen < (serviceId :: data).length) :
    ∃ e, exchange config (serviceId :: data) = .fail e := by
  have hinvalid : ∃ e, validatePduLen config (serviceId :: data).length = .error e := by
    rw [validatePduLen, if_pos h]
    exact ⟨_, rfl⟩
  obtain ⟨e, hinvalid⟩ := hinvalid
  rw [exchange, hinvalid]
  exact ⟨e, rfl⟩

theorem awaitAnswer_delivered {n : Nat} (hn : n ≤ maxResponsePendingFrames) {response : List UInt8}
    (hresponse : response ≠ pendingPdu serviceId) {stream : List CanDataFrame}
    (h : Delivers config closed stream (List.replicate n (pendingPdu serviceId) ++ [response])) :
    ((awaitAnswer config serviceId).run closed stream).result =
      stripResponseForRequest serviceId response := by
  have hanswer : isResponsePendingFor serviceId response = false := beq_eq_false_iff_ne.mpr hresponse
  cases hpdus : List.replicate n (pendingPdu serviceId) ++ [response] with
  | nil => exact absurd hpdus (List.append_ne_nil_of_right_ne_nil _ (List.cons_ne_nil _ _))
  | cons first rest =>
    rw [hpdus] at h
    cases h with
    | cons hrecv hrest =>
      rw [awaitAnswer, Process.run_bind_ok hrecv]
      exact awaitResponse_delivered hanswer hn hpdus hrest

theorem awaitAnswer_timeout {stream : List CanDataFrame}
    (h : Delivers config closed stream
      (List.replicate (maxResponsePendingFrames + 1) (pendingPdu serviceId))) :
    ((awaitAnswer config serviceId).run closed stream).result = .error .timeout := by
  rw [List.replicate_succ] at h
  cases h with
  | cons hrecv hrest =>
    rw [awaitAnswer, Process.run_bind_ok hrecv]
    exact awaitResponse_timeout hrest

theorem awaitAnswer_error {n : Nat} (hn : n ≤ maxResponsePendingFrames) {stream : List CanDataFrame}
    (h : Delivers config closed stream (List.replicate n (pendingPdu serviceId))) {e : Obd2Error}
    (herror : ((recvPdu config).run closed (restAfter config closed n stream)).result = .error e) :
    ((awaitAnswer config serviceId).run closed stream).result = .error e := by
  cases n with
  | zero => exact Process.run_bind_error herror _
  | succ n =>
    rw [List.replicate_succ] at h
    cases h with
    | cons hrecv hrest =>
      rw [awaitAnswer, Process.run_bind_ok hrecv]
      exact awaitResponse_error hn hrest herror

theorem awaitAnswer_ok {stream : List CanDataFrame} {data : List UInt8}
    (h : ((awaitAnswer config serviceId).run closed stream).result = .ok data) :
    serviceId.toNat + 0x40 ≤ 255 ∧ ∃ n ≤ maxResponsePendingFrames,
      Delivers config closed stream
        (List.replicate n (pendingPdu serviceId) ++ [(serviceId + 0x40) :: data]) := by
  rw [awaitAnswer] at h
  cases hrecv : ((recvPdu config).run closed stream).result with
  | error e =>
    rw [Process.run_bind_error hrecv] at h
    cases h
  | ok first =>
    rw [Process.run_bind_ok hrecv] at h
    obtain ⟨n, response, rest, hn, hstrip, hpdus, hrest⟩ := awaitResponse_ok h
    obtain ⟨hservice, rfl⟩ := stripResponse_ok hstrip
    refine ⟨hservice, n, hn, ?_⟩
    rw [hpdus]
    exact .cons hrecv hrest

/-- **Response-pending handling is exact.** A request that does not fit is refused. Any other is
sent in its frames, once and before anything else; then the first PDU that is not pending is the
answer, if it is among the first nine, and nine pending ones are a timeout. Data are what is
behind the service byte of a positive response. -/
theorem exchange_exact (config : IsoTpConfig) (closed : Obd2Error) (serviceId : UInt8) (data : List UInt8)
    (stream : List CanDataFrame) :
    let pdu := serviceId :: data
    let sending := (sendPdu config pdu).run closed stream
    let exchanged := (exchange config pdu).run closed stream
    (config.maxPayloadLen < pdu.length → ∃ e, exchanged = ⟨.error e, [], stream⟩) ∧
    (pdu.length ≤ config.maxPayloadLen →
      sending.sent <+: pduFrames config pdu ∧
      (∃ controls, exchanged.sent = sending.sent ++ controls ∧ ∀ frame ∈ controls, frame = flowControl config) ∧
      (∀ e, sending.result = .error e → exchanged.result = .error e) ∧
      (sending.result = .ok () →
        sending.sent = pduFrames config pdu ∧
        (∀ n response, n ≤ maxResponsePendingFrames → response ≠ pendingPdu serviceId →
          Delivers config closed sending.rest (List.replicate n (pendingPdu serviceId) ++ [response]) →
          exchanged.result = stripResponseForRequest serviceId response) ∧
        (Delivers config closed sending.rest
            (List.replicate (maxResponsePendingFrames + 1) (pendingPdu serviceId)) →
          exchanged.result = .error .timeout) ∧
        (∀ n e, n ≤ maxResponsePendingFrames →
          Delivers config closed sending.rest (List.replicate n (pendingPdu serviceId)) →
          ((recvPdu config).run closed (restAfter config closed n sending.rest)).result = .error e →
          exchanged.result = .error e)) ∧
      (∀ d, exchanged.result = .ok d →
        serviceId.toNat + 0x40 ≤ 255 ∧ ∃ n ≤ maxResponsePendingFrames,
          Delivers config closed sending.rest
            (List.replicate n (pendingPdu serviceId) ++ [(serviceId + 0x40) :: d]))) := by
  intro pdu sending exchanged
  constructor
  · intro hlong
    obtain ⟨e, hfail⟩ := exchange_too_long hlong
    refine ⟨e, ?_⟩
    show (exchange config pdu).run closed stream = _
    rw [hfail]
    rfl
  intro hfits
  have hrun : exchanged = sending.andThen fun _ => (awaitAnswer config serviceId).run closed := by
    show (exchange config pdu).run closed stream = _
    rw [exchange_fits hfits, Process.run_bind]
  obtain ⟨hbegins, hall⟩ := (sendPdu_emits config pdu).run closed stream
  have hcontrols : SendsOnly (IsFlowControl config) (awaitAnswer config serviceId) :=
    recvPdu_sendsOnly.bind (awaitResponse_sendsOnly serviceId _)
  cases hsent : sending.result with
  | error e =>
    have hfailed : exchanged = ⟨.error e, sending.sent, sending.rest⟩ := by
      rw [hrun, Process.Run.andThen, hsent]
    rw [hfailed]
    refine ⟨hbegins, ⟨[], (List.append_nil _).symm, fun _ h => absurd h List.not_mem_nil⟩,
      fun e' h => ?_, fun h => ?_, fun d h => ?_⟩
    · cases h
      rfl
    · cases h
    · cases h
  | ok u =>
    have hanswer : exchanged.result = ((awaitAnswer config serviceId).run closed sending.rest).result := by
      rw [hrun, Process.Run.andThen, hsent]
    have hafter : exchanged.sent =
        sending.sent ++ ((awaitAnswer config serviceId).run closed sending.rest).sent := by
      rw [hrun, Process.Run.andThen, hsent]
    rw [hanswer]
    refine ⟨hbegins, ⟨_, hafter, hcontrols.run closed sending.rest⟩, fun e h => ?_, fun _ =>
      ⟨hall () hsent, fun n response hn hresponse h => awaitAnswer_delivered hn hresponse h,
        awaitAnswer_timeout, fun n e hn h herror => awaitAnswer_error hn h herror⟩,
      fun d h => awaitAnswer_ok h⟩
    cases h

end Receiving

/-- A service that is pending nine times. -/
theorem exchange_exact_timeout :
    let pending : CanDataFrame := ⟨0x7E8, [0x03, 0x7F, 0x22, 0x78], false⟩
    ((exchange (.new 0x7E0 0x7E8) [0x22, 0xF1, 0x90]).run .timeout (List.replicate 9 pending)).result =
      .error .timeout := by
  intro pending
  have hpending : ∀ n, Delivers (.new 0x7E0 0x7E8) .timeout (List.replicate n pending)
      (List.replicate n (pendingPdu 0x22)) := by
    intro n
    induction n with
    | zero => exact .nil []
    | succ n ih => exact .cons rfl ih
  have hexact := (exchange_exact (.new 0x7E0 0x7E8) .timeout 0x22 [0xF1, 0x90]
    (List.replicate 9 pending)).2 (by decide)
  exact (hexact.2.2.2.1 rfl).2.2.1 (hpending 9)

end Obd2.IsoTp
