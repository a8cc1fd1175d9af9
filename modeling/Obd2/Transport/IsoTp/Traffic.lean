import Obd2.Transport.IsoTp.Delivery

/-! Other traffic on the bus, and what an exchange notices of it.

Every receive of an exchange is a `read_matching_frame` (`exchange_readsThrough`). So two
streams that this reader cannot tell apart give the same exchange, and what has to be
shown is about the reader alone: it passes over frames of other identifiers, and no more
of them than it is configured to.

It does not pass over all of them. A frame without data is rejected before its identifier
is looked at, and the identifier is compared without its width. `nonInterference_iff` says
that these two are the only ways in. -/
namespace Obd2.IsoTp

section Traffic
variable (config : IsoTpConfig)

/-- The width `CanDataFrame::new` gives an identifier. -/
def widthOf (id : UInt32) : Bool := id > 0x7FF

/-- The frame carries the response identifier, in value and in width. -/
def Carries (frame : CanDataFrame) : Prop :=
  frame.id = config.responseId ∧ frame.isExtendedId = widthOf config.responseId

/-- A valid classic CAN frame of another identifier. -/
structure Unrelated (frame : CanDataFrame) : Prop where
  accepted : CanDataFrame.withExtendedId frame.id frame.isExtendedId frame.data = .ok frame
  foreign : ¬ Carries config frame

/-- `noisy` is `clean` with unrelated frames out of `traffic` before its frames, no more
before any of them than the connection tolerates. -/
inductive Noisy (traffic : CanDataFrame → Prop) : List CanDataFrame → List CanDataFrame → Prop where
  | nil : Noisy traffic [] []
  | frame {unrelated clean noisy frame} :
      unrelated.length ≤ config.maxUnrelatedFrames →
      (∀ f ∈ unrelated, traffic f ∧ Unrelated config f) →
      Carries config frame → Noisy traffic clean noisy →
      Noisy traffic (frame :: clean) (unrelated ++ frame :: noisy)

theorem Noisy.one {config : IsoTpConfig} {traffic : CanDataFrame → Prop} (frame : CanDataFrame)
    {next : CanDataFrame} (hroom : [frame].length ≤ config.maxUnrelatedFrames)
    (h : traffic frame ∧ Unrelated config frame) (hnext : Carries config next) :
    Noisy config traffic [next] [frame, next] := by
  have hunrelated : ∀ f ∈ [frame], traffic f ∧ Unrelated config f := by
    intro f hf
    rw [List.mem_singleton.mp hf]
    exact h
  exact .frame hroom hunrelated hnext .nil

/-- The traffic changes neither the result of an exchange nor the frames it transmits. -/
def NonInterference (traffic : CanDataFrame → Prop) : Prop :=
  ∀ closed pdu clean noisy, Noisy config traffic clean noisy →
    ((exchange config pdu).run closed noisy).result = ((exchange config pdu).run closed clean).result ∧
      ((exchange config pdu).run closed noisy).sent = ((exchange config pdu).run closed clean).sent

/-- The reader takes the frame for another module's. -/
def Skipped (frame : CanDataFrame) : Prop := frame.data ≠ [] ∧ frame.id ≠ config.responseId

/-- A connection that can send, has room for a response, and tolerates other traffic. -/
structure Usable : Prop where
  sends : config.requestId ≤ 0x1FFFFFFF
  room : 1 ≤ config.maxPayloadLen
  tolerant : 1 ≤ config.maxUnrelatedFrames

end Traffic

/-! ### Everything is read by one reader -/

section Reads
variable (config : IsoTpConfig)
open Process

/-- Every receive of the operation is a `read_matching_frame`. -/
abbrev ReadsFrames {α : Type} (p : IsoTp α) : Prop := ReadsThrough (readMatchingFrame config) p

theorem sendFrameData_readsThrough (data : List UInt8) : ReadsFrames config (sendFrameData config data) := by
  unfold sendFrameData
  split
  · exact .fail _
  · exact (ReadsThrough.lift _).bind fun frame => .send frame (.ret ())

theorem waitForContinueToSendFrom_readsThrough (allowed : Nat) :
    ReadsFrames config (waitForContinueToSendFrom config allowed) := by
  have hread : ReadsFrames config (readFlowControl config) :=
    ReadsThrough.reader_self.bind fun frame => .lift _
  induction allowed with
  | zero =>
    rw [waitForContinueToSendFrom]
    refine hread.bind fun fc => ?_
    cases fc.status with
    | continueToSend => exact .ret _
    | wait => exact .fail _
    | overflow => exact .fail _
  | succ allowed ih =>
    rw [waitForContinueToSendFrom]
    refine hread.bind fun fc => ?_
    cases fc.status with
    | continueToSend => exact .ret _
    | wait => exact ih
    | overflow => exact .fail _

theorem sendConsecutiveFrames_readsThrough (pdu : List UInt8) (fc : FlowControlFrame) (offset : Nat)
    (sequence sentInBlock : UInt8) :
    ReadsFrames config (sendConsecutiveFrames config pdu fc offset sequence sentInBlock) := by
  induction hleft : pdu.length - offset using Nat.strongRecOn
    generalizing fc offset sequence sentInBlock with
  | ind left ih =>
    rw [sendConsecutiveFrames]
    split
    · refine (ReadsThrough.lift _).bind fun _ => (sendFrameData_readsThrough config _).bind fun _ => ?_
      have hnext := fun fc sequence sent => ih (pdu.length - (offset + min (pdu.length - offset) 7))
        (by omega) fc (offset + min (pdu.length - offset) 7) sequence sent rfl
      dsimp only
      split
      · exact (waitForContinueToSendFrom_readsThrough config _).bind fun fc => hnext ..
      · exact hnext ..
    · exact .ret _

theorem sendPdu_readsThrough (pdu : List UInt8) : ReadsFrames config (sendPdu config pdu) := by
  unfold sendPdu sendMultiFramePdu
  split
  · exact sendFrameData_readsThrough ..
  · split
    · exact .fail _
    · exact (sendFrameData_readsThrough ..).bind fun _ =>
        (waitForContinueToSendFrom_readsThrough ..).bind fun _ =>
          sendConsecutiveFrames_readsThrough ..

theorem recvConsecutiveFrames_readsThrough (declaredLen : Nat) (pdu : List UInt8)
    (expectedSequence receivedInBlock : UInt8) :
    ReadsFrames config
      (recvConsecutiveFrames config declaredLen pdu expectedSequence receivedInBlock) := by
  induction hleft : declaredLen - pdu.length using Nat.strongRecOn
    generalizing pdu expectedSequence receivedInBlock with
  | ind left ih =>
    rw [recvConsecutiveFrames]
    split
    · refine .read fun frame => (ReadsThrough.lift _).bind fun pci => ?_
      dsimp only
      split
      · exact .fail _
      · split
        · exact .fail _
        · split
          · exact .fail _
          · have hnext := fun sequence received => ih _ (by
              simp only [List.length_append, List.length_take, List.length_drop]
              omega) (pdu ++ (frame.data.drop 1).take (min (declaredLen - pdu.length) (frame.data.length - 1)))
              sequence received rfl
            split
            · exact (sendFrameData_readsThrough ..).bind fun _ => hnext ..
            · exact hnext ..
    · exact .ret _

theorem recvPdu_readsThrough : ReadsFrames config (recvPdu config) := by
  refine .read fun frame => (ReadsThrough.lift _).bind fun pci => ?_
  split
  · exact .lift _
  · split
    · unfold recvMultiFramePdu
      split
      · dsimp only
        split
        · exact .fail _
        · exact (ReadsThrough.lift _).bind fun _ => (sendFrameData_readsThrough ..).bind fun _ =>
            recvConsecutiveFrames_readsThrough ..
      · exact .fail _
    · exact .fail _

theorem awaitResponse_readsThrough (serviceId : UInt8) (allowed : Nat) (responsePdu : List UInt8) :
    ReadsFrames config (awaitResponse config serviceId allowed responsePdu) := by
  induction allowed generalizing responsePdu with
  | zero =>
    unfold awaitResponse
    split
    · exact .fail _
    · exact .lift _
  | succ allowed ih =>
    unfold awaitResponse
    split
    · exact (recvPdu_readsThrough config).bind ih
    · exact .lift _

/-- **Every receive of an exchange is a `read_matching_frame`.** -/
theorem exchange_readsThrough (pdu : List UInt8) : ReadsFrames config (exchange config pdu) := by
  unfold exchange
  split
  · exact .fail _
  · exact (ReadsThrough.lift _).bind fun _ => (sendPdu_readsThrough ..).bind fun _ =>
      (recvPdu_readsThrough config).bind fun _ => awaitResponse_readsThrough ..

end Reads

/-! ### What the reader passes over -/

section Reader
variable {config : IsoTpConfig} {traffic : CanDataFrame → Prop} {closed : Obd2Error}

theorem Unrelated.short {frame : CanDataFrame} (h : Unrelated config frame) :
    frame.data.length ≤ 8 := by
  have h := h.accepted
  unfold CanDataFrame.withExtendedId at h
  split at h
  · cases h
  · split at h
    · cases h
    · omega

theorem Carries.not_skipped {frame : CanDataFrame} (h : Carries config frame) : ¬ Skipped config frame :=
  fun hs => hs.2 h.1

/-- A frame that is not passed over is the reader's result, if it is a valid frame. -/
theorem read_unskipped {frame : CanDataFrame} (h : ¬ Skipped config frame) (allowed : Nat)
    (stream : List CanDataFrame) :
    (readMatchingFrameFrom config.responseId allowed).run closed (frame :: stream) =
      ⟨(validateCanFrame frame).map fun _ => frame, [], stream⟩ := by
  rw [readMatchingFrameFrom.eq_def, Process.run]
  cases hv : validateCanFrame frame with
  | error e => rfl
  | ok u =>
    have hdata : frame.data ≠ [] := by
      intro hnil
      simp [validateCanFrame, hnil] at hv
    have hid : frame.id = config.responseId := Decidable.byContradiction fun hne => h ⟨hdata, hne⟩
    simp only [Process.lift_ok, Process.ret_bind, hid, if_true]
    rfl

theorem read_skipped {frame : CanDataFrame} (hshort : frame.data.length ≤ 8)
    (h : Skipped config frame) (allowed : Nat) (stream : List CanDataFrame) :
    (readMatchingFrameFrom config.responseId (allowed + 1)).run closed (frame :: stream) =
      (readMatchingFrameFrom config.responseId allowed).run closed stream := by
  have hv : validateCanFrame frame = .ok () := by
    have hempty : frame.data.isEmpty = false := List.isEmpty_eq_false_iff.mpr h.1
    simp [validateCanFrame, hempty, Nat.not_lt.mpr hshort]
  rw [readMatchingFrameFrom, Process.run, hv]
  simp only [Process.lift_ok, Process.ret_bind, h.2, if_false]

theorem read_past (closed : Obd2Error) {unrelated : List CanDataFrame}
    (h : ∀ f ∈ unrelated, f.data.length ≤ 8 ∧ Skipped config f) {allowed : Nat}
    (hallowed : unrelated.length ≤ allowed) {frame : CanDataFrame} (hframe : Carries config frame)
    (stream : List CanDataFrame) :
    (readMatchingFrameFrom config.responseId allowed).run closed (unrelated ++ frame :: stream) =
      ⟨(validateCanFrame frame).map fun _ => frame, [], stream⟩ := by
  induction unrelated generalizing allowed with
  | nil => exact read_unskipped hframe.not_skipped allowed stream
  | cons f rest ih =>
    obtain ⟨allowed, rfl⟩ : ∃ n, allowed = n + 1 := ⟨allowed - 1, by simp at hallowed; omega⟩
    have hf := h f List.mem_cons_self
    rw [List.cons_append, read_skipped hf.1 hf.2]
    exact ih (fun g hg => h g (List.mem_cons_of_mem f hg)) (by simpa using hallowed)

/-- Traffic that is passed over is lost on the reader: it reads the same, and goes on to
streams that again differ by such traffic only. -/
theorem Noisy.read (hskip : ∀ f, traffic f → Unrelated config f → Skipped config f)
    {clean noisy : List CanDataFrame} (h : Noisy config traffic clean noisy) :
    ((readMatchingFrame config).run closed noisy).result =
        ((readMatchingFrame config).run closed clean).result ∧
      ((readMatchingFrame config).run closed noisy).sent =
        ((readMatchingFrame config).run closed clean).sent ∧
      Noisy config traffic ((readMatchingFrame config).run closed clean).rest
        ((readMatchingFrame config).run closed noisy).rest := by
  cases h with
  | nil => exact ⟨rfl, rfl, by rw [readMatchingFrame, readMatchingFrameFrom.eq_def]; exact .nil⟩
  | frame hlen hun hframe hrest =>
    have hpast := read_past closed
      (fun f hf => ⟨(hun f hf).2.short, hskip f (hun f hf).1 (hun f hf).2⟩) hlen hframe
    rw [readMatchingFrame, hpast, read_unskipped hframe.not_skipped]
    exact ⟨rfl, rfl, hrest⟩

theorem nonInterference_of_skipped (hskip : ∀ f, traffic f → Unrelated config f → Skipped config f) :
    NonInterference config traffic := by
  intro closed pdu clean noisy h
  exact (exchange_readsThrough config pdu).run_congr (R := fun noisy clean => Noisy config traffic clean noisy)
    (fun _ _ h => h.read hskip) h

end Reader

/-! ### A connection that never gets to reading -/

section Unusable
variable {config : IsoTpConfig}

theorem sendFrameData_invalid (hid : ¬ config.requestId ≤ 0x1FFFFFFF) (data : List UInt8) :
    ∃ e, sendFrameData config data = .fail e := by
  have hid : config.requestId > 0x1FFFFFFF := UInt32.not_le.mp hid
  unfold sendFrameData CanDataFrame.new CanDataFrame.withExtendedId
  split
  · exact ⟨_, rfl⟩
  · exact ⟨_, rfl⟩

/-- Without a valid request identifier, or with no room for any message, an exchange ends
before it sends. -/
theorem exchange_fails (config : IsoTpConfig) (h : config.requestId ≤ 0x1FFFFFFF → config.maxPayloadLen = 0)
    (pdu : List UInt8) : ∃ e, exchange config pdu = .fail e := by
  cases pdu with
  | nil => exact ⟨_, rfl⟩
  | cons serviceId rest =>
    by_cases hlen : (serviceId :: rest).length > config.maxPayloadLen
    · rw [exchange, validatePduLen, if_pos hlen]
      exact ⟨_, rfl⟩
    · have hid : ¬ config.requestId ≤ 0x1FFFFFFF := by
        intro hid
        rw [h hid, List.length_cons] at hlen
        omega
      have hsend : ∃ e, sendPdu config (serviceId :: rest) = .fail e := by
        unfold sendPdu sendMultiFramePdu
        split
        · exact sendFrameData_invalid hid _
        · split
          · exact ⟨_, rfl⟩
          · obtain ⟨e, he⟩ := sendFrameData_invalid hid
              (((0x10 : UInt8) ||| (UInt8.ofNat ((serviceId :: rest).length >>> 8) &&& 0x0F)) ::
                UInt8.ofNat ((serviceId :: rest).length &&& 0xFF) :: (serviceId :: rest).take 6)
            exact ⟨e, by rw [he]; rfl⟩
      obtain ⟨e, he⟩ := hsend
      refine ⟨e, ?_⟩
      rw [exchange, validatePduLen, if_neg hlen, he]
      rfl

theorem Noisy.eq_of_intolerant {traffic : CanDataFrame → Prop} (h : config.maxUnrelatedFrames = 0)
    {clean noisy : List CanDataFrame} (hn : Noisy config traffic clean noisy) : noisy = clean := by
  induction hn with
  | nil => rfl
  | @frame unrelated _ _ _ hlen _ _ _ ih =>
    have hnone : unrelated = [] := List.eq_nil_of_length_eq_zero (by omega)
    rw [hnone, ih, List.nil_append]

theorem nonInterference_of_unusable (h : ¬ Usable config) (traffic : CanDataFrame → Prop) :
    NonInterference config traffic := by
  intro closed pdu clean noisy hn
  by_cases htolerant : config.maxUnrelatedFrames = 0
  · rw [hn.eq_of_intolerant htolerant]
    exact ⟨rfl, rfl⟩
  · obtain ⟨e, he⟩ := exchange_fails config
      (fun hid => Nat.eq_zero_of_not_pos fun hroom => h ⟨hid, hroom, by omega⟩) pdu
    rw [he]
    exact ⟨rfl, rfl⟩

end Unusable

/-! ### Whatever is not passed over can be noticed -/

section Noticed
variable {config : IsoTpConfig} {closed : Obd2Error}

/-- A single frame of one byte from the module that answers. -/
def answer (config : IsoTpConfig) (b : UInt8) : CanDataFrame :=
  ⟨config.responseId, [1, b], widthOf config.responseId⟩

theorem recvPdu_answer (hroom : 1 ≤ config.maxPayloadLen) (b : UInt8) (stream : List CanDataFrame) :
    (recvPdu config).run closed (answer config b :: stream) = ⟨.ok [b], [], stream⟩ := by
  have hcarries : Carries config (answer config b) := ⟨rfl, rfl⟩
  rw [recvPdu, Process.run_bind, readMatchingFrame, read_unskipped hcarries.not_skipped]
  have hdecode : decodeSingleFrame config (answer config b) = .ok [b] := by
    simp [decodeSingleFrame, firstPciByte, answer, validatePduLen, Nat.not_lt.mpr hroom, bind, Except.bind]
  rw [show validateCanFrame (answer config b) = .ok () from rfl]
  show Process.Run.andThen ⟨.ok (answer config b), [], stream⟩ _ = _
  simp only [Process.Run.andThen, show firstPciByte (answer config b) = .ok 1 from rfl, Process.lift_ok,
    Process.ret_bind, show (1 : UInt8) >>> 4 = 0 from rfl, if_true, hdecode]
  rfl

/-- A request of one byte goes out in one frame. -/
theorem exchange_one (h : Usable config) (serviceId : UInt8) :
    exchange config [serviceId] =
      .send (frameOf config [1, serviceId])
        (recvPdu config >>= awaitResponse config serviceId maxResponsePendingFrames) := by
  have hroom : ¬ [serviceId].length > config.maxPayloadLen := Nat.not_lt.mpr h.room
  rw [exchange, validatePduLen, if_neg hroom, sendPdu, if_pos (by simp)]
  rw [show UInt8.ofNat [serviceId].length = 1 from rfl, sendFrameData_eq h.sends (by simp)]
  rfl

/-- With its first frame in hand, a receiver has something to say before the next. -/
theorem recvPdu_ready (config : IsoTpConfig) :
    ∃ k, recvPdu config = readMatchingFrame config >>= k ∧ ∀ frame, (k frame).Ready := by
  refine ⟨_, rfl, fun frame => .lift_bind _ fun pci => ?_⟩
  split
  · exact .lift _
  · split
    · unfold recvMultiFramePdu
      split
      · dsimp only
        split
        · exact .fail _
        · refine .lift_bind _ fun _ => ?_
          unfold sendFlowControl sendFrameData
          split
          · exact .fail _
          · rw [Process.bind_assoc]
            exact .lift_bind _ fun _ => .send ..
      · exact .fail _
    · exact .fail _

/-- A frame that is not passed over, at the head of a stream: the receiver is done with it, or
it sends something. -/
theorem recvPdu_unskipped (closed : Obd2Error) {frame : CanDataFrame} (h : ¬ Skipped config frame) :
    (∃ result, ∀ stream, (recvPdu config).run closed (frame :: stream) = ⟨result, [], stream⟩) ∨
      ∀ stream, ((recvPdu config).run closed (frame :: stream)).sent ≠ [] := by
  obtain ⟨k, hk, hready⟩ := recvPdu_ready config
  simp only [hk, Process.run_bind, readMatchingFrame, read_unskipped h]
  cases validateCanFrame frame with
  | error e => exact .inl ⟨.error e, fun stream => rfl⟩
  | ok u =>
    rcases (hready frame).run_cases closed with ⟨result, hrun⟩ | hsent
    · exact .inl ⟨result, fun stream => by
        show {(k frame).run closed stream with sent := [] ++ ((k frame).run closed stream).sent} = _
        rw [hrun, List.nil_append]⟩
    · exact .inr fun stream => hsent stream

theorem awaitResponse_not_pending {serviceId : UInt8} {pdu : List UInt8}
    (h : isResponsePendingFor serviceId pdu = false) (allowed : Nat) :
    awaitResponse config serviceId allowed pdu = .lift (stripResponseForRequest serviceId pdu) := by
  cases allowed <;> simp only [awaitResponse, h, Bool.false_eq_true, if_false]

/-- For one of two services a PDU is not a response that is pending. -/
theorem not_pending_of_two (pdu : List UInt8) : ∃ serviceId : UInt8,
    (serviceId = 0x3E ∨ serviceId = 0x22) ∧ isResponsePendingFor serviceId pdu = false := by
  by_cases h : pdu = [0x7F, 0x3E, 0x78]
  · exact ⟨0x22, .inr rfl, by rw [h]; rfl⟩
  · exact ⟨0x3E, .inl rfl, beq_eq_false_iff_ne.mpr h⟩

/-- A frame that is not passed over, at the head of a stream: for some service, the exchange is
done with it or sends a second frame. -/
theorem exchange_unskipped (closed : Obd2Error) (husable : Usable config) {frame : CanDataFrame}
    (h : ¬ Skipped config frame) : ∃ serviceId : UInt8, (serviceId = 0x3E ∨ serviceId = 0x22) ∧
      ((∃ result, ∀ stream, ((exchange config [serviceId]).run closed (frame :: stream)).result = result) ∨
        ∀ stream, 2 ≤ ((exchange config [serviceId]).run closed (frame :: stream)).sent.length) := by
  have hrun : ∀ serviceId stream, (exchange config [serviceId]).run closed (frame :: stream) =
      let r := ((recvPdu config).run closed (frame :: stream)).andThen fun pdu =>
        (awaitResponse config serviceId maxResponsePendingFrames pdu).run closed
      {r with sent := frameOf config [1, serviceId] :: r.sent} := by
    intro serviceId stream
    rw [exchange_one husable, Process.run, Process.run_bind]
  rcases recvPdu_unskipped closed h with ⟨result, hdone⟩ | hsent
  · cases result with
    | error e => exact ⟨0x3E, .inl rfl, .inl ⟨.error e, fun stream => by rw [hrun, hdone]; rfl⟩⟩
    | ok pdu =>
      obtain ⟨serviceId, hservice, hpending⟩ := not_pending_of_two pdu
      refine ⟨serviceId, hservice, .inl ⟨stripResponseForRequest serviceId pdu, fun stream => ?_⟩⟩
      rw [hrun, hdone]
      simp only [Process.Run.andThen, awaitResponse_not_pending hpending]
      cases stripResponseForRequest serviceId pdu <;> rfl
  · refine ⟨0x3E, .inl rfl, .inr fun stream => ?_⟩
    have hpos := List.length_pos_iff.mpr (hsent stream)
    rw [hrun]
    unfold Process.Run.andThen
    split
    · simp only [List.length_cons, List.length_append]
      omega
    · simp only [List.length_cons]
      omega

/-- What a single-byte answer makes of an exchange. -/
theorem exchange_answer (h : Usable config) (serviceId b : UInt8) :
    (exchange config [serviceId]).run closed [answer config b] =
      ⟨stripResponseForRequest serviceId [b], [frameOf config [1, serviceId]], []⟩ := by
  have hpending : isResponsePendingFor serviceId [b] = false := by
    simp [isResponsePendingFor]
  rw [exchange_one h, Process.run, Process.run_bind, recvPdu_answer h.room]
  simp only [Process.Run.andThen, awaitResponse_not_pending hpending]
  cases stripResponseForRequest serviceId [b] <;> rfl

theorem skipped_of_nonInterference (husable : Usable config) {traffic : CanDataFrame → Prop}
    (hquiet : NonInterference config traffic) {frame : CanDataFrame} (htraffic : traffic frame)
    (hunrelated : Unrelated config frame) : Skipped config frame := by
  refine Classical.byContradiction fun hskip => ?_
  have hnoisy : ∀ b, Noisy config traffic [answer config b] [frame, answer config b] := fun b =>
    Noisy.one frame husable.tolerant ⟨htraffic, hunrelated⟩ ⟨rfl, rfl⟩
  obtain ⟨serviceId, hservice, hcase⟩ := exchange_unskipped .timeout husable hskip
  have hpositive := hquiet .timeout [serviceId] _ _ (hnoisy (serviceId + 0x40))
  have hother := hquiet .timeout [serviceId] _ _ (hnoisy 0)
  rw [exchange_answer husable] at hpositive
  rw [exchange_answer husable] at hother
  rcases hcase with ⟨result, hresult⟩ | hsent
  · -- The same result for a stream with a positive response and for one without.
    have hsame : stripResponseForRequest serviceId [serviceId + 0x40] =
        stripResponseForRequest serviceId [0] :=
      (hpositive.1.symm.trans (hresult _)).trans ((hresult _).symm.trans hother.1)
    rcases hservice with rfl | rfl
    · exact absurd hsame (by simp [stripResponseForRequest])
    · exact absurd hsame (by simp [stripResponseForRequest])
  · have := hsent [answer config 0]
    rw [hother.2] at this
    simp at this

end Noticed

/-- **Other traffic is unnoticed exactly if the reader passes over all of it**: every frame has
data, and an identifier that is another number. (Or there is nothing to notice it: the
connection cannot complete an exchange, or tolerates no other frames.) -/
theorem nonInterference_iff (config : IsoTpConfig) (traffic : CanDataFrame → Prop) :
    NonInterference config traffic ↔
      (Usable config → ∀ frame, traffic frame → Unrelated config frame →
        frame.data ≠ [] ∧ frame.id ≠ config.responseId) := by
  constructor
  · intro hquiet husable frame htraffic hunrelated
    exact skipped_of_nonInterference husable hquiet htraffic hunrelated
  · intro hskip
    by_cases husable : Usable config
    · exact nonInterference_of_skipped (hskip husable)
    · exact nonInterference_of_unusable husable traffic

/-- An empty frame of another module ends an exchange that would have succeeded, and a frame of
the same number in the other width is taken for the response. -/
theorem traffic_noticed :
    let config := IsoTpConfig.new 0x7E0 0x7E8
    let response : CanDataFrame := ⟨0x7E8, [0x01, 0x7E], false⟩
    let empty : CanDataFrame := ⟨0x123, [], false⟩
    let wide : CanDataFrame := ⟨0x7E8, [0x03, 0x7F, 0x3E, 0x11], true⟩
    ¬ NonInterference config (Unrelated config) ∧
    Noisy config (Unrelated config) [response] [empty, response] ∧
    Noisy config (Unrelated config) [response] [wide, response] ∧
    ((exchange config [0x3E]).run .timeout [response]).result = .ok [] ∧
    ((exchange config [0x3E]).run .timeout [empty, response]).result =
      .error (.parseError "ISO-TP CAN frame missing PCI byte") ∧
    ((exchange config [0x3E]).run .timeout [wide, response]).result =
      .error (.negativeResponse 0x3E .serviceNotSupported) := by
  intro config response empty wide
  have hnoisy : ∀ f, Unrelated config f → Noisy config (Unrelated config) [response] [f, response] :=
    fun f hf => Noisy.one f (show 1 ≤ 32 by decide) ⟨hf, hf⟩ ⟨rfl, rfl⟩
  have hempty := hnoisy empty ⟨rfl, fun h => absurd h.1 (by decide)⟩
  have hwide := hnoisy wide ⟨rfl, fun h => absurd h.2 (by decide)⟩
  refine ⟨fun hquiet => ?_, hempty, hwide, rfl, rfl, rfl⟩
  have hsame : (.error (.parseError "ISO-TP CAN frame missing PCI byte") : Except Obd2Error (List UInt8)) =
      .ok [] := (hquiet .timeout [0x3E] _ _ hempty).1
  cases hsame

end Obd2.IsoTp
