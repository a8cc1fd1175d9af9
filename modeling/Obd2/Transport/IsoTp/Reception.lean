import Obd2.Transport.IsoTp

/-! What a received message was made of.

A message on the bus is one single frame, or a first frame and consecutive frames behind it.
`Collected` is the second kind as far as it has come, and it is what the reassembly loop keeps.
So a reception that succeeds has consumed the frames of one message, and nothing else carries
the response identifier among what it consumed (`recvPdu_sound`). -/
namespace Obd2.IsoTp

/-! ### The frames of a message -/

/-- A single frame: its low nibble counts the data bytes that are the message. -/
def SingleFrame (frame : CanDataFrame) (pdu : List UInt8) : Prop :=
  ∃ pci data, frame.data = pci :: data ∧ pci >>> 4 = 0x0 ∧
    (pci &&& 0x0F).toNat ≤ data.length ∧ pdu = data.take (pci &&& 0x0F).toNat

/-- A first frame of a message of `n` bytes, `payload` being the first of them. -/
def FirstFrame (frame : CanDataFrame) (n : Nat) (payload : List UInt8) : Prop :=
  ∃ pci low, frame.data = pci :: low :: payload ∧ pci >>> 4 = 0x1 ∧
    n = (pci &&& 0x0F).toNat * 256 + low.toNat ∧ 8 ≤ n

/-- The consecutive frame number `k`, with something in it. -/
def ConsecutiveFrame (frame : CanDataFrame) (k : Nat) (payload : List UInt8) : Prop :=
  ∃ pci, frame.data = pci :: payload ∧ pci >>> 4 = 0x2 ∧ (pci &&& 0x0F).toNat = k % 16 ∧ payload ≠ []

/-- A first frame of a message of `n` bytes and the consecutive frames 1, 2, … behind it, none
of them after the message was complete. The bytes are all they carry. -/
inductive Collected (n : Nat) : List CanDataFrame → List UInt8 → Prop where
  | first {frame payload} : FirstFrame frame n payload → Collected n [frame] payload
  | next {frames bytes frame payload} : Collected n frames bytes → bytes.length < n →
      ConsecutiveFrame frame frames.length payload → Collected n (frames ++ [frame]) (bytes ++ payload)

/-- The frames of one whole message. -/
inductive Message : List CanDataFrame → List UInt8 → Prop where
  | single {frame pdu} : SingleFrame frame pdu → Message [frame] pdu
  | multi {n frames bytes} : Collected n frames bytes → n ≤ bytes.length → Message frames (bytes.take n)

/-- The frames that carry the response identifier. -/
def matching (config : IsoTpConfig) (frames : List CanDataFrame) : List CanDataFrame :=
  frames.filter fun frame => frame.id = config.responseId

theorem FirstFrame.not_single {frame : CanDataFrame} {n : Nat} {payload pdu : List UInt8}
    (h : FirstFrame frame n payload) : ¬ SingleFrame frame pdu := by
  intro hsingle
  obtain ⟨pci, low, hdata, htype, -⟩ := h
  obtain ⟨pci', data, hdata', htype', -⟩ := hsingle
  rw [hdata, List.cons.injEq] at hdata'
  rw [← hdata'.1, htype] at htype'
  exact absurd htype' (by decide)

theorem FirstFrame.unique {frame : CanDataFrame} {n n' : Nat} {payload payload' : List UInt8}
    (h : FirstFrame frame n payload) (h' : FirstFrame frame n' payload') : n = n' ∧ payload = payload' := by
  obtain ⟨pci, low, hdata, -, hn, -⟩ := h
  obtain ⟨pci', low', hdata', -, hn', -⟩ := h'
  rw [hdata, List.cons.injEq, List.cons.injEq] at hdata'
  obtain ⟨rfl, rfl, rfl⟩ := hdata'
  exact ⟨hn.trans hn'.symm, rfl⟩

theorem ConsecutiveFrame.unique {frame : CanDataFrame} {k : Nat} {payload payload' : List UInt8}
    (h : ConsecutiveFrame frame k payload) (h' : ConsecutiveFrame frame k payload') :
    payload = payload' := by
  obtain ⟨pci, hdata, -⟩ := h
  obtain ⟨pci', hdata', -⟩ := h'
  rw [hdata, List.cons.injEq] at hdata'
  exact hdata'.2

namespace Collected
variable {n : Nat}

theorem ne_nil {frames : List CanDataFrame} {bytes : List UInt8} (h : Collected n frames bytes) :
    frames ≠ [] := by
  cases h with
  | first => exact List.cons_ne_nil _ _
  | next => exact List.append_ne_nil_of_right_ne_nil _ (List.cons_ne_nil _ _)

/-- What was collected began with a first frame. -/
theorem first_frame {frame : CanDataFrame} {frames : List CanDataFrame} {bytes : List UInt8}
    (h : Collected n (frame :: frames) bytes) : ∃ payload, FirstFrame frame n payload := by
  generalize hall : frame :: frames = all at h
  induction h generalizing frames with
  | first hfirst =>
    cases hall
    exact ⟨_, hfirst⟩
  | @next before bytes last payload hbefore _ _ ih =>
    cases before with
    | nil => exact absurd rfl hbefore.ne_nil
    | cons f rest =>
      rw [List.cons_append, List.cons.injEq] at hall
      exact ih (congrArg (· :: rest) hall.1)

/-- The last frame of several was the next consecutive one of an incomplete message. -/
theorem init {frames : List CanDataFrame} {last : CanDataFrame} {bytes : List UInt8}
    (h : Collected n (frames ++ [last]) bytes) (hne : frames ≠ []) :
    ∃ before payload, bytes = before ++ payload ∧ Collected n frames before ∧ before.length < n ∧
      ConsecutiveFrame last frames.length payload := by
  generalize hall : frames ++ [last] = all at h
  cases h with
  | first =>
    cases frames with
    | nil => exact absurd rfl hne
    | cons f rest => simp at hall
  | next hbefore hlt hlast =>
    obtain ⟨rfl, hlast'⟩ := List.append_inj' hall rfl
    cases hlast'
    exact ⟨_, _, rfl, hbefore, hlt, hlast⟩

/-- A frame that does not come first was the next consecutive one of what came before it. -/
theorem split {before after : List CanDataFrame} {frame : CanDataFrame} {bytes : List UInt8}
    (h : Collected n (before ++ frame :: after) bytes) (hne : before ≠ []) :
    ∃ collected payload, Collected n before collected ∧ collected.length < n ∧
      ConsecutiveFrame frame before.length payload := by
  obtain ⟨rest, rfl⟩ : ∃ rest : List CanDataFrame, after = rest.reverse :=
    ⟨after.reverse, after.reverse_reverse.symm⟩
  induction rest generalizing bytes with
  | nil =>
    obtain ⟨collected, payload, -, hbefore, hlt, hframe⟩ := h.init hne
    exact ⟨collected, payload, hbefore, hlt, hframe⟩
  | cons last rest ih =>
    rw [List.reverse_cons, ← List.cons_append, ← List.append_assoc] at h
    obtain ⟨collected, payload, -, hbefore, -, -⟩ := h.init (by simp)
    exact ih hbefore

/-- Frames say how long their message is and what they carry. -/
theorem unique {n' : Nat} {frames : List CanDataFrame} {bytes bytes' : List UInt8}
    (h : Collected n frames bytes) (h' : Collected n' frames bytes') : n = n' ∧ bytes = bytes' := by
  induction h generalizing bytes' with
  | @first frame payload hfirst =>
    generalize hall : [frame] = frames at h'
    cases h' with
    | first hfirst' =>
      cases hall
      exact hfirst.unique hfirst'
    | next hbefore' =>
      have hlength := congrArg List.length hall
      rw [List.length_append, List.length_singleton, List.length_singleton] at hlength
      have hpos := List.length_pos_iff.mpr hbefore'.ne_nil
      omega
  | next hbefore _ hlast ih =>
    obtain ⟨before', payload', rfl, hbefore', -, hlast'⟩ := h'.init hbefore.ne_nil
    obtain ⟨rfl, rfl⟩ := ih hbefore'
    exact ⟨rfl, congrArg (_ ++ ·) (hlast.unique hlast')⟩

end Collected

/-- The first frame of a message is a single or a first frame. -/
theorem Message.head {frame : CanDataFrame} {frames : List CanDataFrame} {pdu : List UInt8}
    (h : Message (frame :: frames) pdu) : SingleFrame frame pdu ∨ ∃ n payload, FirstFrame frame n payload := by
  cases h with
  | single hsingle => exact .inl hsingle
  | multi h => exact .inr ⟨_, h.first_frame⟩

theorem Message.ne_nil {frames : List CanDataFrame} {pdu : List UInt8} (h : Message frames pdu) :
    frames ≠ [] := by
  cases h with
  | single => exact List.cons_ne_nil _ _
  | multi h => exact h.ne_nil

/-- No message goes on with a frame that is out of place. -/
theorem Message.not_beyond {n : Nat} {frames after : List CanDataFrame} {bytes pdu : List UInt8}
    {frame : CanDataFrame} (hcollected : Collected n frames bytes)
    (hframe : ∀ payload, ¬ ConsecutiveFrame frame frames.length payload) :
    ¬ Message (frames ++ frame :: after) pdu := by
  intro h
  generalize hall : frames ++ frame :: after = all at h
  cases h with
  | single hsingle =>
    cases frames with
    | nil => exact hcollected.ne_nil rfl
    | cons f rest => simp at hall
  | multi h =>
    subst hall
    obtain ⟨_, payload, -, -, hnext⟩ := h.split hcollected.ne_nil
    exact hframe payload hnext

/-- No part of an incomplete message is a whole one. -/
theorem Message.not_within {n : Nat} {frames after : List CanDataFrame} {bytes pdu : List UInt8}
    (hcollected : Collected n (frames ++ after) bytes) (hlt : bytes.length < n) :
    ¬ Message frames pdu := by
  intro h
  cases h with
  | single hsingle =>
    obtain ⟨payload, hfirst⟩ := Collected.first_frame hcollected
    exact hfirst.not_single hsingle
  | @multi n' frames bytes' h hcomplete =>
    cases after with
    | nil =>
      rw [List.append_nil] at hcollected
      obtain ⟨rfl, rfl⟩ := h.unique hcollected
      omega
    | cons frame after =>
      obtain ⟨collected, _, hbefore, hlt', -⟩ := hcollected.split h.ne_nil
      obtain ⟨rfl, rfl⟩ := h.unique hbefore
      omega

/-! ### Receiving them -/

section Reception
variable {config : IsoTpConfig} {closed : Obd2Error}

theorem matching_append (frames frames' : List CanDataFrame) :
    matching config (frames ++ frames') = matching config frames ++ matching config frames' :=
  List.filter_append ..

theorem matching_cons_of_id {frame : CanDataFrame} (h : frame.id = config.responseId)
    (frames : List CanDataFrame) : matching config (frame :: frames) = frame :: matching config frames :=
  List.filter_cons_of_pos (decide_eq_true h)

theorem matching_cons_of_ne {frame : CanDataFrame} (h : frame.id ≠ config.responseId)
    (frames : List CanDataFrame) : matching config (frame :: frames) = matching config frames :=
  List.filter_cons_of_neg (by simpa using h)

/-- A frame that is read is the first one with the response identifier. -/
theorem readMatchingFrame_returns {allowed : Nat} {consumed : List CanDataFrame} {frame : CanDataFrame}
    (h : (readMatchingFrameFrom config.responseId allowed).Returns consumed frame) :
    matching config consumed = [frame] := by
  induction allowed generalizing consumed with
  | zero =>
    rw [readMatchingFrameFrom] at h
    cases h with
    | @recv _ f consumed _ h =>
      obtain ⟨_, -, h⟩ := h.of_lift_bind
      split at h
      · next hid =>
        cases h
        exact matching_cons_of_id hid []
      · cases h
  | succ allowed ih =>
    rw [readMatchingFrameFrom] at h
    cases h with
    | @recv _ f consumed _ h =>
      obtain ⟨_, -, h⟩ := h.of_lift_bind
      split at h
      · next hid =>
        cases h
        exact matching_cons_of_id hid []
      · next hid =>
        rw [matching_cons_of_ne hid]
        exact ih h

/-- Sending a frame reads nothing. -/
theorem sendFrameData_returns {data : List UInt8} {consumed : List CanDataFrame} {u : Unit}
    (h : (sendFrameData config data).Returns consumed u) : consumed = [] := by
  unfold sendFrameData at h
  split at h
  · cases h
  · obtain ⟨frame, -, h⟩ := h.of_lift_bind
    cases h with
    | send _ h =>
      cases h
      rfl

theorem firstPciByte_ok {frame : CanDataFrame} {pci : UInt8} (h : firstPciByte frame = .ok pci) :
    ∃ payload, frame.data = pci :: payload := by
  unfold firstPciByte at h
  split at h
  · next payload hdata =>
    cases h
    exact ⟨payload, hdata⟩
  · cases h

theorem next_sequence {b : UInt8} {k : Nat} (h : b.toNat = k % 16) :
    ((b + 1) &&& 0x0F).toNat = (k + 1) % 16 := by
  have hbyte : ∀ b : UInt8, ((b + 1) &&& 0x0F).toNat = (b.toNat + 1) % 16 :=
    forall_byte (by decide +kernel)
  rw [hbyte, h]
  omega

/-- The loop accepts the next consecutive frame only, and goes on with what it carries. -/
theorem recvConsecutiveFrames_step {n k : Nat} {bytes : List UInt8} (hlt : bytes.length < n)
    {expected received : UInt8} (hexpected : expected.toNat = k % 16) {consumed : List CanDataFrame}
    {pdu : List UInt8}
    (h : (recvConsecutiveFrames config n bytes expected received).Returns consumed pdu) :
    ∃ frame payload received' first rest, consumed = first ++ rest ∧ matching config first = [frame] ∧
      ConsecutiveFrame frame k payload ∧
      (recvConsecutiveFrames config n ((bytes ++ payload).take n) ((expected + 1) &&& 0x0F) received').Returns
        rest pdu := by
  rw [recvConsecutiveFrames, if_pos hlt] at h
  obtain ⟨frame, first, rest, rfl, hread, h⟩ := h.of_bind
  obtain ⟨pci, hpci, h⟩ := h.of_lift_bind
  obtain ⟨payload, hdata⟩ := firstPciByte_ok hpci
  have hcut : bytes ++ (frame.data.drop 1).take (min (n - bytes.length) (frame.data.length - 1)) =
      (bytes ++ payload).take n := by
    rw [hdata, List.drop_one, List.tail_cons, List.length_cons, Nat.add_sub_cancel, List.take_append,
      List.take_of_length_le (Nat.le_of_lt hlt), ← List.take_take, List.take_length]
  dsimp only at h
  rw [hcut] at h
  split at h
  · cases h
  next htype =>
  split at h
  · cases h
  next hsequence =>
  split at h
  · cases h
  next havailable =>
  have hnumbered : ConsecutiveFrame frame k payload := by
    refine ⟨pci, hdata, Decidable.of_not_not htype, ?_, ?_⟩
    · rw [Decidable.of_not_not hsequence, hexpected]
    · intro hnil
      rw [hdata, hnil] at havailable
      exact havailable rfl
  split at h
  · obtain ⟨_, sending, rest', rfl, hsend, h⟩ := h.of_bind
    rw [sendFrameData_returns hsend]
    exact ⟨frame, payload, 0, first, rest', rfl, readMatchingFrame_returns hread, hnumbered, h⟩
  · exact ⟨frame, payload, _, first, rest, rfl, readMatchingFrame_returns hread, hnumbered, h⟩

/-- What is collected when the loop ends is a whole message. -/
theorem recvConsecutiveFrames_returns {n : Nat} {frames : List CanDataFrame} {bytes : List UInt8}
    (hcollected : Collected n frames bytes) {expected received : UInt8}
    (hexpected : expected.toNat = frames.length % 16) {consumed : List CanDataFrame} {pdu : List UInt8}
    (h : (recvConsecutiveFrames config n (bytes.take n) expected received).Returns consumed pdu) :
    Message (frames ++ matching config consumed) pdu := by
  induction hleft : n - bytes.length using Nat.strongRecOn
    generalizing frames bytes expected received consumed with
  | ind left ih =>
    by_cases hlt : bytes.length < n
    · rw [List.take_of_length_le (Nat.le_of_lt hlt)] at h
      obtain ⟨frame, payload, received', first, rest, rfl, hfirst, hframe, h⟩ :=
        recvConsecutiveFrames_step hlt hexpected h
      have hnext := hcollected.next hlt hframe
      have hpayload : 0 < payload.length := by
        obtain ⟨_, -, -, -, hne⟩ := hframe
        exact List.length_pos_iff.mpr hne
      have hcount : ((expected + 1) &&& 0x0F).toNat = (frames ++ [frame]).length % 16 := by
        rw [List.length_append, List.length_singleton]
        exact next_sequence hexpected
      have hmessage := ih (n - (bytes ++ payload).length)
        (by rw [List.length_append]; omega) hnext hcount h rfl
      rw [matching_append, hfirst]
      rwa [List.append_assoc] at hmessage
    · rw [recvConsecutiveFrames, if_neg (by rw [List.length_take]; omega)] at h
      cases h
      rw [matching, List.filter_nil, List.append_nil]
      exact .multi hcollected (Nat.not_lt.mp hlt)

theorem decodeSingleFrame_ok {frame : CanDataFrame} {pci : UInt8} (hpci : firstPciByte frame = .ok pci)
    (htype : pci >>> 4 = 0x0) {pdu : List UInt8} (h : decodeSingleFrame config frame = .ok pdu) :
    SingleFrame frame pdu := by
  obtain ⟨data, hdata⟩ := firstPciByte_ok hpci
  rw [decodeSingleFrame, hpci] at h
  change (if frame.data.length < (pci &&& 0x0F).toNat + 1 then _ else _) = _ at h
  split at h
  · cases h
  next hroom =>
  rw [hdata, List.length_cons] at hroom
  cases hvalid : validatePduLen config (pci &&& 0x0F).toNat with
  | error e =>
    rw [hvalid] at h
    cases h
  | ok u =>
    rw [hvalid, hdata] at h
    cases h
    exact ⟨pci, data, hdata, htype, by omega, rfl⟩

theorem recvMultiFramePdu_returns {frame : CanDataFrame} {pci : UInt8}
    (hpci : firstPciByte frame = .ok pci) (htype : pci >>> 4 = 0x1) {consumed : List CanDataFrame}
    {pdu : List UInt8} (h : (recvMultiFramePdu config frame).Returns consumed pdu) :
    Message (frame :: matching config consumed) pdu := by
  obtain ⟨data, hdata⟩ := firstPciByte_ok hpci
  cases data with
  | nil =>
    rw [recvMultiFramePdu, hdata] at h
    cases h
  | cons low payload =>
    have hdeclared : ((pci &&& 0x0F).toNat <<< 8) ||| low.toNat = (pci &&& 0x0F).toNat * 256 + low.toNat := by
      rw [← Nat.shiftLeft_add_eq_or_of_lt low.toNat_lt, Nat.shiftLeft_eq]
    rw [recvMultiFramePdu, hdata] at h
    dsimp only at h
    rw [hdeclared] at h
    split at h
    · cases h
    next hlong =>
    obtain ⟨_, -, h⟩ := h.of_lift_bind
    obtain ⟨_, sending, rest, rfl, hsend, h⟩ := h.of_bind
    rw [sendFrameData_returns hsend, List.nil_append]
    rw [← List.take_take, List.take_length] at h
    exact recvConsecutiveFrames_returns (.first ⟨pci, low, hdata, htype, rfl, by omega⟩) rfl h

/-- What is received is the message of the frames it was received from. -/
theorem recvPdu_returns {consumed : List CanDataFrame} {pdu : List UInt8}
    (h : (recvPdu config).Returns consumed pdu) : Message (matching config consumed) pdu := by
  rw [recvPdu] at h
  obtain ⟨frame, first, rest, rfl, hread, h⟩ := h.of_bind
  obtain ⟨pci, hpci, h⟩ := h.of_lift_bind
  rw [matching_append, readMatchingFrame_returns hread]
  split at h
  · next htype =>
    obtain ⟨hdecode, rfl⟩ := Process.Returns.of_lift h
    exact .single (decodeSingleFrame_ok hpci htype hdecode)
  · split at h
    · next htype => exact recvMultiFramePdu_returns hpci htype h
    · cases h

/-- **Reception is sound.** A message is received from the frames of one message only. Where the
frames on the stream are not those of a message, because the first is neither a single nor a
first frame or because a later one is not the next consecutive frame, there is no message but an
error. -/
theorem recvPdu_sound (config : IsoTpConfig) (closed : Obd2Error) (stream : List CanDataFrame) :
    (∀ pdu, ((recvPdu config).run closed stream).result = .ok pdu →
      ∃ consumed, stream = consumed ++ ((recvPdu config).run closed stream).rest ∧
        Message (matching config consumed) pdu) ∧
    (∀ frame after, matching config stream = frame :: after →
      (∀ pdu, ¬ SingleFrame frame pdu) → (∀ n payload, ¬ FirstFrame frame n payload) →
      ∃ e, ((recvPdu config).run closed stream).result = .error e) ∧
    ∀ n before bytes frame after, matching config stream = before ++ frame :: after →
      Collected n before bytes → bytes.length < n →
      (∀ payload, ¬ ConsecutiveFrame frame before.length payload) →
      ∃ e, ((recvPdu config).run closed stream).result = .error e := by
  have hsound : ∀ pdu, ((recvPdu config).run closed stream).result = .ok pdu →
      ∃ consumed, stream = consumed ++ ((recvPdu config).run closed stream).rest ∧
        Message (matching config consumed) pdu := by
    intro pdu h
    obtain ⟨consumed, hstream, hreturns⟩ := Process.Returns.of_run h
    exact ⟨consumed, hstream, recvPdu_returns hreturns⟩
  have hmessage : ∀ pdu, ((recvPdu config).run closed stream).result = .ok pdu →
      ∃ frames others, matching config stream = frames ++ others ∧ Message frames pdu := by
    intro pdu h
    obtain ⟨consumed, hstream, hfrom⟩ := hsound pdu h
    exact ⟨_, _, (congrArg (matching config) hstream).trans (matching_append ..), hfrom⟩
  refine ⟨hsound, ?_, ?_⟩
  · intro frame after hmatching hsingle hfirst
    cases hresult : ((recvPdu config).run closed stream).result with
    | error e => exact ⟨e, rfl⟩
    | ok pdu =>
      obtain ⟨frames, others, hsplit, hfrom⟩ := hmessage pdu hresult
      cases frames with
      | nil => exact absurd rfl hfrom.ne_nil
      | cons f frames =>
        rw [hmatching, List.cons_append, List.cons.injEq] at hsplit
        obtain ⟨rfl, -⟩ := hsplit
        obtain hhead | ⟨n, payload, hhead⟩ := hfrom.head
        · exact absurd hhead (hsingle pdu)
        · exact absurd hhead (hfirst n payload)
  · intro n before bytes frame after hmatching hcollected hlt hframe
    cases hresult : ((recvPdu config).run closed stream).result with
    | error e => exact ⟨e, rfl⟩
    | ok pdu =>
      obtain ⟨frames, others, hsplit, hfrom⟩ := hmessage pdu hresult
      rw [hmatching, List.append_eq_append_iff] at hsplit
      obtain ⟨beyond, rfl, hbeyond⟩ | ⟨within, rfl, -⟩ := hsplit
      · cases beyond with
        | nil =>
          rw [List.append_nil] at hfrom
          rw [← List.append_nil before] at hcollected
          exact absurd hfrom (Message.not_within hcollected hlt)
        | cons f beyond =>
          cases hbeyond
          exact absurd hfrom (Message.not_beyond hcollected hframe)
      · exact absurd hfrom (Message.not_within hcollected hlt)

end Reception

/-- A message of ten bytes whose first consecutive frame was lost. -/
theorem recvPdu_sound_lost :
    let first : CanDataFrame := ⟨0x7E8, [0x10, 0x0A, 0x62, 0xF1, 0x90, 1, 2, 3], false⟩
    let second : CanDataFrame := ⟨0x7E8, [0x22, 4, 5, 6, 7], false⟩
    ∃ e, ((recvPdu (.new 0x7E0 0x7E8)).run .timeout [first, second]).result = .error e := by
  intro first second
  have hfirst : FirstFrame first 10 [0x62, 0xF1, 0x90, 1, 2, 3] := ⟨0x10, 0x0A, rfl, rfl, rfl, by decide⟩
  refine (recvPdu_sound _ _ _).2.2 10 [first] _ second [] rfl (.first hfirst) (by decide) ?_
  intro payload h
  obtain ⟨pci, hdata, -, hnumber, -⟩ := h
  cases hdata
  exact absurd hnumber (by decide)

end Obd2.IsoTp
