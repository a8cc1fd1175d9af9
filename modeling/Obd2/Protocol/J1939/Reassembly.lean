import Obd2.Protocol.J1939.Transport

/-! What a reassembler delivers.

`Collecting` and `Closed` are the two phases of a session: before the last packet
the payload grows by seven bytes a packet, after it every packet is rejected. The
second phase is only entered if the sequence counter can step past the announced
packet count, which it cannot at 255. -/
namespace Obd2.J1939

/-- The packets a message of `size` bytes takes, as `validate_tp_size` counts them. -/
def requiredPackets (size : Nat) : Nat := (size + (tpPacketDataLen - 1)) / tpPacketDataLen

theorem validateTpSize_ok (size : Nat) (packets : UInt8) :
    validateTpSize size packets = .ok () ↔
      1 ≤ size ∧ size ≤ tpMaxMessageSize ∧ packets.toNat = requiredPackets size := by
  unfold validateTpSize requiredPackets
  split
  · simp; omega
  · dsimp only
    split <;> simp <;> omega

namespace TpReassembler

/-- `control` announces a message of `size` bytes in `packets` packets. -/
def Announces (control : TpControlMessage) (size : UInt16) (packets : UInt8) (pgn : Pgn) : Prop :=
  control = .broadcastAnnounce size packets pgn ∨
    ∃ maxPacketsPerCts, control = .requestToSend size packets maxPacketsPerCts pgn

theorem start_announced {control : TpControlMessage} {size : UInt16} {packets : UInt8} {pgn : Pgn}
    (h : Announces control size packets pgn) (source : UInt8) (destination : Option UInt8) :
    start source destination control =
      match validateTpSize size.toNat packets with
      | .error e => .error e
      | .ok () => .ok (opened source destination size packets pgn) := by
  rcases h with rfl | ⟨_, rfl⟩ <;> rfl

theorem start_opened {source : UInt8} {destination : Option UInt8} {control : TpControlMessage}
    {size : UInt16} {packets : UInt8} {pgn : Pgn} (ha : Announces control size packets pgn)
    {r : TpReassembler} (h : start source destination control = .ok r) :
    1 ≤ size.toNat ∧ size.toNat ≤ tpMaxMessageSize ∧ packets.toNat = requiredPackets size.toNat ∧
      r = opened source destination size packets pgn := by
  rw [start_announced ha] at h
  cases hv : validateTpSize size.toNat packets with
  | error e => simp [hv] at h
  | ok u =>
    obtain ⟨h1, h2, h3⟩ := (validateTpSize_ok _ _).mp hv
    rw [hv] at h
    exact ⟨h1, h2, h3, (Except.ok.inj h).symm⟩

/-- Only an announcement opens a session, and it opens it as announced. -/
theorem start_ok {source : UInt8} {destination : Option UInt8} {control : TpControlMessage}
    {r : TpReassembler} (h : start source destination control = .ok r) :
    ∃ size packets pgn, Announces control size packets pgn ∧ 1 ≤ size.toNat ∧
      size.toNat ≤ tpMaxMessageSize ∧ packets.toNat = requiredPackets size.toNat ∧
      r = opened source destination size packets pgn := by
  cases control with
  | broadcastAnnounce size packets pgn =>
    have ha : Announces (.broadcastAnnounce size packets pgn) size packets pgn := .inl rfl
    exact ⟨size, packets, pgn, ha, start_opened ha h⟩
  | requestToSend size packets maxPackets pgn =>
    have ha : Announces (.requestToSend size packets maxPackets pgn) size packets pgn :=
      .inr ⟨maxPackets, rfl⟩
    exact ⟨size, packets, pgn, ha, start_opened ha h⟩
  | _ => simp [start] at h

/-! ### One packet -/

theorem acceptDt_stray (r : TpReassembler) (packet : TpDataTransfer)
    (h : packet.sequence ≠ r.nextSequence) : r.acceptDt packet = (.error (r.mismatch packet), r) := by
  simp [acceptDt, h]

theorem acceptDt_excess (r : TpReassembler) (packet : TpDataTransfer)
    (h : packet.sequence = r.nextSequence) (hx : packet.sequence > r.expectedPackets) :
    r.acceptDt packet = (.error (r.excess packet), r) := by
  simp [acceptDt, h, h ▸ hx]

/-- The payload after an accepted packet. -/
def extended (r : TpReassembler) (packet : TpDataTransfer) : List UInt8 :=
  r.payload ++ packet.data.toList.take (min (r.expectedSize - r.payload.length) tpPacketDataLen)

theorem acceptDt_accepted (r : TpReassembler) (packet : TpDataTransfer)
    (h : packet.sequence = r.nextSequence) (hx : r.nextSequence ≤ r.expectedPackets) :
    r.acceptDt packet =
      if (r.extended packet).length = r.expectedSize then
        (.ok (some (r.message (r.extended packet))),
          {r with nextSequence := saturatingSucc r.nextSequence, payload := []})
      else
        (.ok none, {r with nextSequence := saturatingSucc r.nextSequence, payload := r.extended packet}) := by
  have hle : ¬ r.nextSequence > r.expectedPackets := UInt8.not_lt.mpr hx
  simp only [acceptDt, h, ne_eq, not_true_eq_false, if_false, hle, extended]
  rfl

theorem extended_length (r : TpReassembler) (packet : TpDataTransfer) :
    (r.extended packet).length =
      r.payload.length + min (r.expectedSize - r.payload.length) tpPacketDataLen := by
  simp [extended, tpPacketDataLen]

@[simp] theorem acceptDt_expectedPackets (r : TpReassembler) (packet : TpDataTransfer) :
    (r.acceptDt packet).2.expectedPackets = r.expectedPackets := by
  unfold acceptDt
  split
  · rfl
  · split
    · rfl
    · dsimp only
      split <;> rfl

/-! ### Runs -/

theorem after_append (r : TpReassembler) (a b : List TpDataTransfer) :
    r.after (a ++ b) = (r.after a).after b := by
  induction a generalizing r with
  | nil => rfl
  | cons packet rest ih => exact ih _

theorem calls_append (r : TpReassembler) (a b : List TpDataTransfer) :
    r.calls (a ++ b) = r.calls a ++ (r.after a).calls b := by
  induction a generalizing r with
  | nil => rfl
  | cons packet rest ih => simp only [List.cons_append, calls, after, ih]

/-- Packets out of sequence are rejected one by one and leave the session alone. -/
theorem calls_strays (r : TpReassembler) (strays : List TpDataTransfer)
    (h : ∀ q ∈ strays, q.sequence ≠ r.nextSequence) :
    r.calls strays = strays.map (fun q => (.error (r.mismatch q), r)) ∧ r.after strays = r := by
  induction strays with
  | nil => exact ⟨rfl, rfl⟩
  | cons q rest ih =>
    have hq := acceptDt_stray r q (h q (List.mem_cons_self ..))
    obtain ⟨hc, ha⟩ := ih fun q hq => h q (List.mem_cons_of_mem _ hq)
    simp only [calls, after, hq, List.map_cons]
    exact ⟨by rw [hc], ha⟩

/-! ### The two phases -/

/-- `nextSequence - 1` packets in, the last one still to come. -/
structure Collecting (r : TpReassembler) : Prop where
  packets : r.expectedPackets.toNat = requiredPackets r.expectedSize
  started : 1 ≤ r.nextSequence.toNat
  pending : r.nextSequence.toNat ≤ r.expectedPackets.toNat
  payload : r.payload.length = tpPacketDataLen * (r.nextSequence.toNat - 1)

/-- The counter has passed the announced packet count. -/
def Closed (r : TpReassembler) : Prop := r.nextSequence > r.expectedPackets

theorem Collecting.short {r : TpReassembler} (h : Collecting r) :
    r.payload.length < r.expectedSize := by
  have := h.packets
  have := h.started
  have := h.pending
  have := h.payload
  simp only [requiredPackets, tpPacketDataLen] at *
  omega

theorem opened_collecting {source : UInt8} {destination : Option UInt8} {size : UInt16}
    {packets : UInt8} {pgn : Pgn} (hs : 1 ≤ size.toNat)
    (hp : packets.toNat = requiredPackets size.toNat) :
    Collecting (opened source destination size packets pgn) := by
  refine ⟨hp, Nat.le_refl 1, ?_, rfl⟩
  show 1 ≤ packets.toNat
  simp only [requiredPackets, tpPacketDataLen] at hp
  omega

/-- The last packet completes the payload and no earlier one does. -/
theorem Collecting.completes_iff {r : TpReassembler} (h : Collecting r) (packet : TpDataTransfer) :
    (r.extended packet).length = r.expectedSize ↔
      r.nextSequence.toNat = r.expectedPackets.toNat := by
  have := h.packets
  have := h.started
  have := h.pending
  have := h.payload
  have := h.short
  rw [extended_length]
  simp only [requiredPackets, tpPacketDataLen] at *
  omega

/-- A packet in sequence, short of the last, is stored. -/
theorem Collecting.stores {r : TpReassembler} (h : Collecting r) (packet : TpDataTransfer)
    (hs : packet.sequence = r.nextSequence)
    (hlt : r.nextSequence.toNat < r.expectedPackets.toNat) :
    r.acceptDt packet =
        (.ok none, {r with nextSequence := saturatingSucc r.nextSequence, payload := r.extended packet}) ∧
      Collecting {r with nextSequence := saturatingSucc r.nextSequence, payload := r.extended packet} := by
  have hne : ¬ (r.extended packet).length = r.expectedSize := by
    rw [h.completes_iff]
    omega
  have hsucc := saturatingSucc_toNat r.nextSequence
  have hb := r.expectedPackets.toNat_lt
  refine ⟨?_, h.packets, ?_, ?_, ?_⟩
  · rw [acceptDt_accepted r packet hs (UInt8.le_iff_toNat_le.mpr h.pending), if_neg hne]
  · show 1 ≤ (saturatingSucc r.nextSequence).toNat
    omega
  · show (saturatingSucc r.nextSequence).toNat ≤ r.expectedPackets.toNat
    omega
  · show (r.extended packet).length = tpPacketDataLen * ((saturatingSucc r.nextSequence).toNat - 1)
    have := h.packets
    have := h.started
    have := h.payload
    rw [extended_length]
    simp only [requiredPackets, tpPacketDataLen] at *
    omega

/-- The last packet in sequence is delivered. -/
theorem Collecting.delivers {r : TpReassembler} (h : Collecting r) (packet : TpDataTransfer)
    (hs : packet.sequence = r.nextSequence)
    (heq : r.nextSequence.toNat = r.expectedPackets.toNat) :
    r.acceptDt packet =
      (.ok (some (r.message (r.extended packet))),
        {r with nextSequence := saturatingSucc r.nextSequence, payload := []}) := by
  rw [acceptDt_accepted r packet hs (UInt8.le_iff_toNat_le.mpr h.pending),
    if_pos ((h.completes_iff packet).mpr heq)]

/-- What one call can do while collecting. -/
theorem Collecting.acceptDt_cases {r : TpReassembler} (h : Collecting r) (packet : TpDataTransfer) :
    (∃ e, r.acceptDt packet = (.error e, r)) ∨
      (∃ r', r.acceptDt packet = (.ok none, r') ∧ Collecting r') ∨
      (∃ m, r.acceptDt packet = (.ok (some m),
          {r with nextSequence := saturatingSucc r.nextSequence, payload := []}) ∧
        r.nextSequence.toNat = r.expectedPackets.toNat) := by
  by_cases hs : packet.sequence = r.nextSequence
  · by_cases heq : r.nextSequence.toNat = r.expectedPackets.toNat
    · exact .inr (.inr ⟨_, h.delivers packet hs heq, heq⟩)
    · have hlt : r.nextSequence.toNat < r.expectedPackets.toNat := by
        have := h.pending
        omega
      exact .inr (.inl ⟨_, h.stores packet hs hlt⟩)
  · exact .inl ⟨_, acceptDt_stray r packet hs⟩

/-- A closed session rejects every packet and stays as it is. -/
theorem Closed.rejects {r : TpReassembler} (h : Closed r) (packet : TpDataTransfer) :
    ∃ e, r.acceptDt packet = (.error e, r) := by
  by_cases hs : packet.sequence = r.nextSequence
  · exact ⟨_, acceptDt_excess r packet hs (hs ▸ h)⟩
  · exact ⟨_, acceptDt_stray r packet hs⟩

theorem Closed.calls_error {r : TpReassembler} (h : Closed r) (packets : List TpDataTransfer) :
    ∀ call ∈ r.calls packets, ∃ e, call.1 = .error e := by
  induction packets with
  | nil => intro call hc; cases hc
  | cons packet rest ih =>
    obtain ⟨e, he⟩ := h.rejects packet
    intro call hc
    simp only [calls, he, List.mem_cons] at hc
    rcases hc with rfl | hc
    · exact ⟨e, rfl⟩
    · exact ih call hc

/-! ### Delivery at most once -/

/-- The call returned a complete message. -/
def delivers (call : Except Obd2Error (Option J1939Message) × TpReassembler) : Bool :=
  match call.1 with
  | .ok (some _) => true
  | _ => false

/-- In every sequence of calls at most one message comes back, and after it every
packet is rejected. -/
structure AtMostOnce (r : TpReassembler) : Prop where
  once : ∀ packets, (r.calls packets).countP delivers ≤ 1
  closed : ∀ before packet m after,
    ((r.after before).acceptDt packet).1 = .ok (some m) →
      ∀ call ∈ (((r.after before).acceptDt packet).2).calls after, ∃ e, call.1 = .error e

/-- Either phase of a session whose packet count leaves the counter room. -/
def Live (r : TpReassembler) : Prop :=
  r.expectedPackets.toNat < 255 ∧ (Collecting r ∨ Closed r)

theorem Live.closes {r : TpReassembler} (h : r.expectedPackets.toNat < 255)
    (heq : r.nextSequence.toNat = r.expectedPackets.toNat) :
    Closed {r with nextSequence := saturatingSucc r.nextSequence, payload := []} := by
  apply UInt8.lt_iff_toNat_lt.mpr
  show r.expectedPackets.toNat < (saturatingSucc r.nextSequence).toNat
  rw [saturatingSucc_toNat]
  omega

theorem Live.step {r : TpReassembler} (h : Live r) (packet : TpDataTransfer) :
    Live (r.acceptDt packet).2 ∧
      ∀ m, (r.acceptDt packet).1 = .ok (some m) → Closed (r.acceptDt packet).2 := by
  obtain ⟨hroom, hc | hc⟩ := h
  · rcases hc.acceptDt_cases packet with ⟨e, he⟩ | ⟨r', hr, hc'⟩ | ⟨m, hm, heq⟩
    · rw [he]
      exact ⟨⟨hroom, .inl hc⟩, by simp⟩
    · have hp := acceptDt_expectedPackets r packet
      rw [hr] at hp ⊢
      exact ⟨⟨hp ▸ hroom, .inl hc'⟩, by simp⟩
    · rw [hm]
      exact ⟨⟨hroom, .inr (Live.closes hroom heq)⟩, fun _ _ => Live.closes hroom heq⟩
  · obtain ⟨e, he⟩ := hc.rejects packet
    rw [he]
    exact ⟨⟨hroom, .inr hc⟩, by simp⟩

theorem Live.run {r : TpReassembler} (h : Live r) (packets : List TpDataTransfer) :
    Live (r.after packets) := by
  induction packets generalizing r with
  | nil => exact h
  | cons packet rest ih => exact ih (h.step packet).1

theorem Closed.count {r : TpReassembler} (h : Closed r) (packets : List TpDataTransfer) :
    (r.calls packets).countP delivers = 0 := by
  rw [List.countP_eq_zero]
  intro call hc
  obtain ⟨e, he⟩ := h.calls_error packets call hc
  simp [delivers, he]

theorem Live.count {r : TpReassembler} (h : Live r) (packets : List TpDataTransfer) :
    (r.calls packets).countP delivers ≤ 1 := by
  induction packets generalizing r with
  | nil => exact Nat.zero_le 1
  | cons packet rest ih =>
    obtain ⟨hlive, hclosed⟩ := h.step packet
    simp only [calls, List.countP_cons]
    cases hr : (r.acceptDt packet).1 with
    | error e => simpa [delivers, hr] using ih hlive
    | ok o =>
      cases o with
      | none => simpa [delivers, hr] using ih hlive
      | some m => simp [delivers, hr, (hclosed m hr).count rest]

theorem Live.atMostOnce {r : TpReassembler} (h : Live r) : AtMostOnce r where
  once := h.count
  closed := fun before packet m after hm => ((h.run before).step packet).2 m hm |>.calls_error after

end TpReassembler

end Obd2.J1939
