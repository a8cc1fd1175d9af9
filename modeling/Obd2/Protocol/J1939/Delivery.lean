import Obd2.Protocol.J1939.Reassembly

/-! Exact reassembly, and how often a session delivers.

`Segmentation` says which packets carry a payload: numbered from one, seven bytes
each, anything after the payload's end in the last. Fed in order, with any number of
packets out of sequence in between, they yield nothing until the last and then the
payload (`reassembly_exact`). A session delivers at most once exactly when the
announced packet count leaves the one-byte sequence counter a value past it
(`delivery_once`). -/
namespace Obd2.J1939.TpReassembler

/-- The packets that carry `payload` from packet number `first` (counted from zero) on. -/
structure Segmentation (payload : List UInt8) (first : Nat) (dts : List TpDataTransfer) : Prop where
  count : first + dts.length = requiredPackets payload.length
  numbered : ∀ k (h : k < dts.length), dts[k].sequence.toNat = first + k + 1
  carries : ∀ k (h : k < dts.length),
    dts[k].data.toList.take (payload.length - tpPacketDataLen * (first + k)) =
      (payload.drop (tpPacketDataLen * (first + k))).take tpPacketDataLen

theorem Segmentation.tail {payload : List UInt8} {first : Nat} {dt : TpDataTransfer}
    {dts : List TpDataTransfer} (h : Segmentation payload first (dt :: dts)) :
    Segmentation payload (first + 1) dts where
  count := by
    have := h.count
    simp only [List.length_cons] at this
    omega
  numbered := fun k hk => by
    have := h.numbered (k + 1) (Nat.succ_lt_succ hk)
    simp only [List.getElem_cons_succ] at this
    omega
  carries := fun k hk => by
    have := h.carries (k + 1) (Nat.succ_lt_succ hk)
    simp only [List.getElem_cons_succ] at this
    rw [show first + 1 + k = first + (k + 1) by omega]
    exact this

/-- The stream: before each packet, packets that are out of sequence there. -/
def interleave (strays : Nat → List TpDataTransfer) : Nat → List TpDataTransfer → List TpDataTransfer
  | _, [] => []
  | i, dt :: rest => strays i ++ dt :: interleave strays (i + 1) rest

/-- The session after the first `i` packets of `payload`. -/
def progress (r : TpReassembler) (payload : List UInt8) (i : Nat) : TpReassembler :=
  { r with
    nextSequence := UInt8.ofNat (min (i + 1) 255)
    payload := if i < requiredPackets payload.length then payload.take (tpPacketDataLen * i) else [] }

/-- What the calls return on an interleaved stream: an error for each stray, with the
session as it was; nothing for a packet short of the last; `message` for the last. -/
def transcript (r : TpReassembler) (payload : List UInt8) (message : J1939Message)
    (strays : Nat → List TpDataTransfer) :
    Nat → List TpDataTransfer → List (Except Obd2Error (Option J1939Message) × TpReassembler)
  | _, [] => []
  | i, _ :: rest =>
    (strays i).map (fun q => (.error ((r.progress payload i).mismatch q), r.progress payload i)) ++
      (.ok (if rest = [] then some message else none), r.progress payload (i + 1)) ::
        transcript r payload message strays (i + 1) rest

theorem progress_zero (source : UInt8) (destination : Option UInt8) (size : UInt16)
    (packets : UInt8) (pgn : Pgn) (payload : List UInt8) :
    (opened source destination size packets pgn).progress payload 0 =
      opened source destination size packets pgn := by
  simp [progress, opened]

section InOrder
variable {r : TpReassembler} {payload : List UInt8} {i : Nat}

/-- The announced session of `payload`. -/
structure Session (r : TpReassembler) (payload : List UInt8) : Prop where
  nonempty : 1 ≤ payload.length
  bounded : payload.length ≤ tpMaxMessageSize
  size : r.expectedSize = payload.length
  packets : r.expectedPackets.toNat = requiredPackets payload.length

theorem progress_next (hb : payload.length ≤ tpMaxMessageSize)
    (hi : i < requiredPackets payload.length) :
    (r.progress payload i).nextSequence.toNat = i + 1 := by
  show (UInt8.ofNat (min (i + 1) 255)).toNat = i + 1
  simp only [requiredPackets, tpPacketDataLen, tpMaxMessageSize] at *
  rw [UInt8.toNat_ofNat']
  omega

theorem progress_payload (hi : i < requiredPackets payload.length) :
    (r.progress payload i).payload = payload.take (tpPacketDataLen * i) := by
  simp only [progress, if_pos hi]

theorem progress_collecting (h : Session r payload) (hi : i < requiredPackets payload.length) :
    Collecting (r.progress payload i) := by
  have hnext := progress_next (r := r) h.bounded hi
  refine ⟨?_, by omega, ?_, ?_⟩
  · show r.expectedPackets.toNat = requiredPackets r.expectedSize
    rw [h.packets, h.size]
  · show (r.progress payload i).nextSequence.toNat ≤ r.expectedPackets.toNat
    rw [hnext, h.packets]
    exact hi
  · rw [hnext, progress_payload hi, List.length_take]
    simp only [requiredPackets, tpPacketDataLen] at *
    omega

/-- The next packet in order appends its share of the payload. -/
theorem progress_extended (h : Session r payload) (dt : TpDataTransfer)
    (hi : i < requiredPackets payload.length)
    (hc : dt.data.toList.take (payload.length - tpPacketDataLen * i) =
      (payload.drop (tpPacketDataLen * i)).take tpPacketDataLen) :
    (r.progress payload i).extended dt = payload.take (tpPacketDataLen * (i + 1)) := by
  have hlen : tpPacketDataLen * i ≤ payload.length := by
    simp only [requiredPackets, tpPacketDataLen] at *
    omega
  have hshare : dt.data.toList.take (min (payload.length - tpPacketDataLen * i) tpPacketDataLen) =
      (payload.drop (tpPacketDataLen * i)).take tpPacketDataLen := by
    rw [Nat.min_comm, ← List.take_take, hc, List.take_take, Nat.min_self]
  unfold extended
  simp only [progress, if_pos hi, h.size, List.length_take, Nat.min_eq_left hlen, hshare]
  rw [Nat.mul_succ, List.take_add]

/-- One packet of the payload, in order. -/
theorem progress_step (h : Session r payload) {dt : TpDataTransfer} {rest : List TpDataTransfer}
    (hseg : Segmentation payload i (dt :: rest)) :
    (r.progress payload i).acceptDt dt =
      (.ok (if rest = [] then some (r.message payload) else none), r.progress payload (i + 1)) := by
  have hi : i < requiredPackets payload.length := by
    have := hseg.count
    simp only [List.length_cons] at this
    omega
  have hlen : 7 * requiredPackets payload.length < payload.length + 7 := by
    simp only [requiredPackets, tpPacketDataLen]
    omega
  have hnext := progress_next (r := r) h.bounded hi
  have hcol := progress_collecting h hi
  have hsequence : dt.sequence = (r.progress payload i).nextSequence := by
    apply UInt8.toNat_inj.mp
    rw [hnext]
    exact hseg.numbered 0 (Nat.zero_lt_succ _)
  have hext := progress_extended h dt hi (hseg.carries 0 (Nat.zero_lt_succ _))
  have hsucc : saturatingSucc (r.progress payload i).nextSequence = UInt8.ofNat (min (i + 1 + 1) 255) := by
    apply UInt8.toNat_inj.mp
    rw [saturatingSucc_toNat, hnext, UInt8.toNat_ofNat']
    omega
  cases rest with
  | nil =>
    have hlast : i + 1 = requiredPackets payload.length := hseg.count
    have hwhole : payload.take (tpPacketDataLen * (i + 1)) = payload := by
      apply List.take_of_length_le
      simp only [requiredPackets, tpPacketDataLen] at *
      omega
    rw [hcol.delivers dt hsequence (by
      rw [hnext, hlast]
      exact h.packets.symm)]
    rw [hext, hwhole, hsucc, if_pos rfl]
    simp only [progress, message, hlast, Nat.lt_irrefl, if_false]
  | cons dt' rest' =>
    have hmore : i + 1 < requiredPackets payload.length := by
      have := hseg.count
      simp only [List.length_cons] at this
      omega
    rw [(hcol.stores dt hsequence (by
      rw [hnext]
      exact h.packets ▸ hmore)).1]
    rw [hext, hsucc]
    simp only [progress, hmore, if_true, List.cons_ne_nil, if_false]

theorem interleave_calls (h : Session r payload) {dts : List TpDataTransfer}
    (strays : Nat → List TpDataTransfer)
    (hstray : ∀ k, ∀ q ∈ strays k, q.sequence.toNat ≠ k + 1)
    (hseg : Segmentation payload i dts) :
    (r.progress payload i).calls (interleave strays i dts) =
        transcript r payload (r.message payload) strays i dts ∧
      (r.progress payload i).after (interleave strays i dts) =
        r.progress payload (requiredPackets payload.length) := by
  induction dts generalizing i with
  | nil =>
    have hlast : i = requiredPackets payload.length := hseg.count
    exact ⟨rfl, by rw [← hlast]; rfl⟩
  | cons dt rest ih =>
    have hi : i < requiredPackets payload.length := by
      have := hseg.count
      simp only [List.length_cons] at this
      omega
    have hout : ∀ q ∈ strays i, q.sequence ≠ (r.progress payload i).nextSequence := by
      intro q hq he
      apply hstray i q hq
      rw [he, progress_next h.bounded hi]
    obtain ⟨hcs, has⟩ := calls_strays _ _ hout
    have hstep := progress_step h hseg
    obtain ⟨hc, ha⟩ := ih hseg.tail
    simp only [interleave, calls_append, after_append, calls, after, transcript, hcs, has, hstep, hc, ha]
    exact ⟨trivial, trivial⟩

/-- A prefix of the payload's packets leaves the session that far. -/
theorem progress_run (h : Session r payload) {a b : List TpDataTransfer}
    (hseg : Segmentation payload i (a ++ b)) :
    (r.progress payload i).after a = r.progress payload (i + a.length) := by
  induction a generalizing i with
  | nil => rfl
  | cons dt rest ih =>
    simp only [after, progress_step h hseg, List.length_cons]
    rw [ih hseg.tail]
    congr 1
    omega

end InOrder

/-- **Reassembly is exact.** The announcement of a payload of 1 to 1785 bytes opens a
session iff its packet count is the number of packets the payload takes; and the
payload's packets in order, with strays before each, are answered by the transcript:
every stray rejected with the session unchanged, nothing short of the last packet,
and there the announced message with exactly the payload. -/
theorem reassembly_exact (payload : List UInt8) (h1 : 1 ≤ payload.length)
    (h2 : payload.length ≤ 1785) (source : UInt8) (destination : Option UInt8)
    (control : TpControlMessage) (size : UInt16) (packets : UInt8) (pgn : Pgn)
    (ha : Announces control size packets pgn) (hsize : size.toNat = payload.length) :
    ((∃ r, start source destination control = .ok r) ↔
      packets.toNat = (payload.length + 6) / 7) ∧
    ∀ r, start source destination control = .ok r →
      ∀ (dts : List TpDataTransfer) (strays : Nat → List TpDataTransfer),
        Segmentation payload 0 dts →
        (∀ k, ∀ q ∈ strays k, q.sequence.toNat ≠ k + 1) →
        r.progress payload 0 = r ∧
        r.calls (interleave strays 0 dts) =
          transcript r payload ⟨source, destination, pgn, payload⟩ strays 0 dts := by
  have hvalid : validateTpSize size.toNat packets = .ok () ↔ packets.toNat = requiredPackets payload.length := by
    rw [validateTpSize_ok, hsize]
    simp only [tpMaxMessageSize]
    omega
  constructor
  · show (∃ r, start source destination control = .ok r) ↔ packets.toNat = requiredPackets payload.length
    rw [← hvalid, start_announced ha]
    cases validateTpSize size.toNat packets <;> simp
  · intro r hr dts strays hseg hstray
    obtain ⟨-, -, hpackets, rfl⟩ := start_opened ha hr
    rw [hsize] at hpackets
    have hs : Session (opened source destination size packets pgn) payload := ⟨h1, h2, hsize, hpackets⟩
    have hzero := progress_zero source destination size packets pgn payload
    have := (interleave_calls hs strays hstray hseg).1
    rw [hzero] at this
    exact ⟨hzero, this⟩

/-- Ten bytes in two packets, with a repeated first packet in between. -/
theorem reassembly_exact_ten :
    ∃ r, start 0x80 none (.broadcastAnnounce 10 2 ⟨65226⟩) = .ok r ∧
      r.calls [⟨1, #v[1, 2, 3, 4, 5, 6, 7]⟩, ⟨1, #v[1, 2, 3, 4, 5, 6, 7]⟩,
          ⟨2, #v[8, 9, 10, 255, 255, 255, 255]⟩] =
        transcript r [1, 2, 3, 4, 5, 6, 7, 8, 9, 10]
          ⟨0x80, none, ⟨65226⟩, [1, 2, 3, 4, 5, 6, 7, 8, 9, 10]⟩
          (fun k => if k = 1 then [⟨1, #v[1, 2, 3, 4, 5, 6, 7]⟩] else []) 0
          [⟨1, #v[1, 2, 3, 4, 5, 6, 7]⟩, ⟨2, #v[8, 9, 10, 255, 255, 255, 255]⟩] := by
  have h := reassembly_exact [1, 2, 3, 4, 5, 6, 7, 8, 9, 10] (by decide) (by decide) 0x80 none
    (.broadcastAnnounce 10 2 ⟨65226⟩) 10 2 ⟨65226⟩ (.inl rfl) rfl
  obtain ⟨r, hr⟩ := h.1.mpr (by decide)
  have hseg : Segmentation [1, 2, 3, 4, 5, 6, 7, 8, 9, 10] 0
      [⟨1, #v[1, 2, 3, 4, 5, 6, 7]⟩, ⟨2, #v[8, 9, 10, 255, 255, 255, 255]⟩] :=
    ⟨by decide, by decide, by decide⟩
  refine ⟨r, hr, (h.2 r hr _ (fun k => if k = 1 then [⟨1, #v[1, 2, 3, 4, 5, 6, 7]⟩] else []) hseg ?_).2⟩
  intro k q hq
  split at hq
  · next hk =>
    simp only [List.mem_singleton] at hq
    subst hk hq
    decide
  · cases hq

/-! ### The last packet number -/

/-- Packet number `n`, all zero bytes. -/
def zeroPacket (n : Nat) : TpDataTransfer := ⟨UInt8.ofNat n, Vector.replicate 7 0⟩

/-- Packets `1` to `n`, all zero bytes. -/
def zeroPackets (n : Nat) : List TpDataTransfer := (List.range n).map fun i => zeroPacket (i + 1)

theorem zeroPackets_segmentation {size : Nat} (h : size ≤ tpMaxMessageSize) :
    Segmentation (List.replicate size 0) 0 (zeroPackets (requiredPackets size)) where
  count := by simp [zeroPackets]
  numbered := fun k hk => by
    simp only [zeroPackets, List.length_map, List.length_range] at hk
    simp only [requiredPackets, tpPacketDataLen, tpMaxMessageSize] at *
    simp only [zeroPackets, zeroPacket, List.getElem_map, List.getElem_range, UInt8.toNat_ofNat']
    omega
  carries := fun k _ => by
    simp only [zeroPackets, zeroPacket, List.getElem_map, Vector.toList_replicate,
      List.take_replicate, List.drop_replicate, List.length_replicate, Nat.zero_add,
      tpPacketDataLen, Nat.min_comm]

/-- At 255 packets the counter stays at 255 after delivery, and packet 255 is taken again. -/
theorem overrun (source : UInt8) (destination : Option UInt8) (pgn : Pgn) {size : UInt16}
    {packets : UInt8} (h1 : 1 ≤ size.toNat) (h2 : size.toNat ≤ tpMaxMessageSize)
    (hp : packets.toNat = requiredPackets size.toNat) (hmax : packets.toNat = 255) :
    let r := (opened source destination size packets pgn).after (zeroPackets 254)
    (∃ m, (r.acceptDt (zeroPacket 255)).1 = .ok (some m)) ∧
      ((r.acceptDt (zeroPacket 255)).2.acceptDt (zeroPacket 255)).1 = .ok none := by
  have hneed : requiredPackets size.toNat = 255 := by rw [← hp, hmax]
  have hs : Session (opened source destination size packets pgn) (List.replicate size.toNat 0) :=
    ⟨by simpa using h1, by simpa using h2, by simp [opened], by simpa [opened] using hp⟩
  have hseg := zeroPackets_segmentation h2
  rw [hneed] at hseg
  have hsplit : zeroPackets 255 = zeroPackets 254 ++ [zeroPacket 255] := by
    simp [zeroPackets, List.range_succ (n := 254)]
  rw [hsplit] at hseg
  have hrun := progress_run hs hseg
  rw [progress_zero] at hrun
  have hlast : Segmentation (List.replicate size.toNat 0) 254 [zeroPacket 255] :=
    ⟨by simp [hneed],
      fun k hk => by
        obtain rfl : k = 0 := Nat.lt_one_iff.mp hk
        rfl,
      fun k hk => by
        obtain rfl : k = 0 := Nat.lt_one_iff.mp hk
        simpa [zeroPackets] using hseg.carries 254 (by simp [zeroPackets])⟩
  have hstep := progress_step hs hlast
  have hlen : (zeroPackets 254).length = 254 := by simp [zeroPackets]
  simp only [hrun, hlen, Nat.zero_add, hstep]
  refine ⟨⟨_, rfl⟩, ?_⟩
  -- The delivered session: counter 255, payload taken out, one more packet announced than received.
  have hdone : (opened source destination size packets pgn).progress (List.replicate size.toNat 0) 255 =
      {opened source destination size packets pgn with nextSequence := 255, payload := []} := by
    simp [progress, hneed]
  show (((opened source destination size packets pgn).progress (List.replicate size.toNat 0) 255).acceptDt
    (zeroPacket 255)).1 = .ok none
  have hpackets : packets = 255 := UInt8.toNat_inj.mp hmax
  rw [hdone, acceptDt_accepted _ _ rfl (by rw [hpackets]; exact UInt8.le_refl _), if_neg]
  simp only [extended_length, opened, List.length_nil, tpPacketDataLen, requiredPackets] at *
  omega

/-- **A session delivers at most once iff fewer than 255 packets are announced.** -/
theorem delivery_once {source : UInt8} {destination : Option UInt8} {control : TpControlMessage}
    {size : UInt16} {packets : UInt8} {pgn : Pgn} (ha : Announces control size packets pgn)
    {r : TpReassembler} (h : start source destination control = .ok r) :
    AtMostOnce r ↔ packets.toNat < 255 := by
  obtain ⟨h1, h2, hp, rfl⟩ := start_opened ha h
  constructor
  · intro honce
    by_cases hlt : packets.toNat < 255
    · exact hlt
    · have hmax : packets.toNat = 255 := by
        have := packets.toNat_lt
        omega
      obtain ⟨⟨m, hm⟩, hagain⟩ := overrun source destination pgn h1 h2 hp hmax
      obtain ⟨e, he⟩ := honce.closed (zeroPackets 254) (zeroPacket 255) m [zeroPacket 255] hm _
        (List.mem_cons_self ..)
      rw [hagain] at he
      cases he
  · intro hlt
    exact Live.atMostOnce ⟨hlt, .inl (opened_collecting h1 hp)⟩

/-- A DM1 of 254 packets: the announcement is accepted and delivers at most once. -/
theorem delivery_once_dm1 :
    ∃ r, start 0x80 none (.broadcastAnnounce 1778 254 ⟨65226⟩) = .ok r ∧ AtMostOnce r := by
  have hannounces : Announces (.broadcastAnnounce 1778 254 ⟨65226⟩) 1778 254 ⟨65226⟩ := .inl rfl
  exact ⟨opened 0x80 none 1778 254 ⟨65226⟩, rfl, (delivery_once hannounces rfl).mpr (by decide)⟩

/-- A message of 1785 bytes in 255 packets: packet 255 delivers it, and packet 255 sent
once more is accepted. -/
theorem packet_255_taken_twice :
    ∃ r, start 0x80 none (.broadcastAnnounce 1785 255 ⟨65226⟩) = .ok r ∧
      (∃ m, ((r.after (zeroPackets 254)).acceptDt (zeroPacket 255)).1 = .ok (some m)) ∧
      (((r.after (zeroPackets 254)).acceptDt (zeroPacket 255)).2.acceptDt (zeroPacket 255)).1 = .ok none :=
  ⟨opened 0x80 none 1785 255 ⟨65226⟩, rfl, overrun 0x80 none ⟨65226⟩ (by decide) (by decide) rfl rfl⟩

end Obd2.J1939.TpReassembler
