import Obd2.Framing
import Obd2.Protocol.DoIp

/-! Packets in a stream.

A buffer parses to a packet exactly if it is the encoding of one that is well formed
(`parse_eq_ok`), and the parser of prefixes takes such a packet off whatever follows it. That is
what framing asks for (`framed`), so a receiver that keeps a buffer gets the packets of a stream
however it is cut; and the transport, which reads header and payload, gets the same. -/
namespace Obd2

/-! ### Headers -/

namespace DoIpHeader

/-- A header as the library makes them. -/
structure WellFormed (header : DoIpHeader) : Prop where
  inverse : header.inverseProtocolVersion = ~~~header.protocolVersion
  payloadType : DoIpPayloadType.fromU16 header.payloadType.asU16 = header.payloadType
  payloadLength : header.payloadLength ≤ doIpMaxPayloadLen

@[simp] theorem length_encode (header : DoIpHeader) : header.encode.length = doIpHeaderLen := by
  simp [encode, doIpHeaderLen]

theorem parse_encode {header : DoIpHeader} (h : header.WellFormed) (rest : List UInt8) :
    parse (header.encode ++ rest) = .ok header := by
  obtain ⟨t0, t1, htype⟩ : ∃ t0 t1, beBytes 2 header.payloadType.asU16.toNat = [t0, t1] := ⟨_, _, rfl⟩
  obtain ⟨l0, l1, l2, l3, hlength⟩ : ∃ l0 l1 l2 l3, beBytes 4 header.payloadLength.toNat = [l0, l1, l2, l3] :=
    ⟨_, _, _, _, rfl⟩
  have hof : UInt16.ofNat (ofBeBytes [t0, t1]) = header.payloadType.asU16 := by
    rw [← htype, ofBeBytes_beBytes header.payloadType.asU16.toNat_lt, UInt16.ofNat_toNat]
  have hof' : UInt32.ofNat (ofBeBytes [l0, l1, l2, l3]) = header.payloadLength := by
    rw [← hlength, ofBeBytes_beBytes header.payloadLength.toNat_lt, UInt32.ofNat_toNat]
  have hmax : ¬ header.payloadLength > doIpMaxPayloadLen := UInt32.not_lt.mpr h.payloadLength
  have hinverse : ¬ header.inverseProtocolVersion ≠ ~~~header.protocolVersion := not_not_intro h.inverse
  simp only [encode, htype, hlength, List.cons_append, List.nil_append, parse, if_neg hinverse, hof, hof',
    if_neg hmax, h.payloadType]

/-- What parses begins with the encoding of the header it parses to. -/
theorem parse_eq_ok {bytes : List UInt8} {header : DoIpHeader} :
    parse bytes = .ok header ↔ header.WellFormed ∧ header.encode <+: bytes := by
  constructor
  · intro h
    unfold parse at h
    split at h
    · next version inverse t0 t1 l0 l1 l2 l3 rest =>
      split at h
      · cases h
      · next hinverse =>
        dsimp only at h
        split at h
        · cases h
        · next hmax =>
          cases h
          have htype : ofBeBytes [t0, t1] < Nat.pow 256 2 := ofBeBytes_lt _
          have hlength : ofBeBytes [l0, l1, l2, l3] < Nat.pow 256 4 := ofBeBytes_lt _
          refine ⟨⟨Decidable.of_not_not hinverse, ?_, UInt32.not_lt.mp hmax⟩, rest, ?_⟩
          · exact congrArg _ (DoIpPayloadType.asU16_fromU16 _)
          · have hof : beBytes 2 (UInt16.ofNat (ofBeBytes [t0, t1])).toNat = [t0, t1] := by
              rw [UInt16.toNat_ofNat_of_lt' htype]
              exact beBytes_ofBeBytes [t0, t1]
            have hof' : beBytes 4 (UInt32.ofNat (ofBeBytes [l0, l1, l2, l3])).toNat = [l0, l1, l2, l3] := by
              rw [UInt32.toNat_ofNat_of_lt' hlength]
              exact beBytes_ofBeBytes [l0, l1, l2, l3]
            rw [encode, DoIpPayloadType.asU16_fromU16, hof, hof']
            rfl
    · cases h
  · rintro ⟨hvalid, rest, rfl⟩
    exact parse_encode hvalid rest

theorem withVersion_wellFormed {version : UInt8} {payloadType : DoIpPayloadType} {payloadLength : UInt32}
    {header : DoIpHeader} (htype : DoIpPayloadType.fromU16 payloadType.asU16 = payloadType)
    (h : withVersion version payloadType payloadLength = .ok header) : header.WellFormed := by
  unfold withVersion at h
  split at h
  · cases h
  · next hmax =>
    cases h
    exact ⟨rfl, htype, UInt32.not_lt.mp hmax⟩

end DoIpHeader

/-! ### Packets -/

namespace DoIpMessage

/-- A packet whose header is well formed and declares its payload. -/
structure WellFormed (message : DoIpMessage) : Prop where
  header : message.header.WellFormed
  payload : message.payload.length = message.header.payloadLength.toNat

theorem withVersion_wellFormed {version : UInt8} {payloadType : DoIpPayloadType} {payload : List UInt8}
    {message : DoIpMessage} (htype : DoIpPayloadType.fromU16 payloadType.asU16 = payloadType)
    (h : withVersion version payloadType payload = .ok message) : message.WellFormed := by
  unfold withVersion at h
  split at h
  · cases h
  · next hlength =>
    split at h
    · next header hheader =>
      cases h
      refine ⟨DoIpHeader.withVersion_wellFormed htype hheader, ?_⟩
      unfold DoIpHeader.withVersion at hheader
      split at hheader
      · cases hheader
      · cases hheader
        have hsize : payload.length < UInt32.size := Nat.lt_succ_of_le (Nat.le_of_not_lt hlength)
        exact (UInt32.toNat_ofNat_of_lt' hsize).symm
    · cases h

theorem length_encode (message : DoIpMessage) :
    message.encode.length = doIpHeaderLen + message.payload.length := by
  rw [encode, List.length_append, DoIpHeader.length_encode]

theorem drop_encode (message : DoIpMessage) (rest : List UInt8) :
    (message.encode ++ rest).drop doIpHeaderLen = message.payload ++ rest := by
  rw [encode, List.append_assoc, ← message.header.length_encode, List.drop_left]

/-- **A buffer parses to a packet exactly if it is the encoding of one that is well formed.** -/
theorem parse_eq_ok {bytes : List UInt8} {message : DoIpMessage} :
    parse bytes = .ok message ↔ message.WellFormed ∧ message.encode = bytes := by
  constructor
  · intro h
    unfold parse at h
    split at h
    · cases h
    · next header hheader =>
      dsimp only at h
      split at h
      · cases h
      · next hlength =>
        cases h
        obtain ⟨hvalid, payload, rfl⟩ := DoIpHeader.parse_eq_ok.mp hheader
        have hdrop : (header.encode ++ payload).drop doIpHeaderLen = payload :=
          header.length_encode ▸ List.drop_left
        have hlength := Decidable.of_not_not hlength
        rw [List.length_append, DoIpHeader.length_encode] at hlength
        rw [hdrop]
        exact ⟨⟨hvalid, Nat.add_left_cancel hlength⟩, rfl⟩
  · rintro ⟨hvalid, rfl⟩
    have hlength : ¬ message.encode.length ≠ doIpHeaderLen + message.header.payloadLength.toNat := by
      rw [length_encode, hvalid.payload]
      exact not_not_intro rfl
    have hdrop := message.drop_encode []
    rw [List.append_nil, List.append_nil] at hdrop
    have hheader := DoIpHeader.parse_encode hvalid.header message.payload
    rw [← encode] at hheader
    simp only [parse, hheader, if_neg hlength, hdrop]

/-- A packet is taken off whatever follows it. -/
theorem parsePrefix_encode {message : DoIpMessage} (h : message.WellFormed) (rest : List UInt8) :
    parsePrefix (message.encode ++ rest) = .ok (some (message, message.encode.length)) := by
  have hheader : ¬ (message.encode ++ rest).length < doIpHeaderLen := by
    rw [List.length_append, length_encode]
    omega
  have hbody : ¬ (message.encode ++ rest).length < message.encode.length := by
    rw [List.length_append]
    omega
  have htotal : doIpHeaderLen + message.header.payloadLength.toNat = message.encode.length := by
    rw [length_encode, h.payload]
  have hparse : DoIpHeader.parse (message.encode ++ rest) = .ok message.header := by
    rw [encode, List.append_assoc]
    exact DoIpHeader.parse_encode h.header _
  have hdrop := message.drop_encode []
  rw [List.append_nil, List.append_nil] at hdrop
  simp only [parsePrefix, if_neg hheader, hparse, htotal, if_neg hbody, List.take_left, hdrop]

/-- A part of a packet is waited for. -/
theorem parsePrefix_incomplete {message : DoIpMessage} (h : message.WellFormed) {part : List UInt8}
    (hpart : part <+: message.encode) (hne : part ≠ message.encode) : parsePrefix part = .ok none := by
  have hshort : part.length < message.encode.length :=
    Nat.lt_of_le_of_ne hpart.length_le fun heq => hne (hpart.eq_of_length heq)
  rw [length_encode, h.payload] at hshort
  by_cases hheader : part.length < doIpHeaderLen
  · rw [parsePrefix, if_pos hheader]
  · have hprefix : message.header.encode <+: part := by
      refine List.prefix_of_prefix_length_le (List.prefix_append ..) hpart ?_
      rw [DoIpHeader.length_encode]
      omega
    have hparse := DoIpHeader.parse_eq_ok.mpr ⟨h.header, hprefix⟩
    simp only [parsePrefix, if_neg hheader, hparse, if_pos hshort]

/-- What the parser of prefixes takes off is the encoding of a well-formed packet. -/
theorem encode_of_parsePrefix {bytes : List UInt8} {message : DoIpMessage} {consumed : Nat}
    (h : parsePrefix bytes = .ok (some (message, consumed))) :
    message.WellFormed ∧ message.encode = bytes.take consumed ∧ consumed = message.encode.length := by
  unfold parsePrefix at h
  split at h
  · cases h
  · split at h
    · cases h
    · next header hheader =>
      dsimp only at h
      split at h
      · cases h
      · next hlength =>
        cases h
        obtain ⟨hvalid, payload, rfl⟩ := DoIpHeader.parse_eq_ok.mp hheader
        have htake : (header.encode ++ payload).take (doIpHeaderLen + header.payloadLength.toNat) =
            header.encode ++ payload.take header.payloadLength.toNat := by
          rw [← header.length_encode, List.take_length_add_append]
        have hdrop : (header.encode ++ payload.take header.payloadLength.toNat).drop doIpHeaderLen =
            payload.take header.payloadLength.toNat := header.length_encode ▸ List.drop_left
        rw [List.length_append, DoIpHeader.length_encode] at hlength
        have hpayload : (payload.take header.payloadLength.toNat).length = header.payloadLength.toNat := by
          rw [List.length_take]
          omega
        rw [htake, hdrop, length_encode]
        exact ⟨⟨hvalid, hpayload⟩, rfl, congrArg _ hpayload.symm⟩

theorem framed : Framing.Framed encode parsePrefix WellFormed where
  empty := rfl
  complete := parsePrefix_encode
  incomplete := parsePrefix_incomplete

/-- The parser of prefixes takes all of a buffer exactly if that is one packet. -/
theorem parsePrefix_all {bytes : List UInt8} {message : DoIpMessage} :
    parsePrefix bytes = .ok (some (message, bytes.length)) ↔ message.WellFormed ∧ message.encode = bytes := by
  constructor
  · intro h
    obtain ⟨hvalid, hencode, -⟩ := encode_of_parsePrefix h
    rw [List.take_length] at hencode
    exact ⟨hvalid, hencode⟩
  · rintro ⟨hvalid, rfl⟩
    have hcomplete := parsePrefix_encode hvalid []
    rwa [List.append_nil] at hcomplete

/-- **Framing is exact.** -/
theorem framing_exact :
    (∀ (messages : List DoIpMessage) (chunks : List (List UInt8)), (∀ m ∈ messages, m.WellFormed) →
      chunks.flatten = messages.flatMap encode →
      Framing.receive parsePrefix [] chunks = .ok (messages.map fun m => (m, m.encode.length), [])) ∧
    (∀ (m : DoIpMessage) (part : List UInt8), m.WellFormed → part <+: m.encode → part ≠ m.encode →
      parsePrefix part = .ok none) ∧
    (∀ (b : List UInt8) (m : DoIpMessage), parse b = .ok m ↔ parsePrefix b = .ok (some (m, b.length))) ∧
    ∀ (b : List UInt8) (m : DoIpMessage), parse b = .ok m → m.encode = b := by
  refine ⟨fun messages chunks hvalid hstream => framed.receive_stream hvalid hstream, ?_, ?_, ?_⟩
  · exact fun m part hvalid hpart hne => parsePrefix_incomplete hvalid hpart hne
  · exact fun b m => parse_eq_ok.trans parsePrefix_all.symm
  · exact fun b m h => (parse_eq_ok.mp h).2

/-- Two packets, cut within the header of the first and the payload of the second. -/
theorem framing_exact_two :
    let messages : List DoIpMessage :=
      [⟨⟨0x02, 0xFD, .aliveCheckRequest, 0⟩, []⟩, ⟨⟨0x02, 0xFD, .unknown 0xABCD, 2⟩, [0x10, 0x20]⟩]
    Framing.receive parsePrefix []
        [[0x02, 0xFD, 0x00], [0x07, 0x00, 0x00, 0x00, 0x00, 0x02, 0xFD, 0xAB, 0xCD, 0x00, 0x00, 0x00, 0x02, 0x10],
          [0x20]] =
      .ok (messages.map fun m => (m, m.encode.length), []) := by
  intro messages
  have hvalid : ∀ m ∈ messages, m.WellFormed :=
    List.forall_mem_cons.mpr ⟨⟨⟨rfl, rfl, by decide⟩, rfl⟩,
      List.forall_mem_singleton.mpr ⟨⟨rfl, rfl, by decide⟩, rfl⟩⟩
  exact framing_exact.1 messages _ hvalid (by decide)

end DoIpMessage

/-! ### The transport -/

namespace DoIpStreamTransport

theorem takeExact_enough {n : Nat} {pieces : List (List UInt8)} (h : n ≤ pieces.flatten.length) :
    ∃ rest, takeExact n pieces = some (pieces.flatten.take n, rest) ∧ rest.flatten = pieces.flatten.drop n := by
  induction pieces generalizing n with
  | nil =>
    obtain rfl := Nat.le_zero.mp h
    exact ⟨[], rfl, rfl⟩
  | cons piece pieces ih =>
    cases n with
    | zero => exact ⟨piece :: pieces, rfl, rfl⟩
    | succ n =>
      rw [List.flatten_cons, List.length_append] at h
      rw [List.flatten_cons]
      by_cases hpiece : n + 1 ≤ piece.length
      · refine ⟨piece.drop (n + 1) :: pieces, ?_, ?_⟩
        · rw [takeExact, if_pos hpiece, List.take_append_of_le_length hpiece]
        · rw [List.flatten_cons, List.drop_append_of_le_length hpiece]
      · obtain ⟨rest, htake, hrest⟩ := ih (n := n + 1 - piece.length) (by omega)
        have hle : piece.length ≤ n + 1 := by omega
        refine ⟨rest, ?_, ?_⟩
        · rw [takeExact, if_neg hpiece, htake, List.take_append, List.take_of_length_le hle]
        · rw [hrest, List.drop_append, List.drop_of_length_le hle, List.nil_append]

theorem takeExact_short {n : Nat} {pieces : List (List UInt8)} (h : pieces.flatten.length < n) :
    takeExact n pieces = none := by
  induction pieces generalizing n with
  | nil =>
    cases n with
    | zero => cases h
    | succ n => rfl
  | cons piece pieces ih =>
    cases n with
    | zero => cases h
    | succ n =>
      rw [List.flatten_cons, List.length_append] at h
      have hpiece : ¬ n + 1 ≤ piece.length := by omega
      rw [takeExact, if_neg hpiece, ih (by omega)]

theorem readExact_enough {n : Nat} {stream : DoIpStreamTransport} (h : n ≤ stream.incoming.flatten.length) :
    ∃ stream', (readExact n).run stream = (.ok (stream.incoming.flatten.take n), stream') ∧
      stream'.incoming.flatten = stream.incoming.flatten.drop n := by
  obtain ⟨rest, htake, hrest⟩ := takeExact_enough h
  refine ⟨{stream with incoming := rest}, ?_, hrest⟩
  rw [readExact, Async.run_bind_ok (Async.run_get stream), htake]
  rfl

theorem readExact_short {n : Nat} {stream : DoIpStreamTransport} (h : stream.incoming.flatten.length < n) :
    ((readExact n).run stream).1 = .error (.io "early eof") := by
  rw [readExact, Async.run_bind_ok (Async.run_get stream), takeExact_short h]
  rfl

/-- The header is in the first eight bytes. -/
theorem parse_take {bytes : List UInt8} (h : doIpHeaderLen ≤ bytes.length) :
    DoIpHeader.parse (bytes.take doIpHeaderLen) = DoIpHeader.parse bytes := by
  match bytes with
  | _ :: _ :: _ :: _ :: _ :: _ :: _ :: _ :: _ => rfl
  | [] | [_] | [_, _] | [_, _, _] | [_, _, _, _] | [_, _, _, _, _] | [_, _, _, _, _, _]
  | [_, _, _, _, _, _, _] => simp [doIpHeaderLen] at h

/-- **Receiving is parsing a prefix of all that will arrive**: it takes a packet off, or fails as
the parser does, and an incomplete packet is the end of the stream. -/
theorem recv_eq (stream : DoIpStreamTransport) :
    match DoIpMessage.parsePrefix stream.incoming.flatten with
    | .ok (some (message, consumed)) => ∃ stream', recv.run stream = (.ok message, stream') ∧
        stream'.incoming.flatten = stream.incoming.flatten.drop consumed
    | .ok none => (recv.run stream).1 = .error (.io "early eof")
    | .error e => (recv.run stream).1 = .error e := by
  generalize hbytes : stream.incoming.flatten = bytes
  by_cases hheader : bytes.length < doIpHeaderLen
  · rw [DoIpMessage.parsePrefix, if_pos hheader]
    have hread := readExact_short (hbytes ▸ hheader)
    rw [recv, Async.run_bind]
    cases hrun : (readExact doIpHeaderLen).run stream with
    | mk outcome stream' =>
      rw [hrun] at hread
      obtain rfl : outcome = _ := hread
      rfl
  · obtain ⟨afterHeader, hread, hrest⟩ := readExact_enough (hbytes ▸ Nat.le_of_not_lt hheader)
    rw [DoIpMessage.parsePrefix, if_neg hheader, recv, Async.run_bind_ok hread, hbytes,
      parse_take (Nat.le_of_not_lt hheader)]
    rw [hbytes] at hrest
    cases DoIpHeader.parse bytes with
    | error e => rfl
    | ok header =>
      dsimp only
      rw [Async.lift_ok, Async.run_bind_ok (Async.run_pure header afterHeader)]
      by_cases hbody : bytes.length < doIpHeaderLen + header.payloadLength.toNat
      · have hshort : afterHeader.incoming.flatten.length < header.payloadLength.toNat := by
          rw [hrest, List.length_drop]
          omega
        have hread := readExact_short hshort
        rw [if_pos hbody, Async.run_bind]
        cases hrun : (readExact header.payloadLength.toNat).run afterHeader with
        | mk outcome stream' =>
          rw [hrun] at hread
          obtain rfl : outcome = _ := hread
          rfl
      · have hlong : header.payloadLength.toNat ≤ afterHeader.incoming.flatten.length := by
          rw [hrest, List.length_drop]
          omega
        obtain ⟨stream', hread, hrest'⟩ := readExact_enough hlong
        rw [if_neg hbody, Async.run_bind_ok hread]
        refine ⟨stream', ?_, ?_⟩
        · rw [hrest, List.drop_take, Nat.add_sub_cancel_left]
          rfl
        · rw [hrest', hrest, List.drop_drop]

/-- A packet that was sent is received at the other end, whatever follows it. -/
theorem recv_send {message : DoIpMessage} (h : message.WellFormed) (sender receiver : DoIpStreamTransport)
    (rest : List UInt8)
    (harrives : sender.written ++ receiver.incoming.flatten = ((send message).run sender).2.written ++ rest) :
    ∃ receiver', recv.run receiver = (.ok message, receiver') ∧ receiver'.incoming.flatten = rest := by
  have hwritten : ((send message).run sender).2.written = sender.written ++ message.encode := by
    rw [DoIpMessage.encode, ← List.append_assoc]
    rfl
  rw [hwritten, List.append_assoc, List.append_cancel_left_eq] at harrives
  have hrecv := recv_eq receiver
  rw [harrives, DoIpMessage.parsePrefix_encode h] at hrecv
  obtain ⟨receiver', hrun, hrest⟩ := hrecv
  exact ⟨receiver', hrun, by rw [hrest, List.drop_left]⟩

end DoIpStreamTransport

end Obd2
