import Obd2.Protocol.J1939.Dm.Entries

/-! DM24 and DM25 payloads, both ways.

Freeze frames stand one after the other, each as long as its first byte says, and filling ends
them: nothing but 0xFF, or a length of zero (`Stops`). From any place of a payload the parser stops,
fails, or takes one frame, whose encoding is the bytes it takes (`parse_cases`); so what it took in a
whole run is the encoding of what it returns, and it never looks past the end
(`freezeFrames_exact`). -/
namespace Obd2.J1939

/-! ### Places of a payload -/

/-- No frame starts here. -/
def Stops (rest : List UInt8) : Prop := (∀ b ∈ rest, b = 0xFF) ∨ rest.head? = some 0x00

/-- The part between what comes before and what comes after. -/
theorem slice?_part {data part : List UInt8} (front rest : List UInt8) {start stop : Nat}
    (hdata : data = front ++ (part ++ rest)) (hstart : front.length = start)
    (hstop : start + part.length = stop) : slice? data start stop = some part := by
  subst hdata hstart hstop
  have hbounds : front.length ≤ front.length + part.length ∧
      front.length + part.length ≤ (front ++ (part ++ rest)).length := by
    simp only [List.length_append]
    omega
  rw [slice?, if_pos hbounds, List.drop_left, Nat.add_sub_cancel_left, List.take_left]

theorem slice?_rest (front rest : List UInt8) :
    slice? (front ++ rest) front.length (front ++ rest).length = some rest :=
  slice?_part front [] (by rw [List.append_nil]) rfl List.length_append.symm

theorem all_filling {bytes : List UInt8} : bytes.all (· == 0xFF) = true ↔ ∀ b ∈ bytes, b = 0xFF := by simp

/-- What the encoding of a frame is made of. -/
theorem Dm25FreezeFrame.toPayload_eq {frame : Dm25FreezeFrame} {bytes : List UInt8} :
    frame.toPayload = .ok bytes ↔
      ∃ code, frame.dtc.toBytes = .ok code ∧ frame.length.toNat = 4 + frame.data.length ∧
        bytes = frame.length :: code.bytes ++ frame.data := by
  have hlt := frame.length.toNat_lt
  constructor
  · intro h
    rw [Dm25FreezeFrame.toPayload] at h
    split at h
    · nomatch h
    · split at h
      · nomatch h
      · next hlength =>
        obtain ⟨code, hcode, rfl⟩ := map_eq_ok h
        exact ⟨code, hcode, Decidable.not_not.mp hlength, rfl⟩
  · intro h
    obtain ⟨code, hcode, hlength, rfl⟩ := h
    rw [Dm25FreezeFrame.toPayload, if_neg (by omega), if_neg (by omega), hcode]
    rfl

section Places
variable {front : List UInt8} {frames : List Dm25FreezeFrame}

/-- The parser ends where no frame starts. -/
theorem parseDm25From_stops {rest : List UInt8} (h : Stops rest) :
    parseDm25From (front ++ rest) front.length frames = some (.ok ⟨frames⟩) := by
  match rest with
  | [] => rw [parseDm25From, if_neg (by simp)]
  | first :: tail =>
    have hfirst : (front ++ first :: tail)[front.length]? = some first := by simp
    rw [parseDm25From, if_pos (by simp), slice?_rest, hfirst]
    by_cases hfilling : (first :: tail).all (· == 0xFF)
    · simp only [Option.bind_eq_bind, Option.bind_some, if_pos hfilling]
    · have hzero : first.toNat = 0 := by
        rcases h with hall | hhead
        · exact absurd (all_filling.mpr hall) hfilling
        · rw [Option.some.inj hhead]
          rfl
      simp only [Option.bind_eq_bind, Option.bind_some, if_neg hfilling, if_pos hzero]

/-- A place where no frame could be. -/
def Fails (rest : List UInt8) : Prop :=
  ∃ first tail, rest = first :: tail ∧ ¬ Stops rest ∧ (first.toNat < 4 ∨ tail.length < first.toNat)

theorem parseDm25From_fails {rest : List UInt8} (h : Fails rest) :
    ∃ e, parseDm25From (front ++ rest) front.length frames = some (.error e) := by
  obtain ⟨first, tail, rfl, hstops, hlength⟩ := h
  have hfirst : (front ++ first :: tail)[front.length]? = some first := by simp
  have hfilling : ¬ (first :: tail).all (· == 0xFF) = true := fun hall => hstops (.inl (all_filling.mp hall))
  have hzero : ¬ first.toNat = 0 := by
    intro hzero
    have hzero : first = 0x00 := UInt8.toNat_inj.mp hzero
    exact hstops (.inr (by rw [hzero]; rfl))
  rw [parseDm25From, if_pos (by simp), slice?_rest, hfirst]
  simp only [Option.bind_eq_bind, Option.bind_some, if_neg hfilling, if_neg hzero]
  by_cases hshort : first.toNat < 4
  · exact ⟨_, if_pos hshort⟩
  · have hpast : front.length + (1 + first.toNat) > (front ++ first :: tail).length := by
      simp only [List.length_append, List.length_cons]
      omega
    exact ⟨_, by rw [if_neg hshort, if_pos hpast]⟩

section Frame
variable {length : UInt8} {code : FourBytes} {record after : List UInt8}

/-- The bytes of the trouble code in a frame. -/
theorem slice?_code :
    slice? (front ++ (length :: code.bytes ++ record ++ after)) (front.length + 1) (front.length + 5) =
      some code.bytes :=
  slice?_part (front ++ [length]) (record ++ after) (by simp) (by simp) (by simp)

/-- The bytes after it, as far as the frame goes. -/
theorem slice?_record (hlength : length.toNat = 4 + record.length) :
    slice? (front ++ (length :: code.bytes ++ record ++ after)) (front.length + 5)
      (front.length + (1 + length.toNat)) = some record :=
  slice?_part (front ++ length :: code.bytes) after (by simp) (by simp) (by omega)

end Frame

/-- A frame is taken as a whole. -/
theorem parseDm25From_frame {frame : Dm25FreezeFrame} {bytes after : List UInt8}
    (hframe : frame.toPayload = .ok bytes) (hfilling : ¬ ∀ b ∈ bytes ++ after, b = 0xFF) :
    parseDm25From (front ++ (bytes ++ after)) front.length frames =
      parseDm25From ((front ++ bytes) ++ after) (front ++ bytes).length (frames ++ [frame]) := by
  obtain ⟨code, hcode, hlength, rfl⟩ := Dm25FreezeFrame.toPayload_eq.mp hframe
  let data := front ++ (frame.length :: code.bytes ++ frame.data ++ after)
  have hinside : front.length < data.length := by simp [data]
  have hfirst : data[front.length]? = some frame.length := by simp [data]
  have hall : ¬ (frame.length :: code.bytes ++ frame.data ++ after).all (· == 0xFF) = true :=
    fun hall => hfilling (all_filling.mp hall)
  have hzero : ¬ frame.length.toNat = 0 := by omega
  have hshort : ¬ frame.length.toNat < 4 := by omega
  have hplace : front.length + (1 + frame.length.toNat) =
      (front ++ (frame.length :: code.bytes ++ frame.data)).length := by
    simp only [List.length_append, List.length_cons, FourBytes.length_bytes]
    omega
  have hstop : ¬ front.length + (1 + frame.length.toNat) > data.length := by
    simp only [data, List.length_append, List.length_cons, FourBytes.length_bytes]
    omega
  show parseDm25From data front.length frames = _
  rw [parseDm25From, if_pos hinside, slice?_rest, hfirst]
  simp only [Option.bind_eq_bind, Option.bind_some, if_neg hall, if_neg hzero, if_neg hshort, if_neg hstop,
    data, slice?_code, slice?_record hlength, J1939Dtc.toBytes_fromBytes hcode]
  rw [hplace, List.append_assoc front]

/-- From every place the parser stops, fails or takes a frame. -/
theorem parse_cases (rest : List UInt8) :
    Stops rest ∨ Fails rest ∨
      ∃ (frame : Dm25FreezeFrame) (bytes after : List UInt8),
        rest = bytes ++ after ∧ frame.toPayload = .ok bytes ∧ ¬ ∀ b ∈ bytes ++ after, b = 0xFF := by
  by_cases hstops : (∀ b ∈ rest, b = 0xFF) ∨ rest.head? = some 0x00
  · exact .inl hstops
  · obtain ⟨hfilling, hzero⟩ := not_or.mp hstops
    match rest with
    | [] => exact absurd (by simp) hfilling
    | first :: tail =>
      by_cases hlength : first.toNat < 4 ∨ tail.length < first.toNat
      · exact .inr (.inl ⟨first, tail, rfl, hstops, hlength⟩)
      · match tail with
        | b0 :: b1 :: b2 :: b3 :: others =>
          obtain ⟨dtc, -, hcode⟩ := J1939Dtc.fromBytes_toBytes ⟨b0, b1, b2, b3⟩
          have hrecord : (others.take (first.toNat - 4)).length = first.toNat - 4 := by
            simp only [List.length_cons] at hlength
            rw [List.length_take]
            omega
          have hparts : first :: b0 :: b1 :: b2 :: b3 :: others =
              (first :: FourBytes.bytes ⟨b0, b1, b2, b3⟩ ++ others.take (first.toNat - 4)) ++
                others.drop (first.toNat - 4) := by
            simp [FourBytes.bytes]
          have hwhole : first.toNat = 4 + (others.take (first.toNat - 4)).length := by
            rw [hrecord]
            omega
          refine .inr (.inr ⟨⟨first, dtc, others.take (first.toNat - 4)⟩, _, _, hparts, ?_, hparts ▸ hfilling⟩)
          exact Dm25FreezeFrame.toPayload_eq.mpr ⟨_, hcode, hwhole, rfl⟩
        | [] | [_] | [_, _] | [_, _, _] =>
          simp only [List.length_cons, List.length_nil] at hlength
          omega

/-- A run over a rest fails, or takes frames whose encoding is what lies before the place it stops. -/
theorem parseDm25From_run (rest front : List UInt8) (frames : List Dm25FreezeFrame) :
    (∃ e, parseDm25From (front ++ rest) front.length frames = some (.error e)) ∨
      ∃ taken consumed after, rest = consumed ++ after ∧ Stops after ∧
        encodeAll Dm25FreezeFrame.toPayload taken = .ok consumed ∧
        parseDm25From (front ++ rest) front.length frames = some (.ok ⟨frames ++ taken⟩) := by
  rcases parse_cases rest with hstops | hfails | hframe
  · exact .inr ⟨[], [], rest, rfl, hstops, rfl, by rw [parseDm25From_stops hstops, List.append_nil]⟩
  · exact .inl (parseDm25From_fails hfails)
  · obtain ⟨frame, bytes, after, rfl, hframe, hfilling⟩ := hframe
    have hshorter : after.length < (bytes ++ after).length := by
      obtain ⟨code, -, -, rfl⟩ := Dm25FreezeFrame.toPayload_eq.mp hframe
      simp only [List.length_append, List.length_cons]
      omega
    rw [parseDm25From_frame hframe hfilling]
    rcases parseDm25From_run after (front ++ bytes) (frames ++ [frame]) with herror | htaken
    · exact .inl herror
    · obtain ⟨taken, consumed, last, rfl, hstops, hencoded, hparsed⟩ := htaken
      refine .inr ⟨frame :: taken, bytes ++ consumed, last, ?_, hstops, encodeAll_cons hframe hencoded, ?_⟩
      · rw [List.append_assoc]
      · rw [hparsed, List.append_assoc]
        rfl
termination_by rest.length

/-- Frames whose last is not taken for filling are not taken for filling. -/
theorem encodeAll_not_filling {payload : List UInt8} {taken : List Dm25FreezeFrame} (hne : taken ≠ [])
    (hencoded : encodeAll Dm25FreezeFrame.toPayload taken = .ok payload)
    (hlast : ∀ frame ∈ taken.getLast?, ∀ bytes, frame.toPayload = .ok bytes → ¬ ∀ b ∈ bytes, b = 0xFF) :
    ¬ ∀ b ∈ payload, b = 0xFF := by
  induction taken generalizing payload with
  | nil => exact absurd rfl hne
  | cons frame taken ih =>
    obtain ⟨bytes, others, hframe, hothers, rfl⟩ := encodeAll_cons_inv hencoded
    intro hall
    match taken with
    | [] => exact hlast frame rfl bytes hframe fun b hb => hall b (List.mem_append_left _ hb)
    | next :: taken =>
      have hlast' : (frame :: next :: taken).getLast? = (next :: taken).getLast? := List.getLast?_cons_cons ..
      exact ih (List.cons_ne_nil _ _) hothers (hlast' ▸ hlast) fun b hb => hall b (List.mem_append_right _ hb)

/-- The encoding of frames is parsed to them. -/
theorem parseDm25From_encodeAll {payload : List UInt8} {taken : List Dm25FreezeFrame} (front : List UInt8)
    (frames : List Dm25FreezeFrame) (hencoded : encodeAll Dm25FreezeFrame.toPayload taken = .ok payload)
    (hlast : ∀ frame ∈ taken.getLast?, ∀ bytes, frame.toPayload = .ok bytes → ¬ ∀ b ∈ bytes, b = 0xFF) :
    parseDm25From (front ++ payload) front.length frames = some (.ok ⟨frames ++ taken⟩) := by
  induction taken generalizing payload front frames with
  | nil =>
    obtain rfl := Except.ok.inj hencoded
    rw [parseDm25From_stops (.inl (by simp)), List.append_nil]
  | cons frame taken ih =>
    have hfilling := encodeAll_not_filling (List.cons_ne_nil _ _) hencoded hlast
    obtain ⟨bytes, others, hframe, hothers, rfl⟩ := encodeAll_cons_inv hencoded
    have hlast : ∀ frame ∈ taken.getLast?, ∀ bytes, frame.toPayload = .ok bytes → ¬ ∀ b ∈ bytes, b = 0xFF := by
      intro last hmem
      cases taken with
      | nil => nomatch hmem
      | cons next taken => exact hlast last (by rw [List.getLast?_cons_cons]; exact hmem)
    rw [parseDm25From_frame hframe hfilling, ih _ _ hothers hlast, List.append_assoc]
    rfl

end Places

/-! ### Supported SPNs -/

/-- An entry that stands for nothing. -/
def noEntry : FourBytes := ⟨0xFF, 0xFF, 0xFF, 0xFF⟩

/-- A supported SPN is its four bytes. -/
theorem dm24Codec : EntryCodec parseDm24Entry Dm24Entry.toPayload where
  parses := parseDm24Entry_toPayload
  encodes _ _ h := Dm24Entry.toPayload_parse h

theorem parseDm24_entries (entries : List FourBytes) :
    parseDm24 (entries.flatMap FourBytes.bytes) =
      (parseEntries (· == noEntry) parseDm24Entry entries).map Dm24.mk := by
  have hchunks := chunksExact_append entries (show ([] : List UInt8).length < 4 by decide)
  rw [List.append_nil] at hchunks
  rw [parseDm24, hchunks]
  rfl

/-- A payload that is accepted is encoded without the entries that stand for nothing. -/
theorem encodeDm24_parse {data : List UInt8} {message : Dm24} (h : parseDm24 data = .ok message) :
    ∃ entries : List FourBytes, data = entries.flatMap FourBytes.bytes ∧
      encodeDm24 message = .ok ((entries.filter (· ≠ noEntry)).flatMap FourBytes.bytes) := by
  have hwhole : (chunksExact data).2 = [] := by
    by_cases hempty : (chunksExact data).2.isEmpty
    · exact List.isEmpty_iff.mp hempty
    · rw [parseDm24] at h
      simp [hempty] at h
  have hdata := (chunksExact_spec data).1
  rw [hwhole, List.append_nil] at hdata
  obtain ⟨entries, hparsed, hencoded⟩ :=
    @EntryCodec.parse_encode _ (· == noEntry) _ _ dm24Codec (chunksExact data).1
  refine ⟨(chunksExact data).1, hdata, ?_⟩
  rw [hdata, parseDm24_entries, hparsed] at h
  obtain rfl := Except.ok.inj h
  rw [encodeDm24, Dm24.toPayload, hencoded, kept]
  congr 3
  funext entry
  by_cases hnone : entry = noEntry
  · simp [hnone]
  · simp [hnone, beq_false_of_ne hnone]

/-- A list of which nothing stands for nothing is read back from its encoding. -/
theorem parseDm24_encode {message : Dm24} {payload : List UInt8} (h : encodeDm24 message = .ok payload)
    (hentries : ∀ entry ∈ message.entries, entry.toPayload ≠ .ok noEntry) : parseDm24 payload = .ok message := by
  have hkept : ∀ entry ∈ message.entries, ∀ chunk, entry.toPayload = .ok chunk → (chunk == noEntry) = false := by
    intro entry hentry chunk hchunk
    apply beq_false_of_ne
    intro hnone
    exact hentries entry hentry (hnone ▸ hchunk)
  obtain ⟨entries, rfl, hparsed⟩ := dm24Codec.encode_parse h hkept
  rw [parseDm24_entries, hparsed]
  rfl

/-- **DM24 and DM25 are exact.** The parser of freeze frames never reads past the end; what it
accepts is the encoding of its result and then filling; and frames whose last is not taken for
filling are read back from their encoding. Supported SPNs are encoded as the payload they were read
from without the entries that stand for nothing, and read back where there are none. -/
theorem freezeFrames_exact :
    (∀ data, parseDm25 data ≠ none) ∧
      (∀ data message, parseDm25 data = some (.ok message) →
        ∃ consumed rest, data = consumed ++ rest ∧ encodeDm25 message = .ok consumed ∧ Stops rest) ∧
      (∀ message payload, encodeDm25 message = .ok payload →
        (∀ frame ∈ message.frames.getLast?, ∀ bytes, frame.toPayload = .ok bytes → ¬ ∀ b ∈ bytes, b = 0xFF) →
          parseDm25 payload = some (.ok message)) ∧
      (∀ data message, parseDm24 data = .ok message →
        ∃ entries : List FourBytes, data = entries.flatMap FourBytes.bytes ∧
          encodeDm24 message = .ok ((entries.filter (· ≠ noEntry)).flatMap FourBytes.bytes)) ∧
      ∀ message payload, encodeDm24 message = .ok payload →
        (∀ entry ∈ message.entries, entry.toPayload ≠ .ok noEntry) → parseDm24 payload = .ok message := by
  refine ⟨?_, ?_, ?_, fun data message h => encodeDm24_parse h, fun message payload h hentries =>
    parseDm24_encode h hentries⟩
  · intro data
    rcases parseDm25From_run data [] [] with herror | htaken
    · obtain ⟨e, herror⟩ := herror
      exact fun hnone => nomatch herror.symm.trans hnone
    · obtain ⟨taken, -, -, -, -, -, hparsed⟩ := htaken
      exact fun hnone => nomatch hparsed.symm.trans hnone
  · intro data message h
    rcases parseDm25From_run data [] [] with herror | htaken
    · obtain ⟨e, herror⟩ := herror
      exact nomatch herror.symm.trans h
    · obtain ⟨taken, consumed, rest, hdata, hstops, hencoded, hparsed⟩ := htaken
      obtain rfl := Except.ok.inj (Option.some.inj (hparsed.symm.trans h))
      exact ⟨consumed, rest, hdata, hencoded, hstops⟩
  · intro message payload hencoded hlast
    exact parseDm25From_encodeAll [] [] hencoded hlast

end Obd2.J1939
