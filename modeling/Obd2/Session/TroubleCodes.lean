import Obd2.Session.Requests

/-! Trouble codes as the ECUs report them, and what a session reads.

The services 03, 07 and 0A share one decoder, which takes the bytes of one payload pair by
pair. `read_payload` is what they come to. On a bus without a count byte an answer may have
a line for every three codes, and only the first is read (`codes_read_iff`); on CAN a count
byte comes first, and is read as half of a code (`counted_codes_read_iff`). -/
namespace Obd2.Session
open ElmCodec Elm327Adapter

/-- A trouble code on the wire. -/
structure TroubleCode where
  high : UInt8
  low : UInt8
  nonzero : ¬ (high = 0 ∧ low = 0)

namespace TroubleCode

def bytes (code : TroubleCode) : List UInt8 := [code.high, code.low]

/-- The code as the library reports it. -/
def dtc (status : DtcStatus) (code : TroubleCode) : Dtc := {Dtc.fromBytes code.high code.low with status}

end TroubleCode

/-- The services that report trouble codes. -/
inductive DtcService where
  | stored
  | pending
  | permanent
  deriving DecidableEq, Repr

namespace DtcService

def id : DtcService → UInt8
  | stored => 0x03
  | pending => 0x07
  | permanent => 0x0A

def status : DtcService → DtcStatus
  | stored => .stored
  | pending => .pending
  | permanent => .permanent

def request (service : DtcService) : ServiceRequest := ⟨service.id, [], .broadcast⟩

/-- `read_dtcs`, `read_pending_dtcs` and `read_permanent_dtcs`. -/
def read {A : Type} [Adapter A] : DtcService → Op A (List Dtc)
  | stored => readDtcs
  | pending => readPendingDtcs
  | permanent => readPermanentDtcs

theorem read_eq {A : Type} [Adapter A] (service : DtcService) :
    (service.read : Op A (List Dtc)) = (do
      ensureInitialized
      readDtcsWithTarget service.id service.status .broadcast none) := by
  cases service <;> rfl

theorem skipOf_id (service : DtcService) : skipOf service.id = 1 := by
  cases service <;> rfl

theorem truncate_id (service : DtcService) (payload : List UInt8) :
    truncateKnownPayload service.id [] payload = payload := by
  cases service <;> rfl

end DtcService

/-! ### The pair decoder -/

section Decoder
variable {status : DtcStatus}

theorem decode_zeros (status : DtcStatus) (n : Nat) :
    Modes.decodeDtcBytes status (List.replicate n 0) = [] := by
  induction n using Nat.strongRecOn with
  | ind n ih =>
    match n with
    | 0 => rfl
    | 1 => rfl
    | n + 2 =>
      rw [List.replicate_succ, List.replicate_succ, Modes.decodeDtcBytes, if_pos ⟨rfl, rfl⟩]
      exact ih n (by omega)

theorem bytes_codes_cons (code : TroubleCode) (rest : List TroubleCode) (tail : List UInt8) :
    (code :: rest).flatMap TroubleCode.bytes ++ tail =
      code.high :: code.low :: (rest.flatMap TroubleCode.bytes ++ tail) := by
  rw [List.flatMap_cons, List.append_assoc]
  rfl

/-- Codes followed by empty slots. -/
theorem decode_codes (codes : List TroubleCode) (n : Nat) :
    Modes.decodeDtcBytes status (codes.flatMap TroubleCode.bytes ++ List.replicate n 0) =
      codes.map (TroubleCode.dtc status) := by
  induction codes with
  | nil => exact decode_zeros status n
  | cons code rest ih =>
    rw [bytes_codes_cons, Modes.decodeDtcBytes, if_neg code.nonzero, ih, List.map_cons]
    rfl

theorem dtc_eq_iff {a b a' b' : UInt8} :
    ({Dtc.fromBytes a b with status} : Dtc) = {Dtc.fromBytes a' b' with status} ↔ a = a' ∧ b = b' := by
  constructor
  · intro h
    have hcode := congrArg Dtc.code h
    exact Dtc.fromBytes_injective hcode
  · rintro ⟨rfl, rfl⟩
    rfl

/-- A byte in front of the codes shifts every pair; what is read are the same codes only if
all their bytes are that byte. -/
theorem decode_shifted (codes : List TroubleCode) (padding : Nat) {x : UInt8} (hx : x ≠ 0) :
    Modes.decodeDtcBytes status (x :: (codes.flatMap TroubleCode.bytes ++ List.replicate padding 0)) =
        codes.map (TroubleCode.dtc status) ↔
      padding = 0 ∧ ∀ code ∈ codes, code.high = x ∧ code.low = x := by
  induction codes with
  | nil =>
    cases padding with
    | zero => simp [Modes.decodeDtcBytes]
    | succ n => simp [List.replicate_succ, Modes.decodeDtcBytes, hx]
  | cons code rest ih =>
    have hpair : ¬ (x = 0 ∧ code.high = 0) := fun h => hx h.1
    rw [bytes_codes_cons, Modes.decodeDtcBytes, if_neg hpair, List.map_cons, List.cons.injEq, TroubleCode.dtc,
      dtc_eq_iff, List.forall_mem_cons]
    constructor
    · rintro ⟨⟨rfl, hlow⟩, hrest⟩
      rw [← hlow] at hrest
      obtain ⟨hpadding, hcodes⟩ := ih.mp hrest
      exact ⟨hpadding, ⟨rfl, hlow.symm⟩, hcodes⟩
    · rintro ⟨hpadding, ⟨hhigh, hlow⟩, hcodes⟩
      rw [hlow]
      exact ⟨⟨hhigh.symm, hhigh⟩, ih.mpr ⟨hpadding, hcodes⟩⟩

end Decoder

/-! ### Reading -/

section Reading
variable {L : Type} [Link L] {s : Session (Elm327Adapter L)} {service : DtcService} {response : Text}

/-- The data of every line after the acknowledged service. -/
abbrev ReadsData (service : DtcService) (response : Text) (rests : List (List UInt8)) : Prop :=
  Reads ((service.id :: ([] : List UInt8)).flatMap Text.hexByte) (responseLines response)
    (rests.map (acknowledged service.id [] 1 ++ ·))

/-- **The first payload is what is read**, pair by pair. -/
theorem read_payload (h : Answered s service.request response) {first : List UInt8}
    {rests : List (List UInt8)} (hnonempty : ∀ rest ∈ first :: rests, rest ≠ [])
    (hreads : ReadsData service response (first :: rests)) :
    (service.read.run s).1 = .ok (Modes.decodeDtcBytes service.status first) := by
  have hskip := service.skipOf_id
  obtain ⟨s', hanswer⟩ := sendRequest_payload h (Nat.le_of_eq hskip) hnonempty (hskip.symm ▸ hreads)
  have hsend : (sendRequest ⟨service.id, [], .broadcast⟩).run s = (.ok first, s') := by
    rw [← service.truncate_id first]
    exact hanswer
  rw [service.read_eq, Async.run_bind_ok (ensureInitialized_ready h.initialized), readDtcsWithTarget,
    Async.run_bind_ok hsend]
  rfl

/-- An answer without lines is an error. -/
theorem read_nothing (h : Answered s service.request response) (hreads : ReadsData service response []) :
    ∃ e, (service.read.run s).1 = .error e := by
  have hskip := service.skipOf_id
  obtain ⟨e, he⟩ := decodeResponse_of_no_payloads (by omega) (Nat.le_of_eq hskip)
    (fun bytes hbytes => absurd hbytes List.not_mem_nil) hreads
  obtain ⟨family, s', hanswer⟩ := sendRequest_answered h (reads_no_fault hreads)
  have hsend : (sendRequest ⟨service.id, [], .broadcast⟩).run s = (.error e, s') := by
    rw [← Outcome.ofExcept, ← he family]
    exact hanswer
  refine ⟨e, ?_⟩
  rw [service.read_eq, Async.run_bind_ok (ensureInitialized_ready h.initialized), readDtcsWithTarget,
    Async.run_bind_error hsend]

/-! ### Lines of three codes -/

/-- A line of an answer without count byte: up to three codes, and empty slots. -/
structure DtcLine where
  codes : List TroubleCode
  fits : codes.length ≤ 3

def DtcLine.bytes (line : DtcLine) : List UInt8 :=
  line.codes.flatMap TroubleCode.bytes ++ List.replicate (6 - 2 * line.codes.length) 0

theorem DtcLine.bytes_ne_nil (line : DtcLine) : line.bytes ≠ [] := by
  unfold DtcLine.bytes
  cases hcodes : line.codes with
  | nil => simp [List.replicate_succ]
  | cons code rest => simp [TroubleCode.bytes]

/-- **The codes of an answer are read exactly if its first line has all of them.** -/
theorem codes_read_iff (h : Answered s service.request response) (lines : List DtcLine)
    (hreads : ReadsData service response (lines.map DtcLine.bytes)) :
    (service.read.run s).1 =
        .ok (lines.flatMap fun line => line.codes.map (TroubleCode.dtc service.status)) ↔
      lines ≠ [] ∧ ∀ line ∈ lines.tail, line.codes = [] := by
  cases lines with
  | nil =>
    obtain ⟨e, he⟩ := read_nothing h hreads
    rw [he]
    simp
  | cons first rest =>
    have hnonempty : ∀ bytes ∈ (first :: rest).map DtcLine.bytes, bytes ≠ [] := by
      intro bytes hbytes
      obtain ⟨line, -, rfl⟩ := List.mem_map.mp hbytes
      exact line.bytes_ne_nil
    rw [read_payload h hnonempty hreads, DtcLine.bytes, decode_codes, List.flatMap_cons]
    simp

end Reading

/-- Two codes on one line are read. -/
theorem codes_read_one_line :
    let session := readySession (.iso9141 .slowInit) [("03".toList, "43 01 33 01 71 00 00\r\r>".toList)]
    let codes : List TroubleCode := [⟨0x01, 0x33, by decide⟩, ⟨0x01, 0x71, by decide⟩]
    (DtcService.stored.read.run session).1 = .ok (codes.map (TroubleCode.dtc .stored)) := by
  intro session codes
  have hreads : ReadsData .stored "43 01 33 01 71 00 00\r\r>".toList
      ([(⟨codes, by decide⟩ : DtcLine)].map DtcLine.bytes) :=
    .bytes rfl (.skipped rfl (.skipped rfl .nil))
  have hanswered : Answered session DtcService.stored.request "43 01 33 01 71 00 00\r\r>".toList :=
    ⟨rfl, rfl, _, rfl, _, _, rfl, rfl⟩
  exact (codes_read_iff hanswered [⟨codes, by decide⟩] hreads).mpr
    ⟨List.cons_ne_nil _ _, fun line hline => absurd hline List.not_mem_nil⟩

/-- Two ECUs, or two lines of one, report a code each: the second is lost. -/
theorem second_line_lost :
    let response := "43 01 33 00 00 00 00\r43 01 71 00 00 00 00\r\r>".toList
    let session := readySession (.iso9141 .slowInit) [("03".toList, response)]
    let first : DtcLine := ⟨[⟨0x01, 0x33, by decide⟩], by decide⟩
    let second : DtcLine := ⟨[⟨0x01, 0x71, by decide⟩], by decide⟩
    Answered session DtcService.stored.request response ∧
      ReadsData .stored response ([first, second].map DtcLine.bytes) ∧
      (readDtcs.run session).1 = .ok [TroubleCode.dtc .stored ⟨0x01, 0x33, by decide⟩] ∧
      (readDtcs.run session).1 ≠
        .ok ([first, second].flatMap fun line => line.codes.map (TroubleCode.dtc .stored)) := by
  intro response session first second
  have hanswered : Answered session DtcService.stored.request response :=
    ⟨rfl, rfl, _, rfl, _, _, rfl, rfl⟩
  have hreads : ReadsData .stored response ([first, second].map DtcLine.bytes) :=
    .bytes rfl (.bytes rfl (.skipped rfl (.skipped rfl .nil)))
  have hread : (readDtcs.run session).1 = .ok [TroubleCode.dtc .stored ⟨0x01, 0x33, by decide⟩] :=
    (read_payload hanswered (by simp [DtcLine.bytes_ne_nil]) hreads).trans
      (congrArg Outcome.ok (decode_codes first.codes 4))
  refine ⟨hanswered, hreads, hread, ?_⟩
  rw [hread]
  intro heq
  have hlength := congrArg List.length (Outcome.ok.inj heq)
  simp [first, second] at hlength

/-! ### A count byte -/

section Counted
variable {L : Type} [Link L] {s : Session (Elm327Adapter L)} {service : DtcService} {response : Text}

/-- **The codes after a count byte are read exactly if there are none, or if every byte of them
is the count and nothing follows.** -/
theorem counted_codes_read_iff (h : Answered s service.request response) (codes : List TroubleCode)
    (hcount : codes.length ≤ 255) (padding : Nat)
    (hreads : ReadsData service response [UInt8.ofNat codes.length ::
      (codes.flatMap TroubleCode.bytes ++ List.replicate padding 0)]) :
    (service.read.run s).1 = .ok (codes.map (TroubleCode.dtc service.status)) ↔
      codes = [] ∨ (padding = 0 ∧ ∀ code ∈ codes, code.high = UInt8.ofNat codes.length ∧
        code.low = UInt8.ofNat codes.length) := by
  rw [read_payload h (by simp) hreads]
  cases codes with
  | nil =>
    have hzeros := decode_zeros service.status (padding + 1)
    rw [List.replicate_succ] at hzeros
    simpa using hzeros
  | cons code rest =>
    have hcount : UInt8.ofNat (code :: rest).length ≠ 0 := by
      intro hzero
      have := congrArg UInt8.toNat hzero
      rw [UInt8.toNat_ofNat'] at this
      simp at this
      simp at hcount
      omega
    rw [Outcome.ok.injEq, decode_shifted (code :: rest) padding hcount]
    simp

end Counted

/-- An empty list of codes is read after its count. -/
theorem counted_codes_none :
    let session := readySession .can11Bit500 [("03".toList, "43 00\r\r>".toList)]
    (DtcService.stored.read.run session).1 = .ok [] := by
  intro session
  have hreads : ReadsData .stored "43 00\r\r>".toList [UInt8.ofNat ([] : List TroubleCode).length ::
      (([] : List TroubleCode).flatMap TroubleCode.bytes ++ List.replicate 0 0)] :=
    .bytes rfl (.skipped rfl (.skipped rfl .nil))
  have hanswered : Answered session DtcService.stored.request "43 00\r\r>".toList :=
    ⟨rfl, rfl, _, rfl, _, _, rfl, rfl⟩
  exact (counted_codes_read_iff hanswered [] (by decide) 0 hreads).mpr (.inl rfl)

/-- The count and the first half of P0133 are read as P0101. -/
theorem count_read_as_code :
    let response := "43 01 01 33\r\r>".toList
    let session := readySession .can11Bit500 [("03".toList, response)]
    let codes : List TroubleCode := [⟨0x01, 0x33, by decide⟩]
    Answered session DtcService.stored.request response ∧
      ReadsData .stored response [UInt8.ofNat codes.length ::
        (codes.flatMap TroubleCode.bytes ++ List.replicate 0 0)] ∧
      (readDtcs.run session).1 = .ok [TroubleCode.dtc .stored ⟨0x01, 0x01, by decide⟩] ∧
      (readDtcs.run session).1 ≠ .ok (codes.map (TroubleCode.dtc .stored)) := by
  intro response session codes
  have hanswered : Answered session DtcService.stored.request response :=
    ⟨rfl, rfl, _, rfl, _, _, rfl, rfl⟩
  have hline : Hex.parseHexLine "43 01 01 33".toList = .ok [0x43, 0x01, 0x01, 0x33] := by rfl
  have hreads : ReadsData .stored response [UInt8.ofNat codes.length ::
      (codes.flatMap TroubleCode.bytes ++ List.replicate 0 0)] :=
    .bytes hline (.skipped rfl (.skipped rfl .nil))
  have hread : (readDtcs.run session).1 = .ok [TroubleCode.dtc .stored ⟨0x01, 0x01, by decide⟩] :=
    read_payload hanswered (by simp) hreads
  refine ⟨hanswered, hreads, hread, ?_⟩
  rw [hread]
  intro heq
  have hcode := congrArg Dtc.code (List.cons.inj (Outcome.ok.inj heq)).1
  exact absurd (Dtc.fromBytes_injective hcode).2 (by decide)

end Obd2.Session
