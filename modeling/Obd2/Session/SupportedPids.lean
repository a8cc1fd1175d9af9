import Obd2.Adapter.Elm327.Transcript
import Obd2.Session.Requests

/-! Which PIDs a vehicle supports, asked by the session and by its adapter.

Both ask for the bitmaps of four bases. An answer has a line for every ECU: the adapter takes the
bits of all of them (`supportedPidsFrom_transcript`), the session those of the first
(`querySupportedPidsFrom_transcript`). So they agree exactly if the first line of every answer has
all bits (`discoveries_agree_iff`). -/
namespace Obd2

/-! ### Bitmaps -/

/-- The bitmap of an ECU for one base. -/
structure Bitmap where
  bytes : List UInt8
  four : bytes.length = 4

namespace Bitmap

/-- The bits are numbered from the highest of the first byte. -/
def isSet (bitmap : Bitmap) (k : Nat) : Bool :=
  (bitmap.bytes.getD (k / 8) 0 &&& ((0x80 : UInt8) >>> UInt8.ofNat (k % 8))) != 0

/-- The PIDs of a bitmap, as the library expands them. -/
def pids (bitmap : Bitmap) (base : UInt8) : List Pid :=
  (Session.parseSupportedPidBitmap bitmap.bytes base).map Pid.mk

/-- A bitmap expands to the numbers of its bits, after the base. -/
theorem mem_pids (bitmap : Bitmap) (base : UInt8) (pid : Pid) :
    pid ∈ bitmap.pids base ↔ ∃ k < 32, bitmap.isSet k = true ∧ pid.code = base + UInt8.ofNat k + 1 := by
  have hcode (index bit : Nat) : base + UInt8.ofNat index * 8 + UInt8.ofNat bit + 1 =
      base + UInt8.ofNat (index * 8 + bit) + 1 := by
    rw [UInt8.ofNat_add, UInt8.ofNat_mul, UInt8.add_assoc base]
    rfl
  have htake : bitmap.bytes.take 4 = bitmap.bytes := List.take_of_length_le (Nat.le_of_eq bitmap.four)
  simp only [pids, Session.parseSupportedPidBitmap, htake, List.mem_map, List.mem_flatMap, List.mem_filterMap,
    List.mem_range, Option.ite_none_right_eq_some, Option.some.injEq, hcode]
  constructor
  · rintro ⟨code, ⟨⟨byte, index⟩, hindex, bit, hbit, hset, hcode⟩, rfl⟩
    have hbyte := List.mem_zipIdx_iff_getElem?.mp hindex
    have hlt : index < 4 := by
      rw [← bitmap.four]
      exact (List.getElem?_eq_some_iff.mp hbyte).1
    refine ⟨index * 8 + bit, by omega, ?_, hcode.symm⟩
    have hdiv : (index * 8 + bit) / 8 = index := by omega
    have hmod : (index * 8 + bit) % 8 = bit := by omega
    rw [isSet, hdiv, hmod, List.getD_eq_getElem?_getD, hbyte]
    exact bne_iff_ne.mpr hset
  · rintro ⟨k, hk, hset, hcode⟩
    have hlt : k / 8 < bitmap.bytes.length := by
      rw [bitmap.four]
      omega
    refine ⟨pid.code, ⟨(bitmap.bytes[k / 8], k / 8), ?_, k % 8, by omega, ?_, ?_⟩, rfl⟩
    · exact List.mem_zipIdx_iff_getElem?.mpr (List.getElem?_eq_getElem hlt)
    · rw [isSet, List.getD_eq_getElem?_getD, List.getElem?_eq_getElem hlt] at hset
      exact bne_iff_ne.mp hset
    · have hsplit : k / 8 * 8 + k % 8 = k := by omega
      rw [hsplit, hcode]

end Bitmap

/-- The bases of the bitmaps. -/
def pidBases : List UInt8 := [0x00, 0x20, 0x40, 0x60]

/-- Bits of different bases or with different numbers are different PIDs. -/
theorem pid_code_injective {base base' : UInt8} (hbase : base ∈ pidBases) (hbase' : base' ∈ pidBases) {k k' : Nat}
    (hk : k < 32) (hk' : k' < 32) (h : base + UInt8.ofNat k + 1 = base' + UInt8.ofNat k' + 1) :
    base = base' ∧ k = k' := by
  have hnat : ∀ b ∈ pidBases, ∀ k : Fin 32, (b + UInt8.ofNat k + 1).toNat = b.toNat + k + 1 := by
    decide +kernel
  have hsame := congrArg UInt8.toNat h
  rw [hnat base hbase ⟨k, hk⟩, hnat base' hbase' ⟨k', hk'⟩] at hsame
  have hstep : ∀ b ∈ pidBases, b.toNat % 32 = 0 := by decide +kernel
  have hzero := hstep base hbase
  have hzero' := hstep base' hbase'
  simp only at hsame
  exact ⟨UInt8.toNat_inj.mp (by omega), by omega⟩

theorem mem_foldl_insert (found all : List Pid) (pid : Pid) :
    pid ∈ found.foldl (fun all pid => all.insert pid) all ↔ pid ∈ all ∨ pid ∈ found := by
  induction found generalizing all with
  | nil => simp
  | cons first rest ih =>
    rw [List.foldl_cons, ih, List.mem_insert_iff, List.mem_cons, or_comm (a := pid = first), or_assoc]

/-! ### Answers -/

/-- The bitmaps of the ECUs that answer for a base, in the order of their lines. -/
structure PidAnswer where
  first : Bitmap
  others : List Bitmap

def PidAnswer.lines (answer : PidAnswer) : List Bitmap := answer.first :: answer.others

/-- The lines of the response are the bitmaps, after the acknowledged request. -/
def ReadsBitmaps (base : UInt8) (answer : PidAnswer) (response : Text) : Prop :=
  ElmCodec.Reads (Elm327Adapter.requestCommand 0x01 [base]) (ElmCodec.responseLines response)
    ((answer.lines.map (·.bytes)).map (ElmCodec.acknowledged 0x01 [base] 2 ++ ·))

/-- The commands of the bases, and their responses. -/
def pidTranscript (bases : List UInt8) (responses : UInt8 → Text) : List (Text × Text) :=
  bases.map fun base => (Elm327Adapter.requestCommand 0x01 [base], responses base)

theorem Bitmap.bytes_ne_nil (bitmap : Bitmap) : bitmap.bytes ≠ [] :=
  List.ne_nil_of_length_pos (by rw [bitmap.four]; decide)

theorem PidAnswer.bytes_ne_nil (answer : PidAnswer) : ∀ bytes ∈ answer.lines.map (·.bytes), bytes ≠ [] := by
  intro bytes hbytes
  obtain ⟨bitmap, -, rfl⟩ := List.mem_map.mp hbytes
  exact bitmap.bytes_ne_nil

/-- What the adapter finds in the payloads of an answer. -/
theorem PidAnswer.found (answer : PidAnswer) (base : UInt8) :
    (((answer.lines.map (·.bytes)).filter fun data => data.length ≥ 4).flatMap fun data =>
      (Elm327Adapter.parseSupportedPids (data.take 4) base).map Pid.mk) =
      answer.lines.flatMap (·.pids base) := by
  have hall : (answer.lines.map (·.bytes)).filter (fun data => data.length ≥ 4) = answer.lines.map (·.bytes) := by
    refine List.filter_eq_self.mpr fun bytes hbytes => ?_
    obtain ⟨bitmap, -, rfl⟩ := List.mem_map.mp hbytes
    exact decide_eq_true (Nat.le_of_eq bitmap.four.symm)
  rw [hall, List.flatMap_map]
  rfl

variable {L : Type} [Link L] {answers : UInt8 → PidAnswer} {responses : UInt8 → Text}

/-! ### The adapter -/

namespace Elm327Adapter

/-- The adapter takes the bits of every line. -/
theorem supportedPidsFrom_transcript {bases : List UInt8} {adapter : Elm327Adapter L} (all : List Pid)
    (h : Transcript adapter.transport (pidTranscript bases responses))
    (hreads : ∀ base ∈ bases, ReadsBitmaps base (answers base) (responses base)) :
    ∃ pids adapter', (supportedPidsFrom bases all).run adapter = (.ok pids, adapter') ∧
      ∀ pid, pid ∈ pids ↔ pid ∈ all ∨ ∃ base ∈ bases, ∃ bitmap ∈ (answers base).lines, pid ∈ bitmap.pids base := by
  induction bases generalizing adapter all with
  | nil => exact ⟨all, adapter, rfl, by simp⟩
  | cons base rest ih =>
    cases h with
    | @cons _ transport _ _ _ hexchange hrest =>
      have hread := hreads base List.mem_cons_self
      obtain ⟨events, hsend⟩ := sendCommand_run hexchange (reads_no_fault hread)
      have hpayloads : ElmCodec.decodeElmResponsePayloadsForCommand (responses base)
          (familyOf adapter.info.protocol) 2 (some (requestCommand 0x01 [base])) =
          .ok ((answers base).lines.map (·.bytes)) :=
        ElmCodec.payloads_of_reads _ (by decide) (Nat.le_refl 2) (List.cons_ne_nil _ _)
          (answers base).bytes_ne_nil hread
      have hnext : Transcript ({adapter with transport, events} : Elm327Adapter L).transport
        (pidTranscript rest responses) := hrest
      obtain ⟨pids, adapter', hrun, hmem⟩ := ih
        (((answers base).lines.flatMap (·.pids base)).foldl (fun all pid => all.insert pid) all) hnext
        fun b hb => hreads b (List.mem_cons_of_mem base hb)
      refine ⟨pids, adapter', ?_, fun pid => ?_⟩
      · have hattempt : (sendCommand (requestCommand 0x01 [base])).attempt.run adapter =
            (.ok (.ok (responses base)), {adapter with transport, events}) := by
          rw [Async.run_attempt, hsend]
        rw [supportedPidsFrom, Async.run_bind_ok hattempt]
        dsimp only
        rw [Async.run_bind_ok (Async.run_get _), hpayloads]
        dsimp only
        rw [(answers base).found base]
        exact hrun
      · rw [hmem, mem_foldl_insert, List.mem_flatMap]
        simp only [List.mem_cons, exists_eq_or_imp, or_assoc]

end Elm327Adapter

/-! ### The session -/

namespace Session

/-- A session that is set up and idle, and whose device answers broadcast requests by a transcript. -/
structure Transcribed (s : Session (Elm327Adapter L)) (transcript : List (Text × Text)) : Prop where
  initialized : s.initialized = true
  idle : s.requestInFlight = false
  targeted : ∃ targeted, (Elm327Adapter.applyTarget .broadcast).run s.adapter = (.ok (), targeted) ∧
    Elm327Adapter.Transcript targeted.transport transcript

/-- A broadcast request takes the first answer from the transcript. -/
theorem sendRequest_transcribed {s : Session (Elm327Adapter L)} {service : UInt8} {data : List UInt8}
    {response : Text} {rest : List (Text × Text)}
    (h : Transcribed s ((Elm327Adapter.requestCommand service data, response) :: rest))
    (hlen : Elm327Adapter.skipOf service ≤ data.length + 1) {first : List UInt8} {rests : List (List UInt8)}
    (hnonempty : ∀ rest ∈ first :: rests, rest ≠ [])
    (hreads : ElmCodec.Reads (Elm327Adapter.requestCommand service data) (ElmCodec.responseLines response)
      ((first :: rests).map (ElmCodec.acknowledged service data (Elm327Adapter.skipOf service) ++ ·))) :
    ∃ s', (sendRequest ⟨service, data, .broadcast⟩).run s =
        (.ok (Elm327Adapter.truncateKnownPayload service data first), s') ∧ Transcribed s' rest := by
  obtain ⟨targeted, htarget, htranscript⟩ := h.targeted
  cases htranscript with
  | @cons _ transport _ _ _ hexchange hrest =>
    obtain ⟨events, hrun⟩ := Elm327Adapter.routedRequest_run ⟨service, data, .broadcast⟩ htarget
      hexchange (Elm327Adapter.reads_no_fault hreads)
    rw [Elm327Adapter.decodeResponse_of_payloads _ hlen hnonempty hreads] at hrun
    obtain ⟨s', hdispatch, hkeeps⟩ := dispatch_returns (s := {s with requestInFlight := true}) hrun
    refine ⟨s', ?_, hkeeps.initialized.trans h.initialized, hkeeps.requestInFlight, ?_⟩
    · rw [sendRequest_resolved h.idle rfl]
      exact hdispatch
    · rw [hkeeps.adapter]
      have hready := Elm327Adapter.broadcasting_of_applyTarget htarget
      obtain ⟨targeted', htarget', htransport⟩ :=
        Elm327Adapter.applyTarget_broadcasting {targeted with transport, events := []} hready
      exact ⟨targeted', htarget', htransport ▸ hrest⟩

/-- The session takes the bits of the first line. -/
theorem querySupportedPidsFrom_transcript {bases : List UInt8} (hbases : ∀ base ∈ bases, base ∈ pidBases)
    {s : Session (Elm327Adapter L)} (all : List Pid) (h : Transcribed s (pidTranscript bases responses))
    (hreads : ∀ base ∈ bases, ReadsBitmaps base (answers base) (responses base)) :
    ∃ pids s', (querySupportedPidsFrom bases all).run s = (.ok pids, s') ∧
      ∀ pid, pid ∈ pids ↔ pid ∈ all ∨ ∃ base ∈ bases, pid ∈ (answers base).first.pids base := by
  induction bases generalizing s all with
  | nil => exact ⟨all, s, rfl, by simp⟩
  | cons base rest ih =>
    obtain ⟨s₁, hsend, hnext⟩ := sendRequest_transcribed h (Nat.le_refl 2) (answers base).bytes_ne_nil
      (hreads base List.mem_cons_self)
    have htruncate : ∀ base ∈ pidBases, Pid.responseBytes ⟨base⟩ = 4 := by decide +kernel
    have hdata : Elm327Adapter.truncateKnownPayload 0x01 [base] (answers base).first.bytes =
        (answers base).first.bytes := by
      show (answers base).first.bytes.take (Pid.responseBytes ⟨base⟩) = _
      rw [htruncate base (hbases base List.mem_cons_self)]
      exact List.take_of_length_le (Nat.le_of_eq (answers base).first.four)
    rw [hdata] at hsend
    obtain ⟨pids, s', hrun, hmem⟩ := ih (fun b hb => hbases b (List.mem_cons_of_mem base hb))
      (((answers base).first.pids base).foldl (fun all pid => all.insert pid) all) hnext
      fun b hb => hreads b (List.mem_cons_of_mem base hb)
    refine ⟨pids, s', ?_, fun pid => ?_⟩
    · have hattempt : (sendRequest (.readPid ⟨base⟩)).attempt.run s = (.ok (.ok (answers base).first.bytes), s₁) := by
        rw [Async.run_attempt, ServiceRequest.readPid, hsend]
      rw [querySupportedPidsFrom, Async.run_bind_ok hattempt]
      dsimp only
      rw [if_pos (Nat.le_of_eq (answers base).first.four.symm)]
      exact hrun
    · rw [hmem, mem_foldl_insert]
      simp only [List.mem_cons, exists_eq_or_imp, or_assoc]

/-- The union over all bases and all ECUs. -/
def Advertised (answers : UInt8 → PidAnswer) (pid : Pid) : Prop :=
  ∃ base ∈ pidBases, ∃ bitmap ∈ (answers base).lines, pid ∈ bitmap.pids base

/-- Both discoveries succeed, and what they find is what is advertised. -/
def DiscoveriesAgree (s : Session (Elm327Adapter L)) (adapter : Elm327Adapter L) (answers : UInt8 → PidAnswer) :
    Prop :=
  ∃ pids pids', (supportedPids.run s).1 = .ok pids ∧
    (Elm327Adapter.supportedPids.run adapter).1 = .ok pids' ∧
    ∀ pid, (pid ∈ pids ↔ Advertised answers pid) ∧ (pid ∈ pids' ↔ Advertised answers pid)

/-- **The discoveries agree exactly if the first ECU to answer for a base has all bits that another
one has.** -/
theorem discoveries_agree_iff {s : Session (Elm327Adapter L)} {adapter : Elm327Adapter L}
    (hs : Transcribed s (pidTranscript pidBases responses)) (huncached : s.supportedPidsCache = none)
    (hadapter : Elm327Adapter.Transcript adapter.transport (pidTranscript pidBases responses))
    (hreads : ∀ base ∈ pidBases, ReadsBitmaps base (answers base) (responses base)) :
    DiscoveriesAgree s adapter answers ↔
      ∀ base ∈ pidBases, ∀ bitmap ∈ (answers base).others, ∀ k < 32, bitmap.isSet k = true →
        (answers base).first.isSet k = true := by
  obtain ⟨pids, s', hquery, hfirst⟩ := querySupportedPidsFrom_transcript (fun _ h => h) [] hs hreads
  obtain ⟨pids', adapter', hadapterRun, hall⟩ := Elm327Adapter.supportedPidsFrom_transcript [] hadapter hreads
  simp only [List.not_mem_nil, false_or] at hfirst hall
  have hquery : querySupportedPids.run s = (.ok pids, s') := hquery
  have hsession : (supportedPids.run s).1 = .ok pids := by
    rw [supportedPids, Async.run_bind_ok (ensureInitialized_ready hs.initialized),
      Async.run_bind_ok (Async.run_get s), huncached]
    dsimp only
    rw [Async.run_bind_ok hquery]
    rfl
  have hadapter : (Elm327Adapter.supportedPids.run adapter).1 = .ok pids' := congrArg Prod.fst hadapterRun
  constructor
  · rintro ⟨found, found', hfound, hfound', hagree⟩ base hbase bitmap hbitmap k hk hset
    obtain rfl := Outcome.ok.inj (hsession.symm.trans hfound)
    -- The bit is advertised, so it is one of the first line of some base: of this one.
    have hadvertised : Advertised answers ⟨base + UInt8.ofNat k + 1⟩ :=
      ⟨base, hbase, bitmap, List.mem_cons_of_mem _ hbitmap, (bitmap.mem_pids base _).mpr ⟨k, hk, hset, rfl⟩⟩
    obtain ⟨base', hbase', hmem⟩ := (hfirst _).mp ((hagree _).1.mpr hadvertised)
    obtain ⟨k', hk', hset', hcode⟩ := ((answers base').first.mem_pids base' _).mp hmem
    obtain ⟨rfl, rfl⟩ := pid_code_injective hbase hbase' hk hk' hcode
    exact hset'
  · intro hcovered
    refine ⟨pids, pids', hsession, hadapter, fun pid => ⟨(hfirst pid).trans ?_, hall pid⟩⟩
    constructor
    · rintro ⟨base, hbase, hmem⟩
      exact ⟨base, hbase, _, List.mem_cons_self, hmem⟩
    · rintro ⟨base, hbase, bitmap, hbitmap, hmem⟩
      obtain ⟨k, hk, hset, hcode⟩ := (bitmap.mem_pids base pid).mp hmem
      refine ⟨base, hbase, ((answers base).first.mem_pids base pid).mpr ⟨k, hk, ?_, hcode⟩⟩
      rcases List.mem_cons.mp hbitmap with rfl | hother
      · exact hset
      · exact hcovered base hbase bitmap hother k hk hset

/-! ### Examples -/

def zeroBitmap : Bitmap := ⟨[0x00, 0x00, 0x00, 0x00], rfl⟩

/-- One ECU that supports PID 01, or two of which the other supports 02. -/
def engineAnswers (others : List Bitmap) (base : UInt8) : PidAnswer :=
  if base = 0x00 then ⟨⟨[0x80, 0x00, 0x00, 0x00], rfl⟩, others⟩ else ⟨zeroBitmap, []⟩

def engineResponses (first : String) (base : UInt8) : Text :=
  if base = 0x00 then first.toList
  else "41 ".toList ++ Text.hexByte base ++ " 00 00 00 00\r\r>".toList

def engineSession (first : String) : Session (Elm327Adapter MockTransport) :=
  readySession .can11Bit500 (pidTranscript pidBases (engineResponses first))

/-- One ECU: the discoveries agree. -/
theorem discoveries_agree_one_ecu :
    let s := engineSession "41 00 80 00 00 00\r\r>"
    DiscoveriesAgree s s.adapter (engineAnswers []) := by
  intro s
  have htranscript : Elm327Adapter.Transcript s.adapter.transport
      (pidTranscript pidBases (engineResponses "41 00 80 00 00 00\r\r>")) :=
    .cons (Prod.ext (by decide +kernel) rfl) (.cons (Prod.ext (by decide +kernel) rfl)
      (.cons (Prod.ext (by decide +kernel) rfl) (.cons (Prod.ext (by decide +kernel) rfl) (.nil _))))
  have hs : Transcribed s _ := ⟨rfl, rfl, s.adapter, rfl, htranscript⟩
  refine (discoveries_agree_iff hs rfl htranscript ?_).mpr ?_
  · simp only [pidBases, List.forall_mem_cons]
    exact ⟨.bytes rfl (.skipped rfl (.skipped rfl .nil)), .bytes rfl (.skipped rfl (.skipped rfl .nil)),
      .bytes rfl (.skipped rfl (.skipped rfl .nil)), .bytes rfl (.skipped rfl (.skipped rfl .nil)), nofun⟩
  · intro base _ bitmap hbitmap
    unfold engineAnswers at hbitmap
    split at hbitmap <;> cases hbitmap

/-- Two ECUs, of which one supports PID 01 and the other 02: the session does not find 02. -/
theorem second_ecu_unheard :
    let s := engineSession "41 00 80 00 00 00\r41 00 40 00 00 00\r\r>"
    let answers := engineAnswers [⟨[0x40, 0x00, 0x00, 0x00], rfl⟩]
    ReadsBitmaps 0x00 (answers 0x00) "41 00 80 00 00 00\r41 00 40 00 00 00\r\r>".toList ∧
      (supportedPids.run s).1 = .ok [⟨0x01⟩] ∧
      (Elm327Adapter.supportedPids.run s.adapter).1 = .ok [⟨0x02⟩, ⟨0x01⟩] ∧
      ¬ DiscoveriesAgree s s.adapter answers := by
  intro s answers
  have hsession : (supportedPids.run s).1 = .ok [⟨0x01⟩] := by decide +kernel
  refine ⟨.bytes rfl (.bytes rfl (.skipped rfl (.skipped rfl .nil))), hsession, by decide +kernel, ?_⟩
  rintro ⟨pids, pids', hpids, -, hagree⟩
  obtain rfl := Outcome.ok.inj (hsession.symm.trans hpids)
  have hadvertised : Advertised answers ⟨0x02⟩ :=
    ⟨0x00, List.mem_cons_self, ⟨[0x40, 0x00, 0x00, 0x00], rfl⟩, List.mem_cons_of_mem _ List.mem_cons_self,
      by decide⟩
  exact absurd ((hagree _).1.mpr hadvertised) (by decide)

end Session

end Obd2
