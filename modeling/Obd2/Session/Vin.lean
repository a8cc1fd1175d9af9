import Obd2.Session.Requests

/-! The VIN as the ECU reports it, and what a session reads.

With one line the sequence byte before the VIN is not printable and is filtered out
(`read_first_line`). A bus whose frames are short has five lines; the session takes the first of
them, which does not hold seventeen characters (`vin_read_iff`). -/
namespace Obd2.Session
open ElmCodec Elm327Adapter

/-- A VIN: seventeen printable characters. -/
structure Vin where
  bytes : List UInt8
  complete : bytes.length = 17
  printable : ∀ b ∈ bytes, isPrintable b = true

def Vin.text (vin : Vin) : Text := vin.bytes.map fun b => Char.ofNat b.toNat

/-- The five lines of a VIN: zeros are put in front of it to fill them. -/
structure FiveLines (vin : Vin) where
  width : Nat
  padding : Nat
  data : List (List UInt8)
  five : data.length = 5
  filled : ∀ line ∈ data, line.length = width
  content : data.flatten = List.replicate padding 0 ++ vin.bytes

/-- The documented layouts of the answer to 0902. -/
inductive VinLayout (vin : Vin) where
  | oneLine
  | fiveLines (lines : FiveLines vin)

/-- The data of the lines after `49 02`, each with its number first. -/
def VinLayout.lines {vin : Vin} : VinLayout vin → List (List UInt8)
  | oneLine => [0x01 :: vin.bytes]
  | fiveLines lines => lines.data.zipIdx.map fun line => UInt8.ofNat (line.2 + 1) :: line.1

theorem VinLayout.lines_ne_nil {vin : Vin} (layout : VinLayout vin) : ∀ line ∈ layout.lines, line ≠ [] := by
  cases layout with
  | oneLine => exact List.forall_mem_singleton.mpr (List.cons_ne_nil _ _)
  | fiveLines lines =>
    intro line hline
    obtain ⟨numbered, -, rfl⟩ := List.mem_map.mp hline
    exact List.cons_ne_nil _ _

/-- The lines of the response are those of the layout. -/
abbrev ReadsVin (response : Text) (lines : List (List UInt8)) : Prop :=
  Reads (requestCommand 0x09 [0x02]) (responseLines response) (lines.map (acknowledged 0x09 [0x02] 2 ++ ·))

/-! ### The printable bytes of a line -/

theorem filter_printable (vin : Vin) : vin.bytes.filter isPrintable = vin.bytes :=
  List.filter_eq_self.mpr vin.printable

theorem filter_zeros (n : Nat) : (List.replicate n (0 : UInt8)).filter isPrintable = [] := by
  refine List.filter_eq_nil_iff.mpr fun b hb => ?_
  rw [List.eq_of_mem_replicate hb]
  decide

/-- The first of five lines is too short for the characters. -/
theorem FiveLines.first_short {vin : Vin} (lines : FiveLines vin) {first : List UInt8}
    {rest : List (List UInt8)} (hdata : lines.data = first :: rest) :
    (first.filter isPrintable).length < 17 := by
  have hfirst : first.length = lines.width := lines.filled first (by rw [hdata]; exact List.mem_cons_self)
  have hwhole : lines.data.flatten.length = 5 * lines.width := by
    rw [List.length_flatten, List.map_congr_left lines.filled, List.map_const', lines.five,
      List.sum_replicate_nat]
  rw [lines.content, List.length_append, List.length_replicate, vin.complete] at hwhole
  have htake : first = List.replicate (min lines.width lines.padding) 0 ++
      vin.bytes.take (lines.width - lines.padding) := by
    have hcontent := congrArg (List.take lines.width) lines.content
    rwa [hdata, List.flatten_cons, ← hfirst, List.take_left, hfirst, List.take_append, List.take_replicate,
      List.length_replicate] at hcontent
  have hle : (first.filter isPrintable).length ≤ lines.width - lines.padding := by
    rw [htake, List.filter_append, filter_zeros, List.nil_append]
    exact Nat.le_trans (List.length_filter_le ..) (List.length_take_le ..)
  omega

/-! ### Reading -/

section Reading
variable {L : Type} [Link L] {s : Session (Elm327Adapter L)} {response : Text}

/-- What is read are the printable bytes of the first line, if there are seventeen. -/
theorem read_first_line (h : Answered s .readVin response) {first : List UInt8} {rest : List (List UInt8)}
    (hnonempty : ∀ line ∈ first :: rest, line ≠ []) (hreads : ReadsVin response (first :: rest)) :
    (readVin.run s).1 =
      let vin := ((first.filter isPrintable).map fun b => Char.ofNat b.toNat).take 17
      if vin.length = 17 then .ok vin else .error (.parseError s!"VIN too short: {vin.length} chars") := by
  obtain ⟨s', hsend⟩ := sendRequest_payload h (by decide) hnonempty hreads
  rw [readVin, Async.run_bind_ok (ensureInitialized_ready h.initialized), Async.run_bind_ok hsend]
  show ((if _ then _ else _ : Op _ Text).run s').1 = _
  split
  · next hlength => exact (if_pos hlength).symm
  · next hlength => exact (if_neg hlength).symm

/-- **The VIN is read exactly if it comes on one line.** -/
theorem vin_read_iff (vin : Vin) (layout : VinLayout vin) (h : Answered s .readVin response)
    (hreads : ReadsVin response layout.lines) :
    (readVin.run s).1 = .ok vin.text ↔ layout = .oneLine := by
  have hnonempty := layout.lines_ne_nil
  cases layout with
  | oneLine =>
    have hfilter : ((0x01 : UInt8) :: vin.bytes).filter isPrintable = vin.bytes :=
      (List.filter_cons_of_neg (by decide)).trans (filter_printable vin)
    have hlength : vin.text.length = 17 := (List.length_map ..).trans vin.complete
    rw [read_first_line h hnonempty hreads, hfilter, ← Vin.text,
      List.take_of_length_le (Nat.le_of_eq hlength)]
    exact iff_of_true (if_pos hlength) rfl
  | fiveLines lines =>
    refine iff_of_false ?_ (fun heq => by cases heq)
    cases hdata : lines.data with
    | nil =>
      have hfive := lines.five
      rw [hdata] at hfive
      cases hfive
    | cons first rest =>
      have hshort := lines.first_short hdata
      have hfilter : (UInt8.ofNat (0 + 1) :: first).filter isPrintable = first.filter isPrintable :=
        List.filter_cons_of_neg (by decide)
      rw [VinLayout.lines, hdata, List.zipIdx_cons, List.map_cons] at hreads hnonempty
      have hlength : (((first.filter isPrintable).map fun b => Char.ofNat b.toNat).take 17).length ≠ 17 := by
        rw [List.length_take, List.length_map]
        omega
      rw [read_first_line h hnonempty hreads, hfilter]
      dsimp only
      rw [if_neg hlength]
      nofun

end Reading

/-! ### Examples -/

def pickup : Vin := ⟨Text.bytes "1GCHK23224F000001".toList, rfl, by decide +kernel⟩

/-- The VIN on one line is read. -/
theorem vin_read_one_line :
    let response := "49 02 01 31 47 43 48 4B 32 33 32 32 34 46 30 30 30 30 30 31\r>".toList
    let session := readySession .can11Bit500 [("0902".toList, response)]
    (readVin.run session).1 = .ok pickup.text := by
  intro response session
  have hreads : ReadsVin response (VinLayout.oneLine : VinLayout pickup).lines :=
    .bytes rfl (.skipped rfl .nil)
  have hanswered : Answered session .readVin response :=
    answered_broadcast rfl rfl rfl (by decide +kernel)
  exact (vin_read_iff pickup .oneLine hanswered hreads).mpr rfl

/-- The same VIN on five lines is not: the first has one character of it. -/
theorem vin_five_lines_unread :
    let response := ("49 02 01 00 00 00 31\r49 02 02 47 43 48 4B\r49 02 03 32 33 32 32\r" ++
      "49 02 04 34 46 30 30\r49 02 05 30 30 30 31\r\r>").toList
    let session := readySession (.iso9141 .slowInit) [("0902".toList, response)]
    let layout : VinLayout pickup := .fiveLines ⟨4, 3,
      [[0x00, 0x00, 0x00, 0x31], [0x47, 0x43, 0x48, 0x4B], [0x32, 0x33, 0x32, 0x32], [0x34, 0x46, 0x30, 0x30],
        [0x30, 0x30, 0x30, 0x31]], rfl, by decide, rfl⟩
    Answered session .readVin response ∧ ReadsVin response layout.lines ∧
      (readVin.run session).1 = .error (.parseError "VIN too short: 1 chars") ∧
      (readVin.run session).1 ≠ .ok pickup.text := by
  intro response session layout
  have hreads : ReadsVin response layout.lines :=
    .bytes rfl (.bytes rfl (.bytes rfl (.bytes rfl (.bytes rfl (.skipped rfl (.skipped rfl .nil))))))
  have hanswered : Answered session .readVin response :=
    answered_broadcast rfl rfl rfl (by decide +kernel)
  have hread : (readVin.run session).1 = .error (.parseError "VIN too short: 1 chars") :=
    (read_first_line hanswered layout.lines_ne_nil hreads).trans (by decide +kernel)
  refine ⟨hanswered, hreads, hread, ?_⟩
  rw [hread]
  nofun

end Obd2.Session
