import Obd2.Transport.Logging

/-! What a capture says, line by line.

A line is a record, of a command or of a response, or it is none (`recordOf`), and only records
count when a file is read back. A text of whole lines is read on its own, whatever follows it
(`records_append`). The line of a command or a response is one record, and it is the one that was
written (`records_command`, `records_response`), since the escaped bytes have no line end and come
back as they were. The first line of a note is no record; its further lines are what they are. -/
namespace Obd2

/-! ### Lines of text -/

namespace Text

theorem linesFrom_newline (current t u : Text) :
    linesFrom current (t ++ '\n' :: u) = linesFrom current (t ++ ['\n']) ++ lines u := by
  induction t generalizing current with
  | nil => simp [linesFrom, lines]
  | cons c t ih =>
    rw [List.cons_append, List.cons_append, linesFrom, linesFrom]
    by_cases hc : c = '\n'
    · rw [if_pos hc, if_pos hc, ih, List.cons_append]
    · rw [if_neg hc, if_neg hc, ih]

theorem linesFrom_line {t : Text} (h : '\n' ∉ t) (current u : Text) :
    linesFrom current (t ++ '\n' :: u) = stripCr (current ++ t) :: lines u := by
  induction t generalizing current with
  | nil => simp [linesFrom, lines]
  | cons c t ih =>
    have hc : c ≠ '\n' := fun heq => h (heq ▸ List.mem_cons_self)
    rw [List.cons_append, linesFrom, if_neg hc, ih fun hmem => h (List.mem_cons_of_mem c hmem)]
    simp

/-- Whole lines are lines whatever comes after them. -/
theorem lines_newline (t u : Text) : lines (t ++ '\n' :: u) = lines (t ++ ['\n']) ++ lines u :=
  linesFrom_newline [] t u

theorem lines_line {t : Text} (h : '\n' ∉ t) (u : Text) : lines (t ++ '\n' :: u) = stripCr t :: lines u :=
  linesFrom_line h [] u

theorem stripCr_of_not_mem {t : Text} (h : '\r' ∉ t) : stripCr t = t := by
  unfold stripCr
  refine if_neg fun hlast => h (List.mem_of_getLast? hlast)

/-- What comes before another character stays. -/
theorem stripCr_append {c : Char} (hc : c ≠ '\r') (t u : Text) : ∃ v, stripCr (t ++ c :: u) = t ++ c :: v := by
  unfold stripCr
  by_cases hlast : (t ++ c :: u).getLast? = some '\r'
  · rw [if_pos hlast]
    cases u with
    | nil =>
      rw [List.getLast?_concat] at hlast
      exact absurd (Option.some.inj hlast) hc
    | cons d u =>
      refine ⟨(d :: u).dropLast, ?_⟩
      rw [List.dropLast_append_of_ne_nil (List.cons_ne_nil c _), List.dropLast_cons_of_ne_nil (List.cons_ne_nil d u)]
  · exact ⟨u, if_neg hlast⟩

theorem splitn_piece {sep : Char} {t : Text} (h : sep ∉ t) (n : Nat) (rest : Text) :
    splitn sep (n + 2) (t ++ sep :: rest) = t :: splitn sep (n + 1) rest := by
  have hall : ∀ c ∈ t, (c != sep) = true := by
    intro c hc
    rw [bne_iff_ne]
    exact fun heq => h (heq ▸ hc)
  have hsep : (sep != sep) = false := by simp
  have hdrop : (t ++ sep :: rest).dropWhile (· != sep) = sep :: rest := by
    rw [List.dropWhile_append_of_pos hall, List.dropWhile_cons, hsep]
    rfl
  have htake : (t ++ sep :: rest).takeWhile (· != sep) = t := by
    rw [List.takeWhile_append_of_pos hall, List.takeWhile_cons, hsep]
    simp
  rw [splitn, hdrop, htake]

/-- The text of ASCII bytes. -/
def ofAscii (data : List UInt8) : Text := data.map fun b => Char.ofNat b.toNat

theorem fromUtf8LossyFrom_ascii {data : List UInt8} (h : ∀ b ∈ data, b < 0x80) {n : Nat} (hn : data.length ≤ n) :
    fromUtf8LossyFrom n data = ofAscii data := by
  induction data generalizing n with
  | nil => cases n <;> rfl
  | cons b data ih =>
    cases n with
    | zero => exact absurd hn (Nat.not_succ_le_zero _)
    | succ n =>
      have hdecoded : decodeLossy b data = (Char.ofNat b.toNat, 0) := by
        rw [decodeLossy]
        exact if_pos (h b List.mem_cons_self)
      have hrest := ih (fun d hd => h d (List.mem_cons_of_mem b hd)) (Nat.le_of_succ_le_succ hn)
      rw [fromUtf8LossyFrom, hdecoded]
      simp only [List.drop_zero]
      rw [hrest]
      rfl

theorem fromUtf8Lossy_ascii {data : List UInt8} (h : ∀ b ∈ data, b < 0x80) : fromUtf8Lossy data = ofAscii data :=
  fromUtf8LossyFrom_ascii h (Nat.le_refl _)

end Text

/-! ### Escaped bytes -/

theorem u8FromHex_hexByte (b : UInt8) : u8FromHex (Text.hexByte b) = some b := by
  revert b
  exact forall_byte (by decide +kernel)

theorem unescapeStr_plain {c : Char} (h : c ≠ '\\') (rest : Text) :
    unescapeStr (c :: rest) = String.utf8EncodeChar c ++ unescapeStr rest := by
  rw [unescapeStr]
  all_goals simp [h]

theorem unescapeStr_escapeByte (b : UInt8) (rest : Text) :
    unescapeStr (escapeByte b ++ rest) = b :: unescapeStr rest := by
  unfold escapeByte
  by_cases hcr : b = 13
  · subst hcr
    simp [unescapeStr]
  by_cases hlf : b = 10
  · subst hlf
    simp [unescapeStr]
  by_cases htab : b = 9
  · subst htab
    simp [unescapeStr]
  by_cases hbackslash : b = 92
  · subst hbackslash
    simp [unescapeStr]
  rw [if_neg hcr, if_neg hlf, if_neg htab, if_neg hbackslash]
  by_cases hprintable : 0x20 ≤ b ∧ b ≤ 0x7E
  · have hplain : Char.ofNat b.toNat ≠ '\\' := by
      have hall : ∀ b : UInt8, Char.ofNat b.toNat = '\\' → b = 92 := forall_byte (by decide +kernel)
      exact fun h => hbackslash (hall b h)
    have hascii : b < 0x80 := by grind
    rw [if_pos hprintable, List.singleton_append, unescapeStr_plain hplain, Text.utf8_ascii hascii]
    rfl
  · have hdigits := u8FromHex_hexByte b
    rw [if_neg hprintable]
    simp only [Text.hexByte] at hdigits
    simp [Text.hexByte, unescapeStr, hdigits]

/-- **Escaped bytes come back as they were.** -/
theorem unescapeStr_escapeBytes (data : List UInt8) : unescapeStr (escapeBytes data) = data := by
  induction data with
  | nil => rfl
  | cons b data ih =>
    show unescapeStr (escapeByte b ++ escapeBytes data) = b :: data
    rw [unescapeStr_escapeByte, ih]

/-- Escaped bytes are on one line. -/
theorem escapeBytes_oneLine (data : List UInt8) : '\n' ∉ escapeBytes data ∧ '\r' ∉ escapeBytes data := by
  have hbyte : ∀ b : UInt8, '\n' ∉ escapeByte b ∧ '\r' ∉ escapeByte b := forall_byte (by decide +kernel)
  constructor
  · intro hmem
    obtain ⟨b, -, hb⟩ := List.mem_flatMap.mp hmem
    exact (hbyte b).1 hb
  · intro hmem
    obtain ⟨b, -, hb⟩ := List.mem_flatMap.mp hmem
    exact (hbyte b).2 hb

/-- **Escaping loses nothing, and an escaped record is one line** whatever is written after it. -/
theorem escapeBytes_lossless (data : List UInt8) :
    unescapeStr (escapeBytes data) = data ∧ '\r' ∉ escapeBytes data ∧ '\n' ∉ escapeBytes data ∧
      ∀ rest, Text.lines (escapeBytes data ++ '\n' :: rest) = escapeBytes data :: Text.lines rest := by
  obtain ⟨hlf, hcr⟩ := escapeBytes_oneLine data
  refine ⟨unescapeStr_escapeBytes data, hcr, hlf, fun rest => ?_⟩
  rw [Text.lines_line hlf, Text.stripCr_of_not_mem hcr]

/-! ### Stamps -/

theorem stamp_digits (millis : Nat) : ∀ c ∈ stamp millis, c.isDigit = true ∨ c = '.' := by
  have hdigit : ∀ n, ∀ c ∈ Nat.toDigits 10 n, c.isDigit = true :=
    fun n c hc => Nat.isDigit_of_mem_toDigits (by decide) (by decide) hc
  intro c hc
  rcases List.mem_append.mp hc with hc | hc
  · exact .inl (hdigit _ c hc)
  rcases List.mem_cons.mp hc with rfl | hc
  · exact .inr rfl
  rcases List.mem_append.mp hc with hc | hc
  · rw [List.eq_of_mem_replicate hc]
    exact .inl (by decide)
  · exact .inl (hdigit _ c hc)

theorem not_mem_stamp {c : Char} (hdigit : c.isDigit = false) (hpoint : c ≠ '.') (millis : Nat) : c ∉ stamp millis := by
  intro hmem
  rcases stamp_digits millis c hmem with h | h
  · rw [hdigit] at h
    cases h
  · exact hpoint h

theorem stamp_ne_nil (millis : Nat) : stamp millis ≠ [] := by
  simp [stamp]

/-! ### Records -/

/-- What a line records. -/
inductive CaptureRecord where
  | command (cmd : Text)
  | response (text : Text)
  deriving DecidableEq, Repr

def recordOfPayload (direction payload : Text) : Option CaptureRecord :=
  if direction = "W".toList then some (.command (Text.fromUtf8Lossy (stripTrailingCr (unescapeStr payload))))
  else if direction = "R".toList then some (.response (Text.fromUtf8Lossy (unescapeStr payload)))
  else none

def recordOf (line : Text) : Option CaptureRecord :=
  if line.head? = some '#' ∨ line = [] then none
  else
    match Text.splitn ' ' 3 line with
    | _ :: direction :: rest => recordOfPayload direction (rest.headD [])
    | _ => none

def recordsOf (content : Text) : List CaptureRecord := (Text.lines content).filterMap recordOf

/-- The pairs that records make when a command waits already, or none does. -/
def answered : Option Text → List CaptureRecord → List (Text × Text)
  | _, [] => []
  | _, .command cmd :: rest => answered (some cmd) rest
  | some cmd, .response text :: rest => (cmd, text) :: answered none rest
  | none, .response _ :: rest => answered none rest

/-- What a record does to the reader. -/
def CaptureRecord.read (state : Option Text × List (Text × Text)) : CaptureRecord → Option Text × List (Text × Text)
  | command cmd => (some cmd, state.2)
  | response text =>
    match state.1 with
    | some cmd => (none, state.2 ++ [(cmd, text)])
    | none => state

theorem parseLine_eq (state : Option Text × List (Text × Text)) (line : Text) :
    parseLine state line = (recordOf line).elim state fun record => record.read state := by
  unfold parseLine recordOf
  by_cases hskip : line.head? = some '#' ∨ line = []
  · rw [if_pos hskip, if_pos hskip]
    rfl
  rw [if_neg hskip, if_neg hskip]
  rcases Text.splitn ' ' 3 line with _ | ⟨_, _ | ⟨direction, rest⟩⟩
  · rfl
  · rfl
  simp only [recordOfPayload]
  by_cases hw : direction = "W".toList
  · rw [if_pos hw, if_pos hw]
    rfl
  rw [if_neg hw, if_neg hw]
  by_cases hr : direction = "R".toList
  · rw [if_pos hr, if_pos hr]
    rfl
  · rw [if_neg hr, if_neg hr]
    rfl

theorem foldl_parseLine (lines : List Text) (state : Option Text × List (Text × Text)) :
    lines.foldl parseLine state = (lines.filterMap recordOf).foldl CaptureRecord.read state := by
  induction lines generalizing state with
  | nil => rfl
  | cons line rest ih =>
    rw [List.foldl_cons, ih, parseLine_eq]
    cases hrecord : recordOf line with
    | none => rw [List.filterMap_cons_none hrecord, Option.elim_none]
    | some record => rw [List.filterMap_cons_some hrecord, Option.elim_some, List.foldl_cons]

theorem foldl_read (records : List CaptureRecord) (pending : Option Text) (pairs : List (Text × Text)) :
    (records.foldl CaptureRecord.read (pending, pairs)).2 = pairs ++ answered pending records := by
  induction records generalizing pending pairs with
  | nil => simp [answered]
  | cons record rest ih =>
    rw [List.foldl_cons]
    cases record with
    | command cmd => exact ih (some cmd) pairs
    | response text =>
      cases pending with
      | none => exact ih none pairs
      | some cmd =>
        refine (ih none (pairs ++ [(cmd, text)])).trans ?_
        rw [List.append_assoc]
        rfl

/-- Reading a file is pairing its records. -/
theorem parseContent_eq (content : Text) : parseContent content = answered none (recordsOf content) := by
  rw [parseContent, foldl_parseLine, foldl_read, List.nil_append, recordsOf]

/-! #### Of whole lines -/

/-- The text ends with a line end, or is empty. -/
def WholeLines (text : Text) : Prop := text = [] ∨ ∃ t, text = t ++ ['\n']

theorem WholeLines.append {t u : Text} (ht : WholeLines t) (hu : WholeLines u) : WholeLines (t ++ u) := by
  rcases hu with rfl | ⟨v, rfl⟩
  · rwa [List.append_nil]
  · exact .inr ⟨t ++ v, (List.append_assoc ..).symm⟩

/-- Whole lines are read on their own. -/
theorem records_append {t : Text} (h : WholeLines t) (u : Text) : recordsOf (t ++ u) = recordsOf t ++ recordsOf u := by
  rcases h with rfl | ⟨v, rfl⟩
  · rfl
  · rw [recordsOf, List.append_assoc, List.singleton_append, Text.lines_newline, List.filterMap_append]
    rfl

/-! #### Of the lines that are written -/

/-- A line that begins with a time and a direction. -/
theorem recordOf_stamped (millis : Nat) {direction : Text} (hdirection : ' ' ∉ direction) (payload : Text) :
    recordOf (stamp millis ++ ' ' :: (direction ++ ' ' :: payload)) = recordOfPayload direction payload := by
  have hblank : ' ' ∉ stamp millis := not_mem_stamp (by decide) (by decide) millis
  have hhash : '#' ∉ stamp millis := not_mem_stamp (by decide) (by decide) millis
  have hskip : ¬ ((stamp millis ++ ' ' :: (direction ++ ' ' :: payload)).head? = some '#' ∨
      stamp millis ++ ' ' :: (direction ++ ' ' :: payload) = []) := by
    rintro (hhead | hnil)
    · cases hstamp : stamp millis with
      | nil => exact stamp_ne_nil millis hstamp
      | cons c rest =>
        rw [hstamp, List.cons_append, List.head?_cons, Option.some.injEq] at hhead
        rw [hstamp, hhead] at hhash
        exact hhash List.mem_cons_self
    · exact stamp_ne_nil millis (List.append_eq_nil_iff.mp hnil).1
  rw [recordOf, if_neg hskip, Text.splitn_piece hblank, Text.splitn_piece hdirection, Text.splitn]
  rfl

theorem captureLine_eq (millis : Nat) (direction payload : Text) :
    captureLine millis direction payload = stamp millis ++ ' ' :: (direction ++ ' ' :: payload) ++ '\n' :: [] := by
  simp [captureLine]

theorem captureLine_whole (millis : Nat) (direction payload : Text) : WholeLines (captureLine millis direction payload) :=
  .inr ⟨_, captureLine_eq ..⟩

/-- A payload without line ends is one record, or none. -/
theorem records_captureLine (millis : Nat) {direction : Text} (hdirection : ' ' ∉ direction)
    (hline : '\n' ∉ direction ∧ '\r' ∉ direction) (data : List UInt8) :
    recordsOf (captureLine millis direction (escapeBytes data)) =
      (recordOfPayload direction (escapeBytes data)).toList := by
  have hdata := escapeBytes_oneLine data
  have hlf : '\n' ∉ stamp millis ++ ' ' :: (direction ++ ' ' :: escapeBytes data) := by
    simp [not_mem_stamp, hline.1, hdata.1]
  have hcr : '\r' ∉ stamp millis ++ ' ' :: (direction ++ ' ' :: escapeBytes data) := by
    simp [not_mem_stamp, hline.2, hdata.2]
  rw [recordsOf, captureLine_eq, Text.lines_line hlf, Text.stripCr_of_not_mem hcr, List.filterMap_cons,
    recordOf_stamped millis hdirection]
  cases recordOfPayload direction (escapeBytes data) with
  | none => rfl
  | some record => rfl

theorem stripTrailingCr_mem {data : List UInt8} {b : UInt8} (h : b ∈ stripTrailingCr data) : b ∈ data := by
  unfold stripTrailingCr at h
  by_cases hlast : data.getLast? = some 13
  · rw [if_pos hlast] at h
    exact List.dropLast_subset data h
  · rwa [if_neg hlast] at h

/-- The line of a write records the command. -/
theorem records_command (millis : Nat) {data : List UInt8} (h : ∀ b ∈ data, b < 0x80) :
    recordsOf (captureLine millis ['W'] (escapeBytes data)) = [.command (Text.ofAscii (stripTrailingCr data))] := by
  rw [records_captureLine millis (by decide) (by decide), recordOfPayload, if_pos (by decide),
    unescapeStr_escapeBytes, Text.fromUtf8Lossy_ascii fun b hb => h b (stripTrailingCr_mem hb)]
  rfl

/-- The line of a read records the response. -/
theorem records_response (millis : Nat) {data : List UInt8} (h : ∀ b ∈ data, b < 0x80) :
    recordsOf (captureLine millis ['R'] (escapeBytes data)) = [.response (Text.ofAscii data)] := by
  rw [records_captureLine millis (by decide) (by decide), recordOfPayload, if_neg (by decide),
    if_pos (by decide), unescapeStr_escapeBytes, Text.fromUtf8Lossy_ascii h]
  rfl

/-- The line of a chunk records nothing. -/
theorem records_chunk (millis : Nat) (data : List UInt8) :
    recordsOf (captureLine millis "R.chunk".toList (escapeBytes data)) = [] := by
  rw [records_captureLine millis (by decide) (by decide), recordOfPayload, if_neg (by decide), if_neg (by decide)]
  rfl

/-- The records that the lines of a note after its first are taken for. -/
def forgedBy (note : Text) : List CaptureRecord := ((Text.lines (note ++ ['\n'])).drop 1).filterMap recordOf

/-- A note records what its further lines are taken for. -/
theorem records_note (millis : Nat) (note : Text) : recordsOf (captureLine millis ['N'] note) = forgedBy note := by
  have hmem : '\n' ∈ note ++ ['\n'] := List.mem_append_right note List.mem_cons_self
  obtain ⟨first, rest, hnote, hfirst⟩ := List.eq_append_cons_of_mem hmem
  have hline : captureLine millis ['N'] note = (stamp millis ++ [' ', 'N']) ++ ' ' :: first ++ '\n' :: rest := by
    rw [captureLine_eq]
    simp [hnote]
  have hlf : '\n' ∉ (stamp millis ++ [' ', 'N']) ++ ' ' :: first := by
    simp [not_mem_stamp, hfirst]
  obtain ⟨kept, hkept⟩ := Text.stripCr_append (c := ' ') (by decide) (stamp millis ++ [' ', 'N']) first
  have hnone : recordOf (Text.stripCr ((stamp millis ++ [' ', 'N']) ++ ' ' :: first)) = none := by
    have hdirection : ' ' ∉ ['N'] := by decide
    have hstamped := recordOf_stamped millis hdirection kept
    rw [hkept, List.append_assoc]
    exact hstamped
  rw [recordsOf, hline, Text.lines_line hlf, List.filterMap_cons_none hnone, forgedBy, hnote, Text.lines_line hfirst]
  rfl

/-- A note of one line records nothing. -/
theorem forgedBy_oneLine {note : Text} (h : '\n' ∉ note) : forgedBy note = [] := by
  rw [forgedBy, Text.lines_line h]
  rfl

/-- A header ends its last line. -/
theorem formatHeader_whole (metadata : CaptureMetadata) (started : Text) : WholeLines (formatHeader metadata started) :=
  .inr ⟨_, (List.append_assoc ..).symm⟩

end Obd2
