import Obd2.Adapter.ElmCodec.Refusals

/-! Lines the adapter adds of its own accord.

Between the lines of a response there may be the echoed command, blank lines, prompts and progress
messages, and once a line has matched also a closing status. None of them reaches the payloads:
`Chattered` says where such lines may stand, and `decode_chattered` that they change nothing. -/
namespace Obd2.ElmCodec
open Codec Hex

/-- The lines of a response as they were sent. -/
def rawLines (response : Text) : List Text := response.splitOnP fun c => c == '\r' || c == '\n'

/-- What the loop sees of a line. -/
def lineText (raw : Text) : Text := Text.trimEndWhile (· == '>') (Text.trim raw)

theorem responseLines_eq (response : Text) : responseLines response = (rawLines response).map lineText := rfl

/-- A line that says nothing: the command, in any case and spacing, no text at all, a prompt alone or
a progress message. -/
inductive IsChatter (command raw : Text) : Prop where
  | echo : lineMatchesCommandEcho raw command = true → IsChatter command raw
  | blank : (∀ c ∈ raw, Text.isWhitespace c = true) → IsChatter command raw
  | prompt : Text.trim raw = ['>'] → IsChatter command raw
  | searching : Text.trim raw = "SEARCHING...".toList → IsChatter command raw

/-- The lines of a response before and after chatter came in between. The flag says whether a line
has matched; from then on a status may come in as well. -/
inductive Chattered (family : BusFamily) (skipBytes : Nat) (command : Text) (expected : List UInt8) :
    Bool → List Text → List Text → Prop where
  | nil {hasMatched} : Chattered family skipBytes command expected hasMatched [] []
  | own {hasMatched original inserted} (raw : Text) :
      Chattered family skipBytes command expected
        (hasMatched || matchesExpected family skipBytes command expected (lineText raw)) original inserted →
      Chattered family skipBytes command expected hasMatched (raw :: original) (raw :: inserted)
  | chatter {hasMatched original inserted raw} : IsChatter command raw →
      Chattered family skipBytes command expected hasMatched original inserted →
      Chattered family skipBytes command expected hasMatched original (raw :: inserted)
  | status {original inserted raw} : isStatusNoiseLine (Text.trim raw) = true →
      Chattered family skipBytes command expected true original inserted →
      Chattered family skipBytes command expected true original (raw :: inserted)

/-! ### Whitespace -/

/-- No byte of a whitespace character is a digit. -/
theorem not_digit_of_whitespace {c : Char} (h : Text.isWhitespace c = true) :
    ∀ b ∈ Text.bytes [c], hexNibble b = none := by
  have hcodes : ∀ n ∈ [9, 10, 11, 12, 13, 0x20, 0x85, 0xA0, 0x1680, 0x2000, 0x2001, 0x2002, 0x2003, 0x2004,
      0x2005, 0x2006, 0x2007, 0x2008, 0x2009, 0x200A, 0x2028, 0x2029, 0x202F, 0x205F, 0x3000],
      ∀ b ∈ Text.bytes [Char.ofNat n], hexNibble b = none := by
    decide +kernel
  have hcode := hcodes c.toNat
  rw [Char.ofNat_toNat] at hcode
  apply hcode
  simp only [Text.isWhitespace, Bool.or_eq_true, Bool.and_eq_true, decide_eq_true_eq, beq_iff_eq] at h
  simp only [List.mem_cons, List.not_mem_nil, or_false]
  omega

theorem visibleBytes_eq_flatMap (t : Text) : visibleBytes t = t.flatMap fun c => visibleBytes [c] := by
  simp [visibleBytes, Text.bytes, List.filter_flatMap]

/-! ### The echo -/

/-- A command that is read as bytes has only digits. -/
theorem digits_of_parse {input : Text} {digits : List UInt8} {high : Option UInt8} {bytes : List UInt8}
    (h : parseCompactHexFrom input digits high = .ok bytes) : ∀ b ∈ digits, hexNibble b ≠ none := by
  induction digits generalizing high bytes with
  | nil =>
    intro b hb
    cases hb
  | cons digit rest ih =>
    cases hdigit : hexNibble digit with
    | none =>
      rw [parseCompactHexFrom, hdigit] at h
      cases h
    | some nibble =>
      have hrest : ∃ high bytes, parseCompactHexFrom input rest high = .ok bytes := by
        rw [parseCompactHexFrom, hdigit] at h
        cases high with
        | none => exact ⟨some nibble, bytes, h⟩
        | some high =>
          cases hparse : parseCompactHexFrom input rest none with
          | ok more => exact ⟨none, more, hparse⟩
          | error e =>
            simp only [hparse] at h
            cases h
      obtain ⟨high, bytes, hparse⟩ := hrest
      intro b hb
      rcases List.mem_cons.mp hb with rfl | hb
      · rw [hdigit]
        exact Option.some_ne_none nibble
      · exact ih hparse b hb

theorem digits_of_expected {command : Text} {skipBytes : Nat} {expected : List UInt8}
    (h : expectedResponsePrefix command skipBytes = some expected) :
    ∀ b ∈ visibleBytes command, hexNibble b ≠ none := by
  unfold expectedResponsePrefix at h
  by_cases hzero : skipBytes = 0
  · rw [if_pos hzero] at h
    cases h
  · rw [if_neg hzero] at h
    cases hparse : parseCompactHex command with
    | error e =>
      rw [hparse] at h
      cases h
    | ok bytes => exact digits_of_parse hparse

/-- An echo is one before its line is trimmed and after. -/
theorem echo_lineText {raw command : Text} (hdigits : ∀ b ∈ visibleBytes command, hexNibble b ≠ none)
    (h : lineMatchesCommandEcho raw command = true) : lineMatchesCommandEcho (lineText raw) command = true := by
  have hvisible : ∀ b ∈ visibleBytes raw, hexNibble b ≠ none := by
    intro b hb
    rw [lineMatchesCommandEcho, Bool.and_eq_true] at h
    obtain ⟨c, hc, hsame⟩ := eqBytesIgnoreCase_mem h.2 b hb
    rw [hexNibble_of_eqIgnoreCase hsame]
    exact hdigits c hc
  -- a character without digits is then one without visible bytes
  have hinvisible : ∀ c ∈ raw, (∀ b ∈ Text.bytes [c], hexNibble b = none) → visibleBytes [c] = [] := by
    intro c hc hnone
    apply List.eq_nil_iff_forall_not_mem.mpr
    intro b hb
    obtain ⟨before, after, rfl⟩ := List.append_of_mem hc
    have hmem : b ∈ visibleBytes (before ++ c :: after) := by
      have hsplit : before ++ c :: after = before ++ ([c] ++ after) := rfl
      rw [hsplit, visibleBytes_append, visibleBytes_append]
      exact List.mem_append_right _ (List.mem_append_left _ hb)
    exact hvisible b hmem (hnone b (List.mem_filter.mp hb).1)
  have hspace : ∀ c ∈ raw, Text.isWhitespace c = true → visibleBytes [c] = [] :=
    fun c hc hwhite => hinvisible c hc (not_digit_of_whitespace hwhite)
  have hprompt : ∀ c ∈ raw, (c == '>') = true → visibleBytes [c] = [] := by
    intro c hc heq
    apply hinvisible c hc
    rw [beq_iff_eq.mp heq]
    decide +kernel
  have hsame : visibleBytes (lineText raw) = visibleBytes raw := by
    have htrimmed : ∀ c ∈ Text.trim raw, c ∈ raw := fun c hc => (Text.trim_infix raw).subset hc
    rw [visibleBytes_eq_flatMap, visibleBytes_eq_flatMap raw, lineText,
      Text.flatMap_trimEndWhile fun c hc => hprompt c (htrimmed c hc), Text.flatMap_trim hspace]
  rw [lineMatchesCommandEcho, hsame]
  exact h

/-! ### Chatter -/

section Loop
variable {family : BusFamily} {skipBytes : Nat} {command raw : Text} {expected : List UInt8}

theorem lineText_blank (h : ∀ c ∈ raw, Text.isWhitespace c = true) : lineText raw = [] := by
  have hdrop : raw.dropWhile Text.isWhitespace = [] := by
    induction raw with
    | nil => rfl
    | cons c rest ih =>
      rw [List.dropWhile_cons_of_pos (h c List.mem_cons_self)]
      exact ih fun d hd => h d (List.mem_cons_of_mem c hd)
  rw [lineText, Text.trim, hdrop]
  rfl

theorem isSkipped_chatter (hdigits : ∀ b ∈ visibleBytes command, hexNibble b ≠ none) (h : IsChatter command raw) :
    isSkipped (some command) (lineText raw) = true := by
  cases h with
  | echo hecho => simp [isSkipped, echo_lineText hdigits hecho]
  | blank hblank => simp [isSkipped, lineText_blank hblank]
  | prompt hprompt =>
    have hempty : lineText raw = [] := by
      rw [lineText, hprompt]
      rfl
    simp [isSkipped, hempty]
  | searching hsearching =>
    have hprogress : lineText raw = "SEARCHING...".toList := by
      rw [lineText, hsearching]
      rfl
    simp [isSkipped, hprogress]

theorem isStatusNoiseLine_lineText (h : isStatusNoiseLine (Text.trim raw) = true) :
    isStatusNoiseLine (lineText raw) = true := by
  simp only [isStatusNoiseLine, Bool.or_eq_true, beq_iff_eq] at h
  rcases h with (h | h) | h
  all_goals
    rw [lineText, h]
    rfl

theorem acceptLine_skipped {line : Text} (acc : Accumulator) (h : isSkipped (some command) line = true) :
    acceptLine family skipBytes (some command) (some expected) acc line = .ok acc := by
  rw [acceptLine, if_pos h]

theorem acceptLine_status {line : Text} {acc : Accumulator} (hmatched : acc.matchedExpected = true)
    (h : isStatusNoiseLine line = true) :
    acceptLine family skipBytes (some command) (some expected) acc line = .ok acc := by
  by_cases hskip : isSkipped (some command) line = true
  · exact acceptLine_skipped acc hskip
  · simp [acceptLine, hskip, hmatched, h]

/-- The loop ends as it does without the chatter, wherever it stands. -/
theorem acceptLines_chattered (hdigits : ∀ b ∈ visibleBytes command, hexNibble b ≠ none) {hasMatched : Bool}
    {original inserted : List Text} (h : Chattered family skipBytes command expected hasMatched original inserted)
    {acc : Accumulator} (hacc : acc.matchedExpected = hasMatched) :
    acceptLines family skipBytes (some command) (some expected) acc (inserted.map lineText) =
      acceptLines family skipBytes (some command) (some expected) acc (original.map lineText) := by
  induction h generalizing acc with
  | nil => rfl
  | own raw _ ih =>
    rw [List.map_cons, List.map_cons, acceptLines, acceptLines]
    cases hline : acceptLine family skipBytes (some command) (some expected) acc (lineText raw) with
    | error e => rfl
    | ok next =>
      apply ih
      rw [matched_acceptLine hline, hacc]
  | chatter hchatter _ ih =>
    rw [List.map_cons, acceptLines, acceptLine_skipped acc (isSkipped_chatter hdigits hchatter)]
    exact ih hacc
  | status hstatus _ ih =>
    rw [List.map_cons, acceptLines, acceptLine_status hacc (isStatusNoiseLine_lineText hstatus)]
    exact ih hacc

end Loop

/-- **Chatter between the lines of a response does not change its payloads.** -/
theorem decode_chattered (family : BusFamily) {skipBytes : Nat} {command original inserted : Text}
    {expected : List UInt8} {payloads : List (List UInt8)}
    (hexpected : expectedResponsePrefix command skipBytes = some expected)
    (hchatter : Chattered family skipBytes command expected false (rawLines original) (rawLines inserted))
    (hok : decodeElmResponsePayloadsForCommand original family skipBytes (some command) = .ok payloads) :
    decodeElmResponsePayloadsForCommand inserted family skipBytes (some command) = .ok payloads := by
  have hloop := acceptLines_chattered (digits_of_expected hexpected) hchatter
    (show (⟨false, [], []⟩ : Accumulator).matchedExpected = false from rfl)
  simp only [decodeElmResponsePayloadsForCommand, Option.bind_some, hexpected, Option.isNone_some,
    responseLines_eq] at hok ⊢
  rw [hloop]
  cases hlines : acceptLines family skipBytes (some command) (some expected) ⟨false, [], []⟩
      ((rawLines original).map lineText) with
  | error e =>
    rw [hlines] at hok
    cases hok
  | ok acc =>
    rw [hlines] at hok
    dsimp only at hok ⊢
    by_cases hempty : acc.finish.isEmpty = true
    · rw [if_pos hempty] at hok
      cases hok
    · rw [if_neg hempty] at hok ⊢
      exact hok

/-- Each kind of chatter around two answers, and a status after each. -/
theorem decode_chattered_everywhere :
    decodeElmResponsePayloadsForCommand
        " 01 0c\r\rSEARCHING...\r>\r41 0C 1A F8\rSTOPPED\r010C\r41 0C 0B B8\rNO DATA\r>".toList .can 2
        (some "010C".toList) = .ok [[0x1A, 0xF8], [0x0B, 0xB8]] := by
  have hchatter : Chattered .can 2 "010C".toList [0x41, 0x0C] false
      (rawLines "41 0C 1A F8\r41 0C 0B B8\r>".toList)
      (rawLines " 01 0c\r\rSEARCHING...\r>\r41 0C 1A F8\rSTOPPED\r010C\r41 0C 0B B8\rNO DATA\r>".toList) := by
    have hown : rawLines "41 0C 1A F8\r41 0C 0B B8\r>".toList =
        ["41 0C 1A F8".toList, "41 0C 0B B8".toList, ">".toList] := by decide +kernel
    have hraw : rawLines " 01 0c\r\rSEARCHING...\r>\r41 0C 1A F8\rSTOPPED\r010C\r41 0C 0B B8\rNO DATA\r>".toList =
        [" 01 0c".toList, [], "SEARCHING...".toList, ">".toList, "41 0C 1A F8".toList, "STOPPED".toList, "010C".toList,
          "41 0C 0B B8".toList, "NO DATA".toList, ">".toList] := by decide +kernel
    rw [hown, hraw]
    apply Chattered.chatter (.echo (by decide +kernel))
    apply Chattered.chatter (.blank (by simp))
    apply Chattered.chatter (.searching (by decide +kernel))
    apply Chattered.chatter (.prompt (by decide +kernel))
    apply Chattered.own "41 0C 1A F8".toList
    apply Chattered.status (by decide +kernel)
    apply Chattered.chatter (.echo (by decide +kernel))
    apply Chattered.own "41 0C 0B B8".toList
    apply Chattered.status (by decide +kernel)
    apply Chattered.own ">".toList
    exact .nil
  exact decode_chattered .can rfl hchatter rfl

end Obd2.ElmCodec
