import Obd2.Adapter.Elm327.Echo
import Obd2.Adapter.ElmCodec.Chatter
import Obd2.Adapter.ElmCodec.Headers
import Obd2.Protocol.Uds

/-! Negative responses on the way through the adapter.

A reply of one line, 0x7F first, is refused unless the request expects 0x7F or expects nothing
(`decodeResponse_accepted`). Once it is refused its bytes are searched from the end for a code there
is a name for (`checkResponseError_replies`), and so what is reported is the code of the reply only if
it has a name: `negativeResponse_reported_iff` says when. -/
namespace Obd2.Elm327Adapter
open ElmCodec Hex

/-! ### Digits two by two -/

/-- The digits among the bytes of a character. -/
def digitBytes (c : Char) : List UInt8 := (String.utf8EncodeChar c).filter fun b => (hexNibble b).isSome

theorem digitBytes_whitespace {c : Char} (h : Text.isWhitespace c = true) : digitBytes c = [] := by
  have hbytes : Text.bytes [c] = String.utf8EncodeChar c := by simp [Text.bytes]
  apply List.filter_eq_nil_iff.mpr
  intro b hb
  simp [not_digit_of_whitespace h b (hbytes ▸ hb)]

theorem flatMap_digitBytes (t : Text) :
    t.flatMap digitBytes = (Text.bytes t).filter fun b => (hexNibble b).isSome := by
  rw [Text.bytes, List.filter_flatMap]
  rfl

/-- Neither ends of lines nor prompts are digits. -/
theorem digitBytes_ends : digitBytes '\r' = [] ∧ digitBytes '\n' = [] ∧ digitBytes '>' = [] := ⟨rfl, rfl, rfl⟩

theorem compactPairs_filter (high : Option UInt8) (raw : List UInt8) :
    compactPairs high (raw.filter fun b => (hexNibble b).isSome) = compactPairs high raw := by
  induction raw generalizing high with
  | nil => rfl
  | cons b rest ih =>
    cases hdigit : hexNibble b with
    | none =>
      rw [List.filter_cons_of_neg (by simp [hdigit]), compactPairs, hdigit]
      exact ih high
    | some nibble =>
      rw [List.filter_cons_of_pos (by simp [hdigit]), compactPairs, compactPairs, hdigit]
      cases high with
      | none => exact ih (some nibble)
      | some high => exact congrArg _ (ih none)

/-- What a text is without the characters between its digits. -/
theorem compactResponseBytes_eq (t : Text) : compactResponseBytes t = compactPairs none (t.flatMap digitBytes) := by
  rw [compactResponseBytes, flatMap_digitBytes, compactPairs_filter]

theorem compactPairs_hexPairs {token : Text} : ∀ {raw bytes : List UInt8}, hexPairs token raw = .ok bytes →
    ∀ rest, compactPairs none (raw ++ rest) = bytes ++ compactPairs none rest
  | [], _, h, rest => by
    obtain rfl := Except.ok.inj h
    rfl
  | [_], _, h, _ => nomatch h
  | high :: low :: raw, _, h, rest => by
    obtain ⟨nh, nl, more, hhigh, hlow, hmore, rfl⟩ := hexPairs_cons h
    show compactPairs none (high :: low :: (raw ++ rest)) = _
    simp only [compactPairs, hhigh, hlow]
    rw [compactPairs_hexPairs hmore rest]
    rfl

theorem compactPairs_tokens {tokens : List Text} {bytes : List UInt8} (h : parseHexTokens tokens = .ok bytes) :
    compactPairs none (tokens.flatMap (·.flatMap digitBytes)) = bytes := by
  induction tokens generalizing bytes with
  | nil => exact Except.ok.inj h
  | cons token tokens ih =>
    obtain ⟨first, more, hfirst, hmore, rfl⟩ := parseHexTokens_cons h
    have hall : token.flatMap digitBytes = Text.bytes token := by
      rw [flatMap_digitBytes]
      apply List.filter_eq_self.mpr
      intro b hb
      exact Option.isSome_iff_ne_none.mpr (hexPairs_digits hfirst b hb)
    rw [List.flatMap_cons, hall, compactPairs_hexPairs hfirst, ih hmore]

/-- A line that reads as bytes has their digits. -/
theorem compactPairs_line {line : Text} {bytes : List UInt8} (h : parseHexLine line = .ok bytes) :
    compactPairs none (line.flatMap digitBytes) = bytes := by
  rw [← Text.flatMap_splitWhitespace fun c => digitBytes_whitespace]
  exact compactPairs_tokens h

/-! ### Replies of one line -/

/-- The response is one line that reads as `bytes`; besides there are only blank lines and prompts. -/
def Replies (response : Text) (bytes : List UInt8) : Prop :=
  ∃ before raw after, rawLines response = before ++ raw :: after ∧
    (∀ other ∈ before ++ after, lineText other = []) ∧ parseHexLine (lineText raw) = .ok bytes

section Written

/-- A text that neither begins nor ends with whitespace, nor ends with a prompt. -/
def IsTrimmed (t : Text) : Prop :=
  (∃ c rest, t = c :: rest ∧ Text.isWhitespace c = false) ∧
    ∃ front c, t = front ++ [c] ∧ Text.isWhitespace c = false ∧ (c == '>') = false

theorem IsTrimmed.append {t u : Text} (ht : IsTrimmed t) (hu : IsTrimmed u) (between : Text) :
    IsTrimmed (t ++ (between ++ u)) := by
  obtain ⟨⟨c, rest, rfl, hc⟩, -⟩ := ht
  obtain ⟨-, front, d, rfl, hd, hprompt⟩ := hu
  refine ⟨⟨c, rest ++ (between ++ (front ++ [d])), rfl, hc⟩, c :: rest ++ (between ++ front), d, ?_, hd, hprompt⟩
  simp

theorem isTrimmed_hexByte (b : UInt8) : IsTrimmed (Text.hexByte b) := by
  have hprompt : ∀ b : UInt8, (Text.hexDigit (b &&& 0x0F) == '>') = false := forall_byte (by decide +kernel)
  have hword := (Text.isWord_hexByte b).2
  exact ⟨⟨_, _, rfl, hword _ List.mem_cons_self⟩, [_], _, rfl, hword _ (List.mem_cons_of_mem _ List.mem_cons_self),
    hprompt b⟩

variable {bytes : List UInt8} {t : Text}

/-- The text of a line: the bytes with a blank between them or nothing. -/
def IsLine (bytes : List UInt8) (t : Text) : Prop :=
  t = bytes.flatMap Text.hexByte ∨ t = Text.spaced (bytes.map Text.hexByte)

theorem isLine_one {b : UInt8} (h : IsLine [b] t) : t = Text.hexByte b := by
  rcases h with rfl | rfl
  · exact List.append_nil _
  · rfl

theorem isLine_more {b c : UInt8} {rest : List UInt8} (h : IsLine (b :: c :: rest) t) :
    ∃ between u, (between = [] ∨ between = [' ']) ∧ t = Text.hexByte b ++ (between ++ u) ∧ IsLine (c :: rest) u := by
  rcases h with rfl | rfl
  · exact ⟨[], _, .inl rfl, rfl, .inl rfl⟩
  · exact ⟨[' '], _, .inr rfl, rfl, .inr rfl⟩

theorem IsLine.isTrimmed (hne : bytes ≠ []) (h : IsLine bytes t) : IsTrimmed t := by
  induction bytes generalizing t with
  | nil => exact absurd rfl hne
  | cons b rest ih =>
    cases rest with
    | nil => exact isLine_one h ▸ isTrimmed_hexByte b
    | cons c rest =>
      obtain ⟨between, u, -, rfl, hu⟩ := isLine_more h
      exact (isTrimmed_hexByte b).append (ih (List.cons_ne_nil _ _) hu) between

/-- A line has no end of line in it. -/
theorem IsLine.within (hne : bytes ≠ []) (h : IsLine bytes t) : ∀ c ∈ t, (c == '\r' || c == '\n') = false := by
  have hdigits : ∀ b : UInt8, ∀ c ∈ Text.hexByte b, (c == '\r' || c == '\n') = false := by
    intro b
    simp only [Text.hexByte, List.mem_cons, List.not_mem_nil, or_false, forall_eq_or_imp, forall_eq]
    revert b
    exact forall_byte (by decide +kernel)
  induction bytes generalizing t with
  | nil => exact absurd rfl hne
  | cons b rest ih =>
    cases rest with
    | nil => exact isLine_one h ▸ hdigits b
    | cons c rest =>
      obtain ⟨between, u, hbetween, rfl, hu⟩ := isLine_more h
      intro d hd
      rcases List.mem_append.mp hd with hd | hd
      · exact hdigits b d hd
      · rcases List.mem_append.mp hd with hd | hd
        · rcases hbetween with rfl | rfl
          · cases hd
          · rw [List.mem_singleton.mp hd]
            decide
        · exact ih (List.cons_ne_nil _ _) hu d hd

theorem IsLine.parseHexLine (hne : bytes ≠ []) (h : IsLine bytes t) : parseHexLine t = .ok bytes := by
  rcases h with rfl | rfl
  · exact parseHexLine_compact hne
  · exact parseHexLine_spaced bytes

/-- A trimmed text is its line, with a prompt after it or without. -/
theorem IsTrimmed.lineText {prompt : Text} (h : IsTrimmed t) (hprompt : prompt = [] ∨ prompt = ['>']) :
    lineText (t ++ prompt) = t := by
  obtain ⟨⟨c, rest, rfl, hc⟩, front, d, hend, hd, hnot⟩ := h
  have hstart : (c :: rest ++ prompt).dropWhile Text.isWhitespace = c :: rest ++ prompt :=
    List.dropWhile_cons_of_neg (by simp [hc])
  rw [ElmCodec.lineText, Text.trim, hstart, hend]
  rcases hprompt with rfl | rfl
  · rw [List.append_nil, Text.trimEndWhile_concat, hd, if_neg Bool.false_ne_true, Text.trimEndWhile_concat, hnot,
      if_neg Bool.false_ne_true]
  · have hprompt : Text.isWhitespace '>' = false := by decide
    rw [Text.trimEndWhile_concat, hprompt, if_neg Bool.false_ne_true, Text.trimEndWhile_concat, beq_self_eq_true,
      if_pos rfl, Text.trimEndWhile_concat, hnot, if_neg Bool.false_ne_true]

end Written

section Replies
variable {response : Text} {bytes : List UInt8}

/-- What comes after the line of a reply: ends of lines, and a prompt or none. -/
theorem rawLines_ending {prompt : Text} (hprompt : prompt = [] ∨ prompt = ['>']) {ending : Text}
    (hending : ∀ c ∈ ending, (c == '\r' || c == '\n') = true) :
    ∀ other ∈ rawLines (ending ++ prompt), lineText other = [] := by
  induction ending with
  | nil =>
    have hone : rawLines ([] ++ prompt) = [prompt] := by
      rcases hprompt with rfl | rfl
      · rfl
      · rfl
    intro other hother
    rw [hone] at hother
    rw [List.mem_singleton.mp hother]
    rcases hprompt with rfl | rfl
    · rfl
    · rfl
  | cons c ending ih =>
    have hsplit : rawLines (c :: ending ++ prompt) = [] :: rawLines (ending ++ prompt) := by
      rw [rawLines, List.cons_append, List.splitOnP_cons_eq_if_modifyHead, hending c List.mem_cons_self]
      rfl
    rw [hsplit]
    intro other hother
    rcases List.mem_cons.mp hother with rfl | hother
    · rfl
    · exact ih (fun d hd => hending d (List.mem_cons_of_mem c hd)) other hother

/-- Bytes with blanks between them or nothing, then ends of lines, then a prompt or none: that is a reply. -/
theorem replies_of_line {t ending prompt : Text} (hne : bytes ≠ []) (hline : IsLine bytes t)
    (hending : ∀ c ∈ ending, (c == '\r' || c == '\n') = true) (hprompt : prompt = [] ∨ prompt = ['>']) :
    Replies (t ++ (ending ++ prompt)) bytes := by
  have htrimmed := hline.isTrimmed hne
  have hwithin := hline.within hne
  cases ending with
  | nil =>
    have hone : rawLines (t ++ prompt) = [t ++ prompt] := by
      apply List.splitOnP_eq_singleton
      intro c hc
      rcases List.mem_append.mp hc with hc | hc
      · exact hwithin c hc
      · rcases hprompt with rfl | rfl
        · cases hc
        · rw [List.mem_singleton.mp hc]
          decide
    refine ⟨[], t ++ prompt, [], hone, by simp, ?_⟩
    rw [htrimmed.lineText hprompt]
    exact hline.parseHexLine hne
  | cons c ending =>
    have hrest := rawLines_ending hprompt fun d hd => hending d (List.mem_cons_of_mem c hd)
    have hsplit : rawLines (t ++ (c :: ending ++ prompt)) = t :: rawLines (ending ++ prompt) :=
      List.splitOnP_append_cons_of_forall_mem hwithin c (hending c List.mem_cons_self) _
    refine ⟨[], t, rawLines (ending ++ prompt), hsplit, hrest, ?_⟩
    have htext := htrimmed.lineText (.inl rfl)
    rw [List.append_nil] at htext
    rw [htext]
    exact hline.parseHexLine hne

theorem digits_lineText (raw : Text) : (lineText raw).flatMap digitBytes = raw.flatMap digitBytes := by
  have hprompt : ∀ c ∈ Text.trim raw, (c == '>') = true → digitBytes c = [] := by
    intro c _ heq
    rw [beq_iff_eq.mp heq]
    exact digitBytes_ends.2.2
  rw [lineText, Text.flatMap_trimEndWhile hprompt, Text.flatMap_trim fun c _ => digitBytes_whitespace]

/-- The bytes of a reply are all its digits. -/
theorem Replies.compactResponseBytes (h : Replies response bytes) :
    compactResponseBytes (Text.trim response) = bytes := by
  obtain ⟨before, raw, after, hlines, hothers, hraw⟩ := h
  have hends : ∀ c : Char, (c == '\r' || c == '\n') = true → digitBytes c = [] := by
    intro c hc
    rcases Bool.or_eq_true_iff.mp hc with hc | hc
    · rw [beq_iff_eq.mp hc]
      exact digitBytes_ends.1
    · rw [beq_iff_eq.mp hc]
      exact digitBytes_ends.2.1
  have hnone : ∀ others : List Text, (∀ other ∈ others, lineText other = []) → others.flatMap (·.flatMap digitBytes) = [] := by
    intro others hothers
    apply List.flatMap_eq_nil_iff.mpr
    intro other hother
    rw [← digits_lineText, hothers other hother]
    rfl
  rw [compactResponseBytes_eq, Text.flatMap_trim fun c _ => digitBytes_whitespace, ← Text.flatMap_splitOnP hends]
  show compactPairs none ((rawLines response).flatMap _) = _
  rw [hlines, List.flatMap_append, List.flatMap_cons, hnone before fun o ho => hothers o (List.mem_append_left _ ho),
    hnone after fun o ho => hothers o (List.mem_append_right _ ho), List.nil_append, List.append_nil,
    ← digits_lineText]
  exact compactPairs_line hraw

/-- A message within a line that has a character which is neither blank nor a prompt nor a digit. -/
def isMessage (message : Text) : Bool :=
  (message.any fun c => c == '\r' || c == '\n') == false &&
    message.any fun c => ! Text.isWhitespace c && c != '>' &&
      (String.utf8EncodeChar c).any fun b => (hexNibble b).isNone

/-- There is no message in a reply. -/
theorem Replies.not_contains (h : Replies response bytes) {message : Text} (hmessage : isMessage message = true) :
    Text.contains (Text.trim response) message = false := by
  obtain ⟨hsep, hletter⟩ := Bool.and_eq_true_iff.mp hmessage
  obtain ⟨c, hc, hletter⟩ := List.any_eq_true.mp hletter
  simp only [Bool.and_eq_true, Bool.not_eq_true', bne_iff_ne, ne_eq, List.any_eq_true, Option.isNone_iff_eq_none] at hletter
  obtain ⟨⟨hspace, hprompt⟩, code, hcode, hletter⟩ := hletter
  obtain ⟨before, raw, after, hlines, hothers, hraw⟩ := h
  apply Bool.eq_false_iff.mpr
  intro hcontains
  obtain ⟨line, hline, hmem⟩ := line_of_message (List.ne_nil_of_mem hc) (beq_iff_eq.mp hsep) hcontains
  have hc : c ∈ line := hmem c hc hspace hprompt
  rw [responseLines_eq, hlines, List.map_append, List.map_cons] at hline
  have hcase : line = lineText raw ∨ line = [] := by
    rcases List.mem_append.mp hline with hline | hline
    · obtain ⟨other, hother, rfl⟩ := List.mem_map.mp hline
      exact .inr (hothers other (List.mem_append_left _ hother))
    · rcases List.mem_cons.mp hline with rfl | hline
      · exact .inl rfl
      · obtain ⟨other, hother, rfl⟩ := List.mem_map.mp hline
        exact .inr (hothers other (List.mem_append_right _ hother))
  rcases hcase with rfl | rfl
  · exact parseHexLine_digits hraw hc hspace code hcode hletter
  · cases hc

/-- What the adapter says when it does not answer. -/
theorem isMessage_faults : ∀ message ∈ ["ERR94", "LV RESET", "NO DATA", "UNABLE TO CONNECT", "BUS INIT", "CAN ERROR", "?"],
    isMessage message.toList = true := by decide +kernel

theorem Replies.not_fault (h : Replies response bytes) (message : String)
    (hfault : message ∈ ["ERR94", "LV RESET", "NO DATA", "UNABLE TO CONNECT", "BUS INIT", "CAN ERROR", "?"]) :
    Text.contains (Text.trim response) message.toList = false :=
  h.not_contains (isMessage_faults message hfault)

theorem Replies.no_fault (h : Replies response bytes) : reportsFault response = false := by
  rw [reportsFault, h.not_fault "ERR94" (by simp), h.not_fault "LV RESET" (by simp)]
  rfl

/-- The error a negative response is read as: the last code of `rest` there is a name for. -/
def namedError (service : UInt8) (rest : List UInt8) : Option Obd2Error :=
  (rest.reverse.findSome? NegativeResponse.fromByte).map fun nrc => .negativeResponse service nrc

/-- A reply that begins with 0x7F is searched for a code from its end. -/
theorem checkResponseError_replies {service : UInt8} {rest : List UInt8}
    (h : Replies response (0x7F :: service :: rest)) :
    checkResponseError response = (namedError service rest).elim (.ok ()) .error := by
  have hunknown : Text.trim response ≠ "?".toList := by
    intro heq
    have hcontains := h.not_fault "?" (by simp)
    rw [(Text.contains_iff_infix _ _).mpr (heq ▸ List.infix_refl _)] at hcontains
    cases hcontains
  have hdata := h.not_fault "NO DATA" (by simp)
  have hconnect := h.not_fault "UNABLE TO CONNECT" (by simp)
  have hinit := h.not_fault "BUS INIT" (by simp)
  have hcan := h.not_fault "CAN ERROR" (by simp)
  simp only [checkResponseError, hdata, hconnect, hinit, hcan, hunknown, Bool.false_and, Bool.false_eq_true, if_false,
    h.compactResponseBytes, namedError]
  cases rest.reverse.findSome? NegativeResponse.fromByte with
  | some nrc => rfl
  | none => rfl

theorem oneLine_append {command line : Text} {before after : List Text}
    (hbefore : ∀ other ∈ before, isSkipped (some command) other = true)
    (hafter : ∀ other ∈ after, isSkipped (some command) other = true) :
    OneLine command line (before ++ line :: after) := by
  induction before with
  | nil => exact .line hafter
  | cons other rest ih =>
    exact .skipped (hbefore other List.mem_cons_self) (ih fun o ho => hbefore o (List.mem_cons_of_mem _ ho))

/-- The one line of a reply, the others being skipped whatever the command. -/
theorem Replies.oneLine (h : Replies response bytes) (command : Text) :
    ∃ line, OneLine command line (responseLines response) ∧ Tidy line ∧ parseHexLine line = .ok bytes := by
  obtain ⟨before, raw, after, hlines, hothers, hraw⟩ := h
  have hskipped : ∀ lines : List Text, (∀ other ∈ lines, lineText other = []) →
      ∀ line ∈ lines.map lineText, isSkipped (some command) line = true := by
    intro lines hlines line hline
    obtain ⟨other, hother, rfl⟩ := List.mem_map.mp hline
    rw [hlines other hother]
    rfl
  have hbefore := hskipped before fun other hother => hothers other (List.mem_append_left _ hother)
  have hafter := hskipped after fun other hother => hothers other (List.mem_append_right _ hother)
  have hmem : lineText raw ∈ responseLines response := by
    rw [responseLines_eq, hlines]
    exact List.mem_map_of_mem (List.mem_append_right _ List.mem_cons_self)
  refine ⟨lineText raw, ?_, tidy_of_mem hmem, hraw⟩
  rw [responseLines_eq, hlines, List.map_append, List.map_cons]
  exact oneLine_append hbefore hafter

end Replies

/-! ### What is decoded -/

section Decode
variable {service : UInt8} {data rest : List UInt8} {response : Text} {family : Codec.BusFamily}

/-- A line that begins with 0x7F has no header. -/
theorem decodeLine_negative {line : Text} (h : parseHexLine line = .ok (0x7F :: rest)) (service : UInt8)
    (expected : Option (List UInt8)) : decodeLine line family (skipOf service) expected = .ok (0x7F :: rest) := by
  have hlikely : shouldTreatAsHeadersOff (0x7F :: rest) (skipOf service) expected = true := by
    simp [shouldTreatAsHeadersOff, skipOf_pos, isLikelyResponseService]
  simp [decodeLine, h, hlikely]

/-- The loop over a reply that is not taken for the command is one round of it. -/
theorem acceptLines_negative (h : Replies response (0x7F :: rest)) (hfirst : service >>> 4 ≠ (0x7F : UInt8) >>> 4)
    (expected : Option (List UInt8)) (acc : Accumulator) :
    acceptLines family (skipOf service) (some (requestCommand service data)) expected acc (responseLines response) =
      .ok (accept expected acc (0x7F :: rest)) := by
  obtain ⟨line, hone, htidy, hline⟩ := h.oneLine (requestCommand service data)
  obtain ⟨hskipped, hnoise⟩ := not_skipped_of_first data htidy hline hfirst
  rw [acceptLines_oneLine hone, acceptLine, requestCommand, hskipped, hnoise, decodeLine_negative hline]
  simp

theorem decodeResponse_of_finish {acc : Accumulator} {payload : List UInt8}
    (hloop : acceptLines family (skipOf service) (some (requestCommand service data))
      (expectedResponsePrefix (requestCommand service data) (skipOf service))
      ⟨(expectedResponsePrefix (requestCommand service data) (skipOf service)).isNone, [], []⟩ (responseLines response) =
        .ok acc) (hfinish : acc.finish = [payload]) :
    decodeResponse family service data response = .ok (truncateKnownPayload service data payload) := by
  have hused : expectedPrefixIsUsed (some (requestCommand service data)) (skipOf service) = true := by
    simp [expectedPrefixIsUsed, skipOf_pos]
  have hpayloads : decodeElmResponsePayloadsForCommand response family (skipOf service)
      (some (requestCommand service data)) = .ok [payload] := by
    rw [decodeElmResponsePayloadsForCommand]
    simp only [Option.bind_some, hloop, hfinish, List.isEmpty_cons, Bool.false_eq_true, if_false]
  rw [decodeResponse, decodeElmResponsePayloadForCommand, hpayloads]
  simp [hused]

/-- Where 0x7F is expected, or nothing, the reply is taken for an answer. -/
theorem decodeResponse_accepted (family : Codec.BusFamily) (h : Replies response (0x7F :: service :: rest))
    (hservice : service = 0x3F ∨ data.length + 1 < skipOf service) :
    ∃ payload, decodeResponse family service data response = .ok payload := by
  rcases hservice with rfl | hshort
  · have hexpects : expectedResponsePrefix (requestCommand 0x3F data) (skipOf 0x3F) = some [0x7F] :=
      expectedResponsePrefix_command 0x3F (skipOf_pos 0x3F) (Nat.le_add_left 1 data.length)
    refine ⟨truncateKnownPayload 0x3F data (0x3F :: rest),
      decodeResponse_of_finish (acceptLines_negative h (by decide) _ _) ?_⟩
    rw [hexpects]
    rfl
  · have hfirst : ∀ service, 1 < skipOf service → service >>> 4 ≠ (0x7F : UInt8) >>> 4 := forall_byte (by decide +kernel)
    have hmany : 1 < skipOf service := Nat.lt_of_le_of_lt (Nat.le_add_left ..) hshort
    refine ⟨truncateKnownPayload service data (0x7F :: service :: rest),
      decodeResponse_of_finish (acceptLines_negative h (hfirst service hmany) _ _) ?_⟩
    rw [expectedResponsePrefix_short hshort]
    rfl

/-- Where another prefix is expected the reply is refused, and searched for a code. -/
theorem decodeResponse_refused (family : Codec.BusFamily) (h : Replies response (0x7F :: service :: rest))
    (hservice : service ≠ 0x3F) (hlen : skipOf service ≤ data.length + 1) :
    decodeResponse family service data response =
      .error ((namedError service rest).getD
        (.parseError s!"no valid payload in response: {String.ofList (Text.trim response)}")) := by
  have hexpects := expectedResponsePrefix_command service (skipOf_pos service) hlen
  have hother : ∀ service : UInt8, service ≠ 0x3F → (service + 0x40 == 0x7F) = false :=
    forall_byte (by decide +kernel)
  have hloop : acceptLines family (skipOf service) (some (requestCommand service data))
      (some (acknowledged service data (skipOf service))) ⟨false, [], []⟩ (responseLines response) =
        .ok ⟨false, [], []⟩ := by
    obtain ⟨line, hone, htidy, hline⟩ := h.oneLine (requestCommand service data)
    rw [acceptLines_oneLine hone, acceptLine]
    -- the reply may also be taken for the command
    split
    · rfl
    · rw [not_noise_of_bytes hline, decodeLine_negative hline]
      simp [accept, List.isPrefixOf, hother service hservice]
  have hpayloads : decodeElmResponsePayloadsForCommand response family (skipOf service)
      (some (requestCommand service data)) =
        .error (.parseError s!"no valid payload in response: {String.ofList (Text.trim response)}") := by
    rw [decodeElmResponsePayloadsForCommand]
    simp only [Option.bind_some, requestCommand, hexpects, Option.isNone_some]
    rw [← requestCommand, hloop]
    rfl
  rw [decodeResponse, decodeElmResponsePayloadForCommand, hpayloads, checkResponseError_replies h]
  cases namedError service rest with
  | some e => rfl
  | none => rfl

end Decode

/-! ### What is reported -/

theorem fromByte_ne_unknown (b n : UInt8) : NegativeResponse.fromByte b ≠ some (.unknown n) := by
  unfold NegativeResponse.fromByte
  split
  all_goals simp

/-- The code that is found from the end is that of the reply exactly if there is a name for it. -/
theorem findSome_iff (echoed : List UInt8) (n : UInt8) :
    (echoed ++ [n]).reverse.findSome? NegativeResponse.fromByte = some (NegativeResponse.fromByteOrUnknown n) ↔
      (NegativeResponse.fromByte n).isSome := by
  rw [List.reverse_concat, List.findSome?_cons, NegativeResponse.fromByteOrUnknown]
  cases hnamed : NegativeResponse.fromByte n with
  | some nrc => simp
  | none =>
    constructor
    · intro h
      obtain ⟨b, -, hb⟩ := List.exists_of_findSome?_eq_some h
      exact absurd hb (fromByte_ne_unknown b n)
    · intro h
      cases h

/-- **A negative response is reported through the adapter as it is read off the bus exactly if its code
has a name, and the request is one that expects a prefix other than 0x7F.** -/
theorem negativeResponse_reported_iff {L : Type} [Link L] {adapter : Elm327Adapter L} {req : RoutedRequest}
    {response : Text} (echoed : List UInt8) (n : UInt8) (hanswered : Answers adapter req response)
    (hreply : Replies response (0x7F :: req.serviceId :: (echoed ++ [n]))) :
    (((routedRequest req).run adapter).1 =
        .error (.negativeResponse req.serviceId (NegativeResponse.fromByteOrUnknown n)) ∧
      parseUdsResponse req.serviceId [0x7F, req.serviceId, n] =
        .error (.negativeResponse req.serviceId (NegativeResponse.fromByteOrUnknown n))) ↔
      (NegativeResponse.fromByte n).isSome ∧ req.serviceId ≠ 0x3F ∧ skipOf req.serviceId ≤ req.data.length + 1 := by
  obtain ⟨family, adapter', hrun⟩ := routedRequest_of_answers hanswered hreply.no_fault
  have hparsed : parseUdsResponse req.serviceId [0x7F, req.serviceId, n] =
      .error (.negativeResponse req.serviceId (NegativeResponse.fromByteOrUnknown n)) := rfl
  rw [and_iff_left hparsed, hrun]
  by_cases hexpected : req.serviceId ≠ 0x3F ∧ skipOf req.serviceId ≤ req.data.length + 1
  · rw [and_iff_left hexpected, ← findSome_iff echoed n,
      decodeResponse_refused family hreply hexpected.1 hexpected.2]
    rw [namedError]
    cases (echoed ++ [n]).reverse.findSome? NegativeResponse.fromByte with
    | some nrc => simp [Outcome.ofExcept]
    | none => simp [Outcome.ofExcept]
  · have haccepted : req.serviceId = 0x3F ∨ req.data.length + 1 < skipOf req.serviceId := by
      rcases Decidable.not_and_iff_not_or_not.mp hexpected with hservice | hshort
      · exact .inl (Decidable.not_not.mp hservice)
      · exact .inr (Nat.lt_of_not_le hshort)
    obtain ⟨payload, hpayload⟩ := decodeResponse_accepted family hreply haccepted
    simp [hpayload, hexpected, Outcome.ofExcept]

theorem replies_spaced {bytes : List UInt8} {response : Text} (hne : bytes ≠ [])
    (h : response = Text.spaced (bytes.map Text.hexByte) ++ (['\r', '\r'] ++ ['>'])) : Replies response bytes := by
  rw [h]
  exact replies_of_line hne (.inr rfl) (by simp) (.inr rfl)

/-- A code with a name, behind the echoed identifier. -/
theorem negativeResponse_reported_twelve :
    let adapter := Elm327Adapter.new (MockTransport.expecting [("22162F".toList, "7F 22 16 2F 12\r\r>".toList)])
    ((routedRequest ⟨0x22, [0x16, 0x2F], .broadcast⟩).run adapter).1 =
      .error (.negativeResponse 0x22 .subFunctionNotSupported) := by
  intro adapter
  have hanswered : Answers adapter ⟨0x22, [0x16, 0x2F], .broadcast⟩ "7F 22 16 2F 12\r\r>".toList :=
    ⟨adapter, ⟨[], []⟩, rfl, rfl⟩
  have hreply : Replies "7F 22 16 2F 12\r\r>".toList [0x7F, 0x22, 0x16, 0x2F, 0x12] :=
    replies_spaced (List.cons_ne_nil _ _) rfl
  exact ((negativeResponse_reported_iff [0x16, 0x2F] 0x12 hanswered hreply).mpr ⟨rfl, by decide, by decide⟩).1

/-- A code without a name: a byte of the echoed identifier is reported in its place, or there is no
code at all. -/
theorem negativeResponse_misreported :
    let echoing := Elm327Adapter.new (MockTransport.expecting [("221231".toList, "7F 22 12 31 21\r\r>".toList)])
    let silent := Elm327Adapter.new (MockTransport.expecting [("22F190".toList, "7F 22 21\r\r>".toList)])
    let reported := ((routedRequest ⟨0x22, [0x12, 0x31], .broadcast⟩).run echoing).1
    let unreported := ((routedRequest ⟨0x22, [0xF1, 0x90], .broadcast⟩).run silent).1
    Answers echoing ⟨0x22, [0x12, 0x31], .broadcast⟩ "7F 22 12 31 21\r\r>".toList ∧
      Answers silent ⟨0x22, [0xF1, 0x90], .broadcast⟩ "7F 22 21\r\r>".toList ∧
      Replies "7F 22 12 31 21\r\r>".toList [0x7F, 0x22, 0x12, 0x31, 0x21] ∧
      Replies "7F 22 21\r\r>".toList [0x7F, 0x22, 0x21] ∧
      parseUdsResponse 0x22 [0x7F, 0x22, 0x21] = .error (.negativeResponse 0x22 (.unknown 0x21)) ∧
      reported = .error (.negativeResponse 0x22 .requestOutOfRange) ∧
      reported ≠ .error (.negativeResponse 0x22 (.unknown 0x21)) ∧
      unreported = .error (.parseError "no valid payload in response: 7F 22 21\r\r>") ∧
      unreported ≠ .error (.negativeResponse 0x22 (.unknown 0x21)) := by
  intro echoing silent reported unreported
  obtain ⟨hreported, hunreported⟩ : reported = .error (.negativeResponse 0x22 .requestOutOfRange) ∧
      unreported = .error (.parseError "no valid payload in response: 7F 22 21\r\r>") := by decide +kernel
  refine ⟨⟨echoing, ⟨[], []⟩, rfl, rfl⟩, ⟨silent, ⟨[], []⟩, rfl, rfl⟩, replies_spaced (List.cons_ne_nil _ _) rfl,
    replies_spaced (List.cons_ne_nil _ _) rfl, rfl, hreported, ?_, hunreported, ?_⟩
  · rw [hreported]
    decide
  · rw [hunreported]
    decide

end Obd2.Elm327Adapter
