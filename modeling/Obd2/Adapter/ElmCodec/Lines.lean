import Obd2.Adapter.ElmCodec

/-! Responses whose lines are bytes.

`Reads` says what the lines of a response read as: some are skipped, the others are bytes.
When all of these begin with the expected prefix, the loop comes down to a fold of `accept`
over them (`acceptLines_reads`). Prefixes followed by data each begin a payload of their own
(`finish_payloads`); prefixes alone leave nothing (`finish_nothing`). -/
namespace Obd2.ElmCodec
open Hex

/-- A line that does not begin with whitespace. -/
def Tidy (line : Text) : Prop := ∀ c rest, line = c :: rest → Text.isWhitespace c = false

theorem tidy_of_mem {response line : Text} (h : line ∈ responseLines response) : Tidy line := by
  obtain ⟨raw, -, rfl⟩ := List.mem_map.mp h
  intro c rest hc
  exact Text.head_trim (Text.prefix_trimEndWhile ..) hc

/-- The lines read as `data`, those between them being skipped. -/
inductive Reads (command : Text) : List Text → List (List UInt8) → Prop where
  | nil : Reads command [] []
  | skipped {line lines data} : isSkipped (some command) line = true → Reads command lines data →
      Reads command (line :: lines) data
  | bytes {line lines bytes data} : parseHexLine line = .ok bytes → Reads command lines data →
      Reads command (line :: lines) (bytes :: data)

/-! ### The expected prefix -/

/-- What is expected of a response to the command: the acknowledged service and the echoed bytes. -/
abbrev acknowledged (service : UInt8) (data : List UInt8) (skipBytes : Nat) : List UInt8 :=
  (service + 0x40) :: data.take (skipBytes - 1)

theorem expectedResponsePrefix_command (service : UInt8) {data : List UInt8} {skipBytes : Nat}
    (hpos : 0 < skipBytes) (hlen : skipBytes ≤ data.length + 1) :
    expectedResponsePrefix ((service :: data).flatMap Text.hexByte) skipBytes =
      some (acknowledged service data skipBytes) := by
  have hskip : skipBytes ≠ 0 := by omega
  have hlen : ¬ (service :: data).length < skipBytes := by
    rw [List.length_cons]
    omega
  simp only [expectedResponsePrefix, hskip, if_false, parseCompactHex_flatMap, hlen]

theorem eqBytesIgnoreCase_mem {as bs : List UInt8} (h : eqBytesIgnoreCase as bs = true) :
    ∀ a ∈ as, ∃ b ∈ bs, Text.eqIgnoreAsciiCase a b = true := by
  induction as generalizing bs with
  | nil => intro a ha; cases ha
  | cons a as ih =>
    cases bs with
    | nil => cases h
    | cons b bs =>
      rw [eqBytesIgnoreCase, Bool.and_eq_true] at h
      intro c hc
      rcases List.mem_cons.mp hc with rfl | hc
      · exact ⟨b, List.mem_cons_self, h.1⟩
      · obtain ⟨d, hd, heq⟩ := ih h.2 c hc
        exact ⟨d, List.mem_cons_of_mem b hd, heq⟩

theorem ne_message_of_bytes {line : Text} {bytes : List UInt8} (h : parseHexLine line = .ok bytes)
    (message : Text) (hmessage : ∃ e, parseHexLine message = .error e) : (line == message) = false := by
  obtain ⟨e, he⟩ := hmessage
  refine beq_eq_false_iff_ne.mpr fun heq => ?_
  rw [heq, he] at h
  cases h

/-- A status message is no bytes. -/
theorem not_noise_of_bytes {line : Text} {bytes : List UInt8} (h : parseHexLine line = .ok bytes) :
    isStatusNoiseLine line = false := by
  simp only [isStatusNoiseLine, ne_message_of_bytes h "NO DATA".toList ⟨_, rfl⟩,
    ne_message_of_bytes h "STOPPED".toList ⟨_, rfl⟩, ne_message_of_bytes h "BUS BUSY".toList ⟨_, rfl⟩,
    Bool.or_self]

theorem visibleBytes_append (t u : Text) : visibleBytes (t ++ u) = visibleBytes t ++ visibleBytes u := by
  simp [visibleBytes, Text.bytes]

section Command
variable {service : UInt8} {data : List UInt8}

theorem visibleBytes_command :
    visibleBytes ((service :: data).flatMap Text.hexByte) = (service :: data).flatMap digitsOf := by
  rw [visibleBytes, bytes_flatMap_hexByte, visible_digitsOf]

/-- A line that begins with another digit than the service is not the echo of the command. -/
theorem not_echo_of_first {line : Text} (htidy : Tidy line) {b : UInt8} {bytes : List UInt8}
    (h : parseHexLine line = .ok (b :: bytes)) (hother : service >>> 4 ≠ b >>> 4) :
    lineMatchesCommandEcho line ((service :: data).flatMap Text.hexByte) = false := by
  cases line with
  | nil => cases h
  | cons c rest =>
    obtain ⟨first, tail, hbytes, hdigit⟩ := parseHexLine_head (htidy c rest rfl) h
    have hvisible : visibleBytes (c :: rest) = first :: tail.filter fun b => !Text.isAsciiWhitespace b := by
      rw [visibleBytes, hbytes, List.filter_cons, hexNibble_not_whitespace hdigit]
      rfl
    cases heq : Text.eqIgnoreAsciiCase first (Text.hexDigitByte (service >>> 4)) with
    | false =>
      rw [lineMatchesCommandEcho, hvisible, visibleBytes_command, List.flatMap_cons, digitsOf,
        List.cons_append, eqBytesIgnoreCase, heq, Bool.false_and, Bool.and_false]
    | true =>
      have hsame := hexNibble_of_eqIgnoreCase heq
      rw [hdigit, hexNibble_high, Option.some.injEq] at hsame
      exact absurd hsame.symm hother

/-- A line that reads as bytes and does not begin like the command is neither skipped nor a status
message. -/
theorem not_skipped_of_first (data : List UInt8) {line : Text} (htidy : Tidy line) {b : UInt8} {bytes : List UInt8}
    (h : parseHexLine line = .ok (b :: bytes)) (hother : service >>> 4 ≠ b >>> 4) :
    isSkipped (some ((service :: data).flatMap Text.hexByte)) line = false ∧
      isStatusNoiseLine line = false := by
  have hempty : line.isEmpty = false := by
    cases line with
    | nil => cases h
    | cons c rest => rfl
  have htokens : (Text.splitWhitespace line).isEmpty = false := by
    rw [parseHexLine] at h
    cases hsplit : Text.splitWhitespace line with
    | nil => rw [hsplit] at h; cases h
    | cons token tokens => rfl
  refine ⟨?_, not_noise_of_bytes h⟩
  simp only [isSkipped, hempty, htokens, not_echo_of_first htidy h hother,
    ne_message_of_bytes h "SEARCHING...".toList ⟨_, rfl⟩, Bool.or_self]

/-- An acknowledged service byte has another first digit than the service. -/
theorem acknowledged_first : ∀ service : UInt8, service >>> 4 ≠ (service + 0x40) >>> 4 :=
  forall_byte (by decide +kernel)

/-- A line of acknowledged bytes is neither skipped nor a status message. -/
theorem not_skipped_of_acknowledged (data : List UInt8) {line : Text} (htidy : Tidy line) {bytes : List UInt8}
    (h : parseHexLine line = .ok ((service + 0x40) :: bytes)) :
    isSkipped (some ((service :: data).flatMap Text.hexByte)) line = false ∧
      isStatusNoiseLine line = false :=
  not_skipped_of_first data htidy h (acknowledged_first service)

/-! ### The loop -/

variable {family : Codec.BusFamily} {skipBytes : Nat} {tail : List UInt8}

theorem acceptLine_acknowledged {line : Text} (htidy : Tidy line) {bytes : List UInt8}
    (h : parseHexLine line = .ok bytes) (hpre : ((service + 0x40) :: tail) <+: bytes)
    (acc : Accumulator) :
    acceptLine family skipBytes (some ((service :: data).flatMap Text.hexByte))
        (some ((service + 0x40) :: tail)) acc line =
      .ok (accept (some ((service + 0x40) :: tail)) acc bytes) := by
  obtain ⟨rest, rfl⟩ := hpre
  obtain ⟨hskipped, hnoise⟩ := not_skipped_of_acknowledged data htidy h
  have hisprefix : ((service + 0x40) :: tail).isPrefixOf ((service + 0x40) :: tail ++ rest) = true :=
    List.isPrefixOf_iff_prefix.mpr (List.prefix_append ..)
  have hdecode : decodeLine line family skipBytes (some ((service + 0x40) :: tail)) =
      .ok ((service + 0x40) :: tail ++ rest) := by
    simp only [decodeLine, h, shouldTreatAsHeadersOff, hisprefix, Bool.true_or, if_true]
  simp only [acceptLine, hskipped, hnoise, Bool.and_false, Bool.false_eq_true, if_false, hdecode]

/-- The loop over lines that acknowledge the command is a fold over their bytes. -/
theorem acceptLines_reads {lines : List Text} {reads : List (List UInt8)}
    (htidy : ∀ line ∈ lines, Tidy line)
    (h : Reads ((service :: data).flatMap Text.hexByte) lines reads)
    (hpre : ∀ bytes ∈ reads, ((service + 0x40) :: tail) <+: bytes) (acc : Accumulator) :
    acceptLines family skipBytes (some ((service :: data).flatMap Text.hexByte))
        (some ((service + 0x40) :: tail)) acc lines =
      .ok (reads.foldl (accept (some ((service + 0x40) :: tail))) acc) := by
  induction h generalizing acc with
  | nil => rfl
  | skipped hskip _ ih =>
    rw [acceptLines, acceptLine, if_pos hskip]
    exact ih (fun line hline => htidy line (List.mem_cons_of_mem _ hline)) hpre acc
  | bytes hline _ ih =>
    rw [acceptLines, acceptLine_acknowledged (htidy _ List.mem_cons_self) hline
      (hpre _ List.mem_cons_self)]
    exact ih (fun line hline => htidy line (List.mem_cons_of_mem _ hline))
      (fun bytes hbytes => hpre bytes (List.mem_cons_of_mem _ hbytes)) _

end Command

/-! ### The payloads -/

section Payloads
variable {expected : List UInt8}

theorem matchedExpected_accept (acc : Accumulator) (decoded : List UInt8) :
    (accept (some expected) acc decoded).matchedExpected =
      (acc.matchedExpected || expected.isPrefixOf decoded) := by
  dsimp only [accept]
  cases expected.isPrefixOf decoded with
  | true =>
    rw [if_pos rfl, Bool.or_true]
    split <;> rfl
  | false =>
    rw [if_neg Bool.false_ne_true, Bool.or_false]
    split <;> rfl

theorem accept_append (acc : Accumulator) (rest : List UInt8) :
    accept (some expected) acc (expected ++ rest) =
      if acc.matchedExpected && !acc.current.isEmpty then
        ⟨true, acc.payloads ++ [acc.current], rest⟩
      else
        ⟨true, acc.payloads, acc.current ++ rest⟩ := by
  have hisprefix : expected.isPrefixOf (expected ++ rest) = true :=
    List.isPrefixOf_iff_prefix.mpr (List.prefix_append ..)
  have hdrop : (expected ++ rest).drop expected.length = rest := List.drop_left
  simp only [accept, hisprefix, if_true, hdrop]

theorem finish_of_ne_nil {matched : Bool} {payloads : List (List UInt8)} {current : List UInt8}
    (h : current ≠ []) : (⟨matched, payloads, current⟩ : Accumulator).finish = payloads ++ [current] := by
  rw [Accumulator.finish, List.isEmpty_eq_false_iff.mpr h]
  rfl

/-- A prefix with data after it ends the payload before it and begins its own. -/
theorem finish_accept {acc : Accumulator} (hacc : acc.matchedExpected = true ∨ acc.current = [])
    {rest : List UInt8} (hrest : rest ≠ []) :
    (accept (some expected) acc (expected ++ rest)).finish = acc.finish ++ [rest] := by
  rw [accept_append]
  by_cases hcurrent : acc.current = []
  · have hfinish : acc.finish = acc.payloads := by
      rw [Accumulator.finish, hcurrent]
      rfl
    rw [hcurrent, hfinish]
    simp only [List.isEmpty_nil, Bool.not_true, Bool.and_false, Bool.false_eq_true, if_false,
      List.nil_append]
    exact finish_of_ne_nil hrest
  · have hmatched : acc.matchedExpected = true := hacc.resolve_right hcurrent
    rw [hmatched, List.isEmpty_eq_false_iff.mpr hcurrent]
    simp only [Bool.not_false, Bool.and_self, if_true]
    rw [finish_of_ne_nil hrest]
    exact congrArg (· ++ [rest]) (finish_of_ne_nil hcurrent).symm

theorem matched_accept (acc : Accumulator) (rest : List UInt8) :
    (accept (some expected) acc (expected ++ rest)).matchedExpected = true := by
  rw [matchedExpected_accept, List.isPrefixOf_iff_prefix.mpr (List.prefix_append ..), Bool.or_true]

/-- **Every prefix followed by data is a payload of its own.** -/
theorem finish_payloads (expected : List UInt8) (rests : List (List UInt8)) (hrests : ∀ rest ∈ rests, rest ≠ [])
    {acc : Accumulator} (hacc : acc.matchedExpected = true ∨ acc.current = []) :
    ((rests.map (expected ++ ·)).foldl (accept (some expected)) acc).finish = acc.finish ++ rests := by
  induction rests generalizing acc with
  | nil => rw [List.append_nil]; rfl
  | cons rest rests ih =>
    rw [List.map_cons, List.foldl_cons,
      ih (fun r hr => hrests r (List.mem_cons_of_mem rest hr)) (.inl (matched_accept acc rest)),
      finish_accept hacc (hrests rest List.mem_cons_self), List.append_assoc]
    rfl

/-- **Prefixes alone leave nothing.** -/
theorem finish_nothing (expected : List UInt8) (reads : List (List UInt8)) (hreads : ∀ bytes ∈ reads, bytes = expected)
    {acc : Accumulator} (hpayloads : acc.payloads = []) (hcurrent : acc.current = []) :
    (reads.foldl (accept (some expected)) acc).finish = [] := by
  induction reads generalizing acc with
  | nil =>
    rw [List.foldl_nil, Accumulator.finish, hcurrent]
    exact hpayloads
  | cons bytes reads ih =>
    have hbytes : bytes = expected ++ [] := by
      rw [List.append_nil]
      exact hreads bytes List.mem_cons_self
    rw [List.foldl_cons, hbytes, accept_append, hcurrent]
    simp only [List.isEmpty_nil, Bool.not_true, Bool.and_false, Bool.false_eq_true, if_false,
      List.append_nil]
    exact ih (fun b hb => hreads b (List.mem_cons_of_mem bytes hb)) hpayloads rfl

end Payloads

/-! ### Whole responses -/

section Responses
variable {service : UInt8} {data : List UInt8} {skipBytes : Nat} {family : Codec.BusFamily}
  {response : Text}

theorem decode_of_loop (hpos : 0 < skipBytes) (hlen : skipBytes ≤ data.length + 1)
    {reads : List (List UInt8)} (hpre : ∀ bytes ∈ reads, acknowledged service data skipBytes <+: bytes)
    (h : Reads ((service :: data).flatMap Text.hexByte) (responseLines response) reads)
    {payloads : List (List UInt8)}
    (hfinish : (reads.foldl (accept (some (acknowledged service data skipBytes)))
      ⟨false, [], []⟩).finish = payloads) :
    decodeElmResponsePayloadsForCommand response family skipBytes
        (some ((service :: data).flatMap Text.hexByte)) =
      if payloads.isEmpty then
        .error (.parseError s!"no valid payload in response: {String.ofList (Text.trim response)}")
      else .ok payloads := by
  subst hfinish
  simp only [decodeElmResponsePayloadsForCommand, Option.bind_some,
    expectedResponsePrefix_command service hpos hlen, Option.isNone_some]
  rw [acceptLines_reads (fun line hline => tidy_of_mem hline) h hpre]

/-- A response of acknowledged lines with data after the prefix of each: the payloads are
the data, line by line. -/
theorem payloads_of_reads (family : Codec.BusFamily) (hpos : 0 < skipBytes) (hlen : skipBytes ≤ data.length + 1)
    {rests : List (List UInt8)} (hne : rests ≠ []) (hrests : ∀ rest ∈ rests, rest ≠ [])
    (h : Reads ((service :: data).flatMap Text.hexByte) (responseLines response)
      (rests.map (acknowledged service data skipBytes ++ ·))) :
    decodeElmResponsePayloadsForCommand response family skipBytes
        (some ((service :: data).flatMap Text.hexByte)) = .ok rests := by
  have hpre : ∀ bytes ∈ rests.map (acknowledged service data skipBytes ++ ·),
      acknowledged service data skipBytes <+: bytes := by
    intro bytes hbytes
    obtain ⟨rest, -, rfl⟩ := List.mem_map.mp hbytes
    exact List.prefix_append ..
  have hstart : (⟨false, [], []⟩ : Accumulator).matchedExpected = true ∨
      (⟨false, [], []⟩ : Accumulator).current = [] := .inr rfl
  have hfinish := finish_payloads (acknowledged service data skipBytes) rests hrests hstart
  rw [decode_of_loop hpos hlen hpre h hfinish]
  show (if rests.isEmpty then _ else Except.ok rests) = _
  rw [if_neg (by rw [List.isEmpty_eq_false_iff.mpr hne]; exact Bool.false_ne_true)]

/-- A response of bare acknowledgements: there is no payload, and that is an error. -/
theorem no_payloads_of_reads (family : Codec.BusFamily) (hpos : 0 < skipBytes) (hlen : skipBytes ≤ data.length + 1)
    {reads : List (List UInt8)} (hreads : ∀ bytes ∈ reads, bytes = acknowledged service data skipBytes)
    (h : Reads ((service :: data).flatMap Text.hexByte) (responseLines response) reads) :
    decodeElmResponsePayloadsForCommand response family skipBytes
        (some ((service :: data).flatMap Text.hexByte)) =
      .error (.parseError s!"no valid payload in response: {String.ofList (Text.trim response)}") := by
  have hpre : ∀ bytes ∈ reads, acknowledged service data skipBytes <+: bytes := by
    intro bytes hbytes
    obtain rfl := hreads bytes hbytes
    exact List.prefix_refl _
  exact decode_of_loop hpos hlen hpre h
    (finish_nothing (acknowledged service data skipBytes) reads hreads rfl rfl)

end Responses

end Obd2.ElmCodec
