import Obd2.Adapter.ElmCodec.Lines

/-! Refusals among the lines of a response.

A negative response decodes to its own three bytes. Before the first match these are dropped, and
after it they are taken for more of the payload (`acceptLine_refusal`). Every line adds the same
number of bytes wherever the loop stands (`size_acceptLines`), so that a refusal that is heard shows
in what is returned (`refusals_unheard_iff`). -/
namespace Obd2.ElmCodec
open Codec Hex

/-- A line of a response into which refusals were inserted. -/
inductive ReceivedLine where
  | own (line : Text)
  | refusal (line : Text)

/-- The lines as they were before the refusals. -/
def ownLines : List ReceivedLine → List Text
  | [] => []
  | .own line :: rest => line :: ownLines rest
  | .refusal _ :: rest => ownLines rest

def allLines : List ReceivedLine → List Text
  | [] => []
  | .own line :: rest => line :: allLines rest
  | .refusal line :: rest => line :: allLines rest

/-- `7F sid nrc`, with the service of the command. It is no positive response, which it could be
of service 3F only. -/
def IsRefusal (command : Text) (expected : List UInt8) (line : Text) : Prop :=
  ∃ service data nrc, parseCompactHex command = .ok (service :: data) ∧
    parseHexLine line = .ok [0x7F, service, nrc] ∧ ¬ expected <+: [0x7F, service, nrc]

section Response
variable (family : BusFamily) (skipBytes : Nat) (command : Text) (expected : List UInt8)

def matchesExpected (line : Text) : Bool :=
  !isSkipped (some command) line &&
    match decodeLine line family skipBytes (some expected) with
    | .ok decoded => expected.isPrefixOf decoded
    | .error _ => false

/-- The line ends the loop with an error. -/
def Breaks (hasMatched : Bool) (line : Text) : Prop :=
  isSkipped (some command) line = false ∧ (hasMatched && isStatusNoiseLine line) = false ∧
    ∃ e, decodeLine line family skipBytes (some expected) = .error e

/-- A line that cannot be decoded is among the lines. -/
def Broken : Bool → List Text → Prop
  | _, [] => False
  | hasMatched, line :: rest => Breaks family skipBytes command expected hasMatched line ∨
      Broken (hasMatched || matchesExpected family skipBytes command expected line) rest

/-- The refusals after the first matching line, but for those that are taken for the command. -/
def heard : Bool → List ReceivedLine → List Text
  | _, [] => []
  | hasMatched, .own line :: rest =>
    heard (hasMatched || matchesExpected family skipBytes command expected line) rest
  | hasMatched, .refusal line :: rest =>
    if hasMatched && !isSkipped (some command) line then line :: heard hasMatched rest
    else heard hasMatched rest

/-- How many bytes the line adds to the payloads. -/
def taken (hasMatched : Bool) (line : Text) : Nat :=
  if isSkipped (some command) line || (hasMatched && isStatusNoiseLine line) then 0
  else
    match decodeLine line family skipBytes (some expected) with
    | .ok decoded =>
      if expected.isPrefixOf decoded then decoded.length - expected.length
      else if hasMatched then decoded.length
      else 0
    | .error _ => 0

def takenAll : Bool → List Text → Nat
  | _, [] => 0
  | hasMatched, line :: rest => taken family skipBytes command expected hasMatched line +
      takenAll (hasMatched || matchesExpected family skipBytes command expected line) rest

end Response

/-- The bytes of all the payloads. -/
def Accumulator.size (acc : Accumulator) : Nat := acc.payloads.flatten.length + acc.current.length

theorem Accumulator.length_finish (acc : Accumulator) : acc.finish.flatten.length = acc.size := by
  rw [finish, size]
  by_cases hcurrent : acc.current = []
  · rw [hcurrent]
    rfl
  · rw [List.isEmpty_eq_false_iff.mpr hcurrent, if_neg Bool.false_ne_true, List.flatten_concat, List.length_append]

theorem Accumulator.length_getD_finish (acc : Accumulator) :
    ((if acc.finish.isEmpty then none else some acc.finish).getD []).flatten.length = acc.size := by
  rw [← acc.length_finish]
  cases hfinish : acc.finish with
  | nil => rfl
  | cons payload rest => rfl

section Loop
variable {family : BusFamily} {skipBytes : Nat} {command line : Text} {expected : List UInt8}
  {acc acc' : Accumulator}

/-! ### Lines -/

/-- What an accepted line did: nothing, or its bytes were accepted. -/
theorem acceptLine_cases (h : acceptLine family skipBytes (some command) (some expected) acc line = .ok acc') :
    ((isSkipped (some command) line || (acc.matchedExpected && isStatusNoiseLine line)) = true ∧ acc' = acc) ∨
      ((isSkipped (some command) line || (acc.matchedExpected && isStatusNoiseLine line)) = false ∧
        ∃ decoded, decodeLine line family skipBytes (some expected) = .ok decoded ∧
          acc' = accept (some expected) acc decoded) := by
  rw [acceptLine, Option.isSome_some, Bool.and_true] at h
  cases hskip : isSkipped (some command) line with
  | true =>
    rw [hskip, if_pos rfl] at h
    exact .inl ⟨rfl, (Except.ok.inj h).symm⟩
  | false =>
    rw [hskip, if_neg Bool.false_ne_true] at h
    cases hnoise : acc.matchedExpected && isStatusNoiseLine line with
    | true =>
      rw [hnoise, if_pos rfl] at h
      exact .inl ⟨rfl, (Except.ok.inj h).symm⟩
    | false =>
      rw [hnoise, if_neg Bool.false_ne_true] at h
      cases hdecode : decodeLine line family skipBytes (some expected) with
      | error e =>
        rw [hdecode] at h
        cases h
      | ok decoded =>
        rw [hdecode] at h
        exact .inr ⟨rfl, decoded, rfl, (Except.ok.inj h).symm⟩

theorem not_error_ok {α : Type} {a : α} : ¬ ∃ e : Obd2Error, Except.ok a = .error e := by
  rintro ⟨e, he⟩
  cases he

theorem acceptLine_error_iff :
    (∃ e, acceptLine family skipBytes (some command) (some expected) acc line = .error e) ↔
      Breaks family skipBytes command expected acc.matchedExpected line := by
  rw [acceptLine, Option.isSome_some, Bool.and_true, Breaks]
  cases isSkipped (some command) line with
  | true => exact iff_of_false not_error_ok fun h => Bool.false_ne_true h.1.symm
  | false =>
    cases acc.matchedExpected && isStatusNoiseLine line with
    | true => exact iff_of_false not_error_ok fun h => Bool.false_ne_true h.2.1.symm
    | false =>
      cases decodeLine line family skipBytes (some expected) with
      | ok decoded => exact iff_of_false not_error_ok fun h => not_error_ok h.2.2
      | error e => exact iff_of_true ⟨e, rfl⟩ ⟨rfl, rfl, e, rfl⟩

theorem matched_acceptLine (h : acceptLine family skipBytes (some command) (some expected) acc line = .ok acc') :
    acc'.matchedExpected =
      (acc.matchedExpected || matchesExpected family skipBytes command expected line) := by
  rcases acceptLine_cases h with ⟨hnothing, rfl⟩ | ⟨hread, decoded, hdecode, rfl⟩
  · cases hskip : isSkipped (some command) line with
    | true => rw [matchesExpected, hskip, Bool.not_true, Bool.false_and, Bool.or_false]
    | false =>
      rw [hskip, Bool.false_or, Bool.and_eq_true] at hnothing
      rw [hnothing.1, Bool.true_or]
  · rw [Bool.or_eq_false_iff] at hread
    rw [matchedExpected_accept, matchesExpected, hread.1, hdecode, Bool.not_false, Bool.true_and]

theorem size_acceptBytes (acc : Accumulator) (decoded : List UInt8) :
    (accept (some expected) acc decoded).size = acc.size +
      if expected.isPrefixOf decoded then decoded.length - expected.length
      else if acc.matchedExpected then decoded.length
      else 0 := by
  obtain ⟨hasMatched, payloads, current⟩ := acc
  dsimp only [accept]
  cases expected.isPrefixOf decoded with
  | true =>
    simp only [if_true, Accumulator.size]
    split
    · rw [List.flatten_concat, List.length_append, List.length_drop]
    · rw [List.length_append, List.length_drop, Nat.add_assoc]
  | false =>
    simp only [Bool.false_eq_true, if_false, Accumulator.size]
    cases hasMatched with
    | true =>
      rw [if_pos rfl, if_pos rfl, List.length_append, Nat.add_assoc]
    | false => rfl

theorem size_acceptLine (h : acceptLine family skipBytes (some command) (some expected) acc line = .ok acc') :
    acc'.size = acc.size + taken family skipBytes command expected acc.matchedExpected line := by
  rcases acceptLine_cases h with ⟨hnothing, rfl⟩ | ⟨hread, decoded, hdecode, rfl⟩
  · rw [taken, if_pos hnothing]
    rfl
  · rw [size_acceptBytes, taken, hread, if_neg Bool.false_ne_true, hdecode]

/-! ### Runs -/

theorem acceptLines_error_iff {lines : List Text} :
    (∃ e, acceptLines family skipBytes (some command) (some expected) acc lines = .error e) ↔
      Broken family skipBytes command expected acc.matchedExpected lines := by
  induction lines generalizing acc with
  | nil => exact iff_of_false not_error_ok id
  | cons line rest ih =>
    rw [acceptLines, Broken, ← acceptLine_error_iff]
    cases hline : acceptLine family skipBytes (some command) (some expected) acc line with
    | error e => exact iff_of_true ⟨e, rfl⟩ (.inl ⟨e, rfl⟩)
    | ok acc' =>
      rw [← matched_acceptLine hline, ← ih]
      exact ⟨.inr, fun h => h.resolve_left not_error_ok⟩

/-- What the lines add does not depend on what is there already. -/
theorem size_acceptLines {lines : List Text}
    (h : acceptLines family skipBytes (some command) (some expected) acc lines = .ok acc') :
    acc'.size = acc.size + takenAll family skipBytes command expected acc.matchedExpected lines := by
  induction lines generalizing acc with
  | nil =>
    obtain rfl := Except.ok.inj h
    rfl
  | cons line rest ih =>
    rw [acceptLines] at h
    cases hline : acceptLine family skipBytes (some command) (some expected) acc line with
    | error e =>
      rw [hline] at h
      cases h
    | ok next =>
      rw [hline] at h
      rw [ih h, takenAll, size_acceptLine hline, matched_acceptLine hline, Nat.add_assoc]

/-! ### Refusals -/

/-- A refusal decodes to itself. -/
theorem decodeLine_refusal (family : BusFamily) (hpos : 0 < skipBytes) (h : IsRefusal command expected line) :
    ∃ bytes, decodeLine line family skipBytes (some expected) = .ok bytes ∧ bytes.length = 3 ∧
      expected.isPrefixOf bytes = false ∧ isStatusNoiseLine line = false := by
  obtain ⟨service, data, nrc, -, hread, hnot⟩ := h
  have hlikely : shouldTreatAsHeadersOff [0x7F, service, nrc] skipBytes (some expected) = true := by
    unfold shouldTreatAsHeadersOff
    dsimp only
    rw [decide_eq_true hpos]
    exact Bool.or_true _
  refine ⟨[0x7F, service, nrc], ?_, rfl, ?_, not_noise_of_bytes hread⟩
  · simp only [decodeLine, hread, hlikely, if_true]
  · exact Bool.eq_false_iff.mpr (mt List.isPrefixOf_iff_prefix.mp hnot)

/-- **Before the first match a refusal is dropped, and after it it is more of the payload.** -/
theorem acceptLine_refusal (family : BusFamily) (hpos : 0 < skipBytes) (h : IsRefusal command expected line) (acc : Accumulator) :
    ∃ bytes, decodeLine line family skipBytes (some expected) = .ok bytes ∧
      acceptLine family skipBytes (some command) (some expected) acc line =
        .ok (if acc.matchedExpected && !isSkipped (some command) line then
          {acc with current := acc.current ++ bytes} else acc) := by
  obtain ⟨bytes, hdecode, -, hnot, hnoise⟩ := decodeLine_refusal family hpos h
  refine ⟨bytes, hdecode, ?_⟩
  rw [acceptLine, hnoise, Bool.and_false, if_neg Bool.false_ne_true, hdecode]
  cases isSkipped (some command) line with
  | true => rw [if_pos rfl, Bool.not_true, Bool.and_false, if_neg Bool.false_ne_true]
  | false =>
    dsimp only [accept]
    rw [if_neg Bool.false_ne_true, hnot, if_neg Bool.false_ne_true, Bool.not_false, Bool.and_true]

theorem matchesExpected_refusal (hpos : 0 < skipBytes) (h : IsRefusal command expected line) :
    matchesExpected family skipBytes command expected line = false := by
  obtain ⟨bytes, hdecode, -, hnot, -⟩ := decodeLine_refusal family hpos h
  rw [matchesExpected, hdecode]
  dsimp only
  rw [hnot, Bool.and_false]

theorem taken_refusal (hpos : 0 < skipBytes) (h : IsRefusal command expected line) (hasMatched : Bool) :
    taken family skipBytes command expected hasMatched line =
      if hasMatched && !isSkipped (some command) line then 3 else 0 := by
  obtain ⟨bytes, hdecode, hlength, hnot, hnoise⟩ := decodeLine_refusal family hpos h
  rw [taken, hnoise, Bool.and_false, Bool.or_false, hdecode]
  dsimp only
  rw [hnot, if_neg Bool.false_ne_true, hlength]
  cases isSkipped (some command) line with
  | true => rw [if_pos rfl, Bool.not_true, Bool.and_false, if_neg Bool.false_ne_true]
  | false => rw [if_neg Bool.false_ne_true, Bool.not_false, Bool.and_true]

theorem refusals_of_cons {item : ReceivedLine} {rest : List ReceivedLine}
    (h : ∀ line, .refusal line ∈ item :: rest → IsRefusal command expected line) :
    ∀ line, .refusal line ∈ rest → IsRefusal command expected line :=
  fun line hline => h line (List.mem_cons_of_mem item hline)

/-- What `acceptLines` gets is what it gets without the refusals that nobody hears. -/
theorem acceptLines_unheard (hpos : 0 < skipBytes) {items : List ReceivedLine}
    (hrefusals : ∀ line, .refusal line ∈ items → IsRefusal command expected line)
    (h : heard family skipBytes command expected acc.matchedExpected items = []) :
    acceptLines family skipBytes (some command) (some expected) acc (allLines items) =
      acceptLines family skipBytes (some command) (some expected) acc (ownLines items) := by
  induction items generalizing acc with
  | nil => rfl
  | cons item rest ih =>
    have hrest := refusals_of_cons hrefusals
    cases item with
    | own line =>
      rw [allLines, ownLines, acceptLines, acceptLines]
      cases hline : acceptLine family skipBytes (some command) (some expected) acc line with
      | error e => rfl
      | ok acc' =>
        rw [heard, ← matched_acceptLine hline] at h
        exact ih hrest h
    | refusal line =>
      obtain ⟨bytes, -, hline⟩ := acceptLine_refusal family hpos
        (hrefusals line List.mem_cons_self) acc
      rw [heard] at h
      split at h
      · cases h
      · next hunheard =>
        rw [allLines, ownLines, acceptLines, hline, if_neg hunheard]
        exact ih hrest h

/-- Refusals neither match nor break the loop. -/
theorem broken_refusals (family : BusFamily) (hpos : 0 < skipBytes) {items : List ReceivedLine}
    (hrefusals : ∀ line, .refusal line ∈ items → IsRefusal command expected line) (hasMatched : Bool) :
    Broken family skipBytes command expected hasMatched (allLines items) ↔
      Broken family skipBytes command expected hasMatched (ownLines items) := by
  induction items generalizing hasMatched with
  | nil => exact Iff.rfl
  | cons item rest ih =>
    have hrest := refusals_of_cons hrefusals
    cases item with
    | own line => exact or_congr Iff.rfl (ih hrest _)
    | refusal line =>
      have hrefusal := hrefusals line List.mem_cons_self
      obtain ⟨bytes, hdecode, -⟩ := decodeLine_refusal family hpos hrefusal
      have hfine : ¬ Breaks family skipBytes command expected hasMatched line := by
        rintro ⟨-, -, e, he⟩
        rw [hdecode] at he
        cases he
      rw [allLines, ownLines, Broken, or_iff_right hfine, matchesExpected_refusal hpos hrefusal, Bool.or_false]
      exact ih hrest hasMatched

/-- **Each refusal that is heard adds its three bytes.** -/
theorem takenAll_refusals (family : BusFamily) (hpos : 0 < skipBytes) {items : List ReceivedLine}
    (hrefusals : ∀ line, .refusal line ∈ items → IsRefusal command expected line) (hasMatched : Bool) :
    takenAll family skipBytes command expected hasMatched (allLines items) =
      takenAll family skipBytes command expected hasMatched (ownLines items) +
        3 * (heard family skipBytes command expected hasMatched items).length := by
  induction items generalizing hasMatched with
  | nil => rfl
  | cons item rest ih =>
    have hrest := refusals_of_cons hrefusals
    cases item with
    | own line => rw [allLines, ownLines, takenAll, takenAll, heard, ih hrest, Nat.add_assoc]
    | refusal line =>
      have hrefusal := hrefusals line List.mem_cons_self
      rw [allLines, ownLines, takenAll, taken_refusal hpos hrefusal, matchesExpected_refusal hpos hrefusal,
        Bool.or_false, ih hrest, heard]
      split
      · rw [List.length_cons]
        omega
      · omega

/-- The run with the refusals has their bytes more. -/
theorem size_acceptLines_refusals (hpos : 0 < skipBytes) {items : List ReceivedLine} {own all : Accumulator}
    (hrefusals : ∀ line, .refusal line ∈ items → IsRefusal command expected line)
    (hown : acceptLines family skipBytes (some command) (some expected) acc (ownLines items) = .ok own)
    (hall : acceptLines family skipBytes (some command) (some expected) acc (allLines items) = .ok all) :
    all.size = own.size + 3 * (heard family skipBytes command expected acc.matchedExpected items).length := by
  rw [size_acceptLines hall, size_acceptLines hown, takenAll_refusals family hpos hrefusals, Nat.add_assoc]

end Loop

/-! ### Whole responses -/

section Responses
variable {family : BusFamily} {skipBytes : Nat} {command response : Text} {expected : List UInt8}

/-- What is returned, if anything is. -/
theorem decode_toOption (hexpected : expectedResponsePrefix command skipBytes = some expected) :
    (decodeElmResponsePayloadsForCommand response family skipBytes (some command)).toOption =
      (acceptLines family skipBytes (some command) (some expected) ⟨false, [], []⟩
        (responseLines response)).toOption.bind fun acc => if acc.finish.isEmpty then none else some acc.finish := by
  simp only [decodeElmResponsePayloadsForCommand, Option.bind_some, hexpected, Option.isNone_some]
  cases acceptLines family skipBytes (some command) (some expected) ⟨false, [], []⟩ (responseLines response) with
  | error e => rfl
  | ok acc =>
    dsimp only
    cases hempty : acc.finish.isEmpty with
    | true => simp only [if_true, Except.toOption, Option.bind_some, hempty]
    | false => simp only [Bool.false_eq_true, if_false, Except.toOption, Option.bind_some, hempty]

theorem pos_of_expectedResponsePrefix (h : expectedResponsePrefix command skipBytes = some expected) :
    0 < skipBytes := by
  refine Nat.pos_of_ne_zero fun hzero => ?_
  rw [expectedResponsePrefix, if_pos hzero] at h
  cases h

/-- **Refusals leave the payloads as they are exactly when none is heard after a match**, or when the
response cannot be decoded without them either. -/
theorem refusals_unheard_iff (family : BusFamily) {original inserted : Text} {items : List ReceivedLine}
    (hexpected : expectedResponsePrefix command skipBytes = some expected)
    (hrefusals : ∀ line, .refusal line ∈ items → IsRefusal command expected line)
    (horiginal : responseLines original = ownLines items) (hinserted : responseLines inserted = allLines items) :
    (decodeElmResponsePayloadsForCommand inserted family skipBytes (some command)).toOption =
      (decodeElmResponsePayloadsForCommand original family skipBytes (some command)).toOption ↔
      Broken family skipBytes command expected false (ownLines items) ∨
        heard family skipBytes command expected false items = [] := by
  have hpos := pos_of_expectedResponsePrefix hexpected
  rw [decode_toOption hexpected, decode_toOption hexpected, horiginal, hinserted]
  have hownBroken : (∃ e, acceptLines family skipBytes (some command) (some expected) ⟨false, [], []⟩
      (ownLines items) = .error e) ↔ Broken family skipBytes command expected false (ownLines items) :=
    acceptLines_error_iff
  have hallBroken : (∃ e, acceptLines family skipBytes (some command) (some expected) ⟨false, [], []⟩
      (allLines items) = .error e) ↔ Broken family skipBytes command expected false (ownLines items) :=
    acceptLines_error_iff.trans (broken_refusals family hpos hrefusals false)
  cases hown : acceptLines family skipBytes (some command) (some expected) ⟨false, [], []⟩ (ownLines items) with
  | error e =>
    have hbreaks := hownBroken.mp ⟨e, hown⟩
    obtain ⟨e', hall⟩ := hallBroken.mpr hbreaks
    rw [hall]
    exact iff_of_true rfl (.inl hbreaks)
  | ok own =>
    have hfine : ¬ Broken family skipBytes command expected false (ownLines items) := fun hbreaks => by
      obtain ⟨e, he⟩ := hownBroken.mpr hbreaks
      rw [hown] at he
      cases he
    rw [or_iff_right hfine]
    refine ⟨fun heq => ?_, fun hunheard => ?_⟩
    · cases hall : acceptLines family skipBytes (some command) (some expected) ⟨false, [], []⟩ (allLines items) with
      | error e => exact absurd (hallBroken.mp ⟨e, hall⟩) hfine
      | ok all =>
        rw [hall] at heq
        have hsame := congrArg (fun payloads => (payloads.getD []).flatten.length) heq
        simp only [Except.toOption, Option.bind_some, Accumulator.length_getD_finish] at hsame
        have hsize := size_acceptLines_refusals hpos hrefusals hown hall
        refine List.eq_nil_of_length_eq_zero ?_
        dsimp only at hsize
        omega
    · rw [← hown, acceptLines_unheard hpos hrefusals hunheard]

end Responses

/-! ### Examples -/

/-- A module that refuses first, and one that answers. -/
theorem refusals_unheard_first :
    (decodeElmResponsePayloadsForCommand "7F 01 12\r41 05 7B\r\r>".toList .can 2 (some "0105".toList)).toOption =
      (decodeElmResponsePayloadsForCommand "41 05 7B\r\r>".toList .can 2 (some "0105".toList)).toOption := by
  let items : List ReceivedLine := [.refusal "7F 01 12".toList, .own "41 05 7B".toList, .own [], .own []]
  have hrefusals : ∀ line, .refusal line ∈ items → IsRefusal "0105".toList [0x41, 0x05] line := by
    intro line hline
    simp only [items, List.mem_cons, ReceivedLine.refusal.injEq, reduceCtorEq, List.not_mem_nil, or_false] at hline
    rw [hline]
    exact ⟨0x01, [0x05], 0x12, rfl, rfl, by decide⟩
  exact (refusals_unheard_iff .can rfl hrefusals rfl rfl).mpr (.inr (by decide +kernel))

/-- A module that refuses after another answered: its refusal is data of the other. -/
theorem refusal_taken_for_data :
    let decode (response command : Text) (skipBytes : Nat) :=
      (decodeElmResponsePayloadsForCommand response .can skipBytes (some command)).toOption
    (decode "41 05 7B\r\r>".toList "0105".toList 2 = some [[0x7B]] ∧
        decode "41 05 7B\r7F 01 12\r\r>".toList "0105".toList 2 = some [[0x7B, 0x7F, 0x01, 0x12]]) ∧
      (decode "43 01 33\r\r>".toList "03".toList 1 = some [[0x01, 0x33]] ∧
        decode "43 01 33\r7F 03 11\r\r>".toList "03".toList 1 = some [[0x01, 0x33, 0x7F, 0x03, 0x11]]) := by
  decide +kernel

end Obd2.ElmCodec
