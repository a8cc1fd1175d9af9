import Obd2.Adapter.ElmCodec.Lines

/-! One frame, printed with headers on and with headers off.

What is printed without headers begins with the expected prefix, and the data come out. With
headers on, a frame of 11-bit CAN comes out the same. Of the other frames the header is kept in
what is decoded, or is not taken for one, so that the prefix is not where it is looked for
(`headers_alike_iff`). -/
namespace Obd2.ElmCodec
open Codec Hex

/-! ### Responses of one line -/

/-- There is one line the loop has something to do with, and the others are skipped. -/
inductive OneLine (command line : Text) : List Text → Prop where
  | skipped {other : Text} {rest : List Text} : isSkipped (some command) other = true →
      OneLine command line rest → OneLine command line (other :: rest)
  | line {rest : List Text} : (∀ other ∈ rest, isSkipped (some command) other = true) →
      OneLine command line (line :: rest)

theorem OneLine.mem {command line : Text} {lines : List Text} (h : OneLine command line lines) : line ∈ lines := by
  induction h with
  | skipped _ _ ih => exact List.mem_cons_of_mem _ ih
  | line _ => exact List.mem_cons_self

section Lines
variable {family : BusFamily} {skipBytes : Nat} {command line : Text} {expectedPrefix : Option (List UInt8)}

theorem acceptLines_skipped {lines : List Text} (h : ∀ line ∈ lines, isSkipped (some command) line = true)
    (acc : Accumulator) : acceptLines family skipBytes (some command) expectedPrefix acc lines = .ok acc := by
  induction lines with
  | nil => rfl
  | cons line rest ih =>
    rw [acceptLines, acceptLine, if_pos (h line List.mem_cons_self)]
    exact ih fun l hl => h l (List.mem_cons_of_mem line hl)

theorem acceptLines_oneLine {lines : List Text} (h : OneLine command line lines) (acc : Accumulator) :
    acceptLines family skipBytes (some command) expectedPrefix acc lines =
      acceptLine family skipBytes (some command) expectedPrefix acc line := by
  induction h with
  | skipped hskip _ ih =>
    rw [acceptLines, acceptLine, if_pos hskip]
    exact ih
  | line hrest =>
    rw [acceptLines]
    cases acceptLine family skipBytes (some command) expectedPrefix acc line with
    | ok acc' => exact acceptLines_skipped hrest acc'
    | error e => rfl

end Lines

/-- The data after the expected prefix, if there are any. -/
def payloadOf (expected decoded : List UInt8) : Option (List UInt8) :=
  if expected <+: decoded ∧ expected.length < decoded.length then some (decoded.drop expected.length) else none

theorem payloadOf_eq_none {expected decoded : List UInt8} (h : ¬ expected <+: decoded) :
    payloadOf expected decoded = none := if_neg fun hboth => h hboth.1

theorem payloadOf_append (expected rest : List UInt8) :
    payloadOf expected (expected ++ rest) = if rest = [] then none else some rest := by
  have hdrop : (expected ++ rest).drop expected.length = rest := List.drop_left
  rw [payloadOf, hdrop]
  by_cases hrest : rest = []
  · rw [if_pos hrest, hrest, List.append_nil, if_neg fun h => Nat.lt_irrefl _ h.2]
  · have hpos : 0 < rest.length := List.length_pos_iff.mpr hrest
    rw [if_neg hrest, if_pos ⟨List.prefix_append .., by rw [List.length_append]; omega⟩]

/-- The first bytes that are read are the payload, or leave none. -/
theorem finish_accept_first (expected decoded : List UInt8) :
    (accept (some expected) ⟨false, [], []⟩ decoded).finish = (payloadOf expected decoded).toList := by
  by_cases hprefix : expected <+: decoded
  · obtain ⟨rest, rfl⟩ := hprefix
    rw [payloadOf_append, accept_append]
    cases rest with
    | nil => rfl
    | cons b rest => rfl
  · have hnot : ¬ expected.isPrefixOf decoded = true := mt List.isPrefixOf_iff_prefix.mp hprefix
    rw [payloadOf_eq_none hprefix]
    dsimp only [accept]
    rw [if_neg hnot]
    rfl

section OneLine
variable {service : UInt8} {data : List UInt8} {skipBytes : Nat} {line response : Text}

/-- A response of one line is the payload of that line. -/
theorem decode_oneLine (family : BusFamily) (hpos : 0 < skipBytes) (hlen : skipBytes ≤ data.length + 1)
    (h : OneLine ((service :: data).flatMap Text.hexByte) line (responseLines response)) :
    (decodeElmResponsePayloadForCommand response family skipBytes
        (some ((service :: data).flatMap Text.hexByte))).toOption =
      if isSkipped (some ((service :: data).flatMap Text.hexByte)) line then none
      else (decodeLine line family skipBytes (some (acknowledged service data skipBytes))).toOption.bind
        (payloadOf (acknowledged service data skipBytes)) := by
  have hused : expectedPrefixIsUsed (some ((service :: data).flatMap Text.hexByte)) skipBytes = true := by
    rw [expectedPrefixIsUsed, decide_eq_true hpos]
    rfl
  simp only [decodeElmResponsePayloadForCommand, decodeElmResponsePayloadsForCommand, Option.bind_some,
    expectedResponsePrefix_command service hpos hlen, Option.isNone_some, acceptLines_oneLine h, acceptLine,
    Bool.false_and, Bool.false_eq_true, if_false, hused, if_true]
  cases isSkipped (some ((service :: data).flatMap Text.hexByte)) line with
  | true => rfl
  | false =>
    simp only [Bool.false_eq_true, if_false]
    cases decodeLine line family skipBytes (some (acknowledged service data skipBytes)) with
    | error e => rfl
    | ok decoded =>
      have hfinish := finish_accept_first (acknowledged service data skipBytes) decoded
      dsimp only
      rw [hfinish]
      show _ = payloadOf (acknowledged service data skipBytes) decoded
      cases payloadOf (acknowledged service data skipBytes) decoded with
      | none => rfl
      | some payload => rfl

end OneLine

/-! ### Printed frames -/

/-- What is printed around the data of a frame. A checksum is any byte, so a valid one too. -/
inductive FrameHeader where
  | j1850 (priority target source checksum : UInt8)
  | iso9141 (format target source checksum : UInt8)
  | kwp2000 (format target source checksum : UInt8)
  | can11Bit (high : Fin 8) (low : UInt8) (padding : List UInt8)
  | can29Bit (b3 b2 b1 b0 : UInt8) (padding : List UInt8)

namespace FrameHeader

def family (header : FrameHeader) : BusFamily :=
  match header with
  | j1850 .. => .j1850
  | iso9141 .. => .iso9141
  | kwp2000 .. => .kwp2000
  | can11Bit .. | can29Bit .. => .can

/-- The bytes of the frame that are printed as bytes: all but an identifier of 11 bits. -/
def printed (header : FrameHeader) (data : List UInt8) : List UInt8 :=
  match header with
  | j1850 priority target source checksum => priority :: target :: source :: (data ++ [checksum])
  | iso9141 format target source checksum => format :: target :: source :: (data ++ [checksum])
  | kwp2000 format target source checksum => format :: target :: source :: (data ++ [checksum])
  | can11Bit _ _ padding => UInt8.ofNat data.length :: (data ++ padding)
  | can29Bit b3 b2 b1 b0 padding => b3 :: b2 :: b1 :: b0 :: UInt8.ofNat data.length :: (data ++ padding)

/-- An identifier of 11 bits, in three digits. -/
def identifier (high : Fin 8) (low : UInt8) : Text := Text.hexDigit (UInt8.ofNat high) :: Text.hexByte low

/-- The line that is printed with headers on. -/
def line (header : FrameHeader) (data : List UInt8) : Text :=
  match header with
  | can11Bit high low _ => Text.spaced (identifier high low :: (header.printed data).map Text.hexByte)
  | _ => Text.spaced ((header.printed data).map Text.hexByte)

def IsCan11Bit (header : FrameHeader) : Prop := ∃ high low padding, header = can11Bit high low padding

end FrameHeader

example : (FrameHeader.can11Bit 0x7 0xE8 [0x00, 0x00]).line [0x41, 0x0C, 0x1A, 0xF8] =
    "7E8 04 41 0C 1A F8 00 00".toList := by decide +kernel

/-! ### Headers of bytes -/

section Printed
variable {family : BusFamily} {line : Text} {raw expected : List UInt8}

theorem headersOff_of_expected (skipBytes : Nat) (h : expected <+: raw) :
    shouldTreatAsHeadersOff raw skipBytes (some expected) = true := by
  unfold shouldTreatAsHeadersOff
  dsimp only
  rw [List.isPrefixOf_iff_prefix.mpr h, Bool.true_or]

/-- A decoder with headers on keeps the bytes of the line, up to a checksum that is left out. -/
theorem decodeHeadersOn_bytes (hread : parseHexLine line = .ok raw) (hcan : family ≠ .can) :
    ∃ decoded, decodeHeadersOn line family = .ok decoded ∧ decoded <+: raw := by
  have hkLine : ∃ decoded, decodeHeadersOn line .iso9141 = .ok decoded ∧ decoded <+: raw := by
    dsimp only [decodeHeadersOn, decodeIsoKLineHeadersOn]
    rw [hread]
    rcases raw with _ | ⟨format, _ | ⟨target, _ | ⟨source, _ | ⟨fourth, _ | ⟨fifth, rest⟩⟩⟩⟩⟩
    · exact ⟨_, rfl, List.prefix_refl _⟩
    · exact ⟨_, rfl, List.prefix_refl _⟩
    · exact ⟨_, rfl, List.prefix_refl _⟩
    · exact ⟨_, rfl, List.prefix_refl _⟩
    · exact ⟨_, rfl, List.prefix_refl _⟩
    · dsimp only
      split
      · exact ⟨_, rfl, (List.prefix_append_right_inj [format, target, source, fourth]).mpr
          (List.dropLast_prefix (fifth :: rest))⟩
      · exact ⟨_, rfl, List.prefix_refl _⟩
  cases family with
  | can => exact absurd rfl hcan
  | j1850 =>
    dsimp only [decodeHeadersOn, decodeJ1850HeadersOn]
    rw [hread]
    rcases raw with _ | ⟨priority, _ | ⟨target, _ | ⟨source, _ | ⟨fourth, rest⟩⟩⟩⟩
    · exact ⟨_, rfl, List.prefix_refl _⟩
    · exact ⟨_, rfl, List.prefix_refl _⟩
    · exact ⟨_, rfl, List.prefix_refl _⟩
    · exact ⟨_, rfl, List.prefix_refl _⟩
    · exact ⟨_, rfl, (List.prefix_append_right_inj [priority, target, source]).mpr (List.dropLast_prefix _)⟩
  | iso9141 => exact hkLine
  | kwp2000 => exact hkLine

/-- Bytes that are not taken for a CAN frame are decoded, up to a checksum that is left out. -/
theorem decodeLine_bytes (skipBytes : Nat) (expected : List UInt8) (hread : parseHexLine line = .ok raw)
    (hcan : family = .can → looksLikeHeadersOn line family = false) :
    ∃ decoded, decodeLine line family skipBytes (some expected) = .ok decoded ∧
      decoded <+: raw ∧ (expected <+: raw → decoded = raw) := by
  simp only [decodeLine, hread]
  by_cases hoff : shouldTreatAsHeadersOff raw skipBytes (some expected) = true
  · rw [if_pos hoff]
    exact ⟨raw, rfl, List.prefix_refl raw, fun _ => rfl⟩
  · have hnot : ¬ expected <+: raw := fun hprefix => hoff (headersOff_of_expected skipBytes hprefix)
    rw [if_neg hoff]
    dsimp only
    by_cases hlooks : looksLikeHeadersOn line family = true
    · have hfamily : family ≠ .can := fun heq => by
        rw [hcan heq] at hlooks
        cases hlooks
      obtain ⟨decoded, hdecoded, hprefix⟩ := decodeHeadersOn_bytes hread hfamily
      rw [if_pos hlooks]
      exact ⟨decoded, hdecoded, hprefix, fun h => absurd h hnot⟩
    · rw [if_neg hlooks]
      exact ⟨raw, rfl, List.prefix_refl raw, fun h => absurd h hnot⟩

end Printed

/-! ### CAN frames of 11 bits -/

section Can11Bit
open FrameHeader
variable (high : Fin 8) (low : UInt8)

theorem isWord_identifier : (identifier high low).IsWord := by
  have hfirst : ∀ high : Fin 8, Text.isWhitespace (Text.hexDigit (UInt8.ofNat high)) = false := by decide
  refine ⟨List.cons_ne_nil _ _, fun c hc => ?_⟩
  rcases List.mem_cons.mp hc with rfl | hc
  · exact hfirst high
  · exact (Text.isWord_hexByte low).2 c hc

theorem bytes_identifier :
    Text.bytes (identifier high low) = (48 + UInt8.ofNat high) :: digitsOf low := by
  have hfirst : String.utf8EncodeChar (Text.hexDigit (UInt8.ofNat high)) = [48 + UInt8.ofNat high] := by
    revert high
    decide
  show String.utf8EncodeChar _ ++ Text.bytes (Text.hexByte low) = _
  rw [hfirst, Text.bytes_hexByte]
  rfl

/-- A digit more, of a number that is small. -/
theorem digitsToUInt32_cons (value : UInt64) {digit nibble : UInt8} (hvalue : value.toNat < 4096)
    (hdigit : hexNibble digit = some nibble) (rest : List UInt8) :
    digitsToUInt32 value (digit :: rest) = digitsToUInt32 (value * 16 + nibble.toUInt64) rest ∧
      (value * 16 + nibble.toUInt64).toNat = value.toNat * 16 + nibble.toNat := by
  have hnibble := nibble.toNat_lt
  have hsum : (value * 16 + nibble.toUInt64).toNat = value.toNat * 16 + nibble.toNat := by
    rw [UInt64.toNat_add, UInt64.toNat_mul, UInt8.toNat_toUInt64]
    show (value.toNat * 16 % _ + _) % _ = _
    omega
  have hsmall : ¬ value * 16 + nibble.toUInt64 > 0xFFFFFFFF := by
    show ¬ (0xFFFFFFFF : UInt64).toNat < (value * 16 + nibble.toUInt64).toNat
    rw [hsum]
    show ¬ 0xFFFFFFFF < _
    omega
  refine ⟨?_, hsum⟩
  rw [digitsToUInt32, hdigit]
  exact if_neg hsmall

theorem hexNibble_identifier :
    hexNibble (48 + UInt8.ofNat high) = some (UInt8.ofNat high) ∧ 48 + UInt8.ofNat high ≠ 43 ∧
      (UInt8.ofNat high).toNat < 8 := by
  revert high
  decide

theorem u32FromHex_identifier : ∃ value, u32FromHex (identifier high low) = some value := by
  obtain ⟨hnibble, hplus, hsmall⟩ := hexNibble_identifier high
  have hhigh : (low >>> 4).toNat < 16 := hexNibble_lt (hexNibble_high low)
  have hdigits : u32FromHex (identifier high low) =
      digitsToUInt32 0 ((48 + UInt8.ofNat high) :: digitsOf low) := by
    rw [u32FromHex, bytes_identifier]
    split
    · next heq => cases heq
    · next heq => exact absurd (List.cons.inj heq).1 hplus
    · next heq => exact absurd (List.cons.inj heq).1 hplus
    · rfl
  have hzero : (0 : UInt64).toNat = 0 := rfl
  obtain ⟨hone, hvalue⟩ := digitsToUInt32_cons 0 (by omega) hnibble (digitsOf low)
  obtain ⟨htwo, hvalue'⟩ := digitsToUInt32_cons _ (by rw [hvalue]; omega) (hexNibble_high low)
    [Text.hexDigitByte (low &&& 0x0F)]
  obtain ⟨hthree, -⟩ := digitsToUInt32_cons _ (by rw [hvalue', hvalue]; omega) (hexNibble_low low) []
  rw [hdigits, hone, digitsOf, htwo, hthree]
  exact ⟨_, rfl⟩

variable {high low} {data padding : List UInt8}

theorem splitWhitespace_can11Bit :
    Text.splitWhitespace ((can11Bit high low padding).line data) =
      identifier high low :: ((can11Bit high low padding).printed data).map Text.hexByte := by
  refine Text.splitWhitespace_spaced fun w hw => ?_
  rcases List.mem_cons.mp hw with rfl | hw
  · exact isWord_identifier high low
  · exact Text.isWord_hexBytes _ w hw

theorem decodeCanHeadersOn_single {line first second third : Text} {rest : List Text} {value : UInt32}
    {pci : UInt8} {bytes : List UInt8} (hsplit : Text.splitWhitespace line = first :: second :: third :: rest)
    (hvalue : u32FromHex first = some value)
    (hparse : parseHexTokens (second :: third :: rest) = .ok (pci :: bytes))
    (hkind : canFrameKind pci = .ok .single) :
    ∃ frame, decodeCanHeadersOn line = .ok frame ∧ frame.payload = bytes.take (pci &&& 0x0F).toNat := by
  obtain ⟨frame, hdecoded, -, hparts⟩ := decodeCanHeadersOn_frame hsplit hvalue hparse hkind
  exact ⟨frame, hdecoded, congrArg Prod.fst hparts⟩

/-- **A frame of 11-bit CAN is decoded to its data.** -/
theorem decodeLine_can11Bit (hdata : data ≠ []) (hfits : data.length ≤ 7) (skipBytes : Nat)
    (expected : List UInt8) :
    decodeLine ((can11Bit high low padding).line data) .can skipBytes (some expected) = .ok data := by
  have hodd : (Text.bytes (identifier high low)).length % 2 ≠ 0 := by
    rw [bytes_identifier]
    show 3 % 2 ≠ 0
    decide
  have hread : ∃ e, parseHexLine ((can11Bit high low padding).line data) = .error e := by
    rw [parseHexLine, splitWhitespace_can11Bit, parseHexTokens]
    exact ⟨_, if_pos hodd⟩
  have hlooks : looksLikeHeadersOn ((can11Bit high low padding).line data) .can = true := by
    dsimp only [looksLikeHeadersOn]
    rw [splitWhitespace_can11Bit]
    dsimp only
    rw [bytes_identifier]
    rfl
  have hdecode : ∃ frame, decodeCanHeadersOn ((can11Bit high low padding).line data) = .ok frame ∧
      frame.payload = data := by
    obtain ⟨value, hvalue⟩ := u32FromHex_identifier high low
    obtain ⟨b, rest, rfl⟩ := List.exists_cons_of_ne_nil hdata
    have hnibble := nibble_ofNat (show (b :: rest).length < 16 by omega)
    have hkind : canFrameKind (UInt8.ofNat (b :: rest).length) = .ok .single := by
      rw [canFrameKind, hnibble.1]
      rfl
    obtain ⟨frame, hframe, hpayload⟩ := decodeCanHeadersOn_single splitWhitespace_can11Bit hvalue
      (parseHexTokens_map (UInt8.ofNat (b :: rest).length :: (b :: rest ++ padding))) hkind
    refine ⟨frame, hframe, ?_⟩
    rw [hpayload, hnibble.2]
    exact List.take_left
  obtain ⟨frame, hframe, hpayload⟩ := hdecode
  obtain ⟨e, herror⟩ := hread
  rw [decodeLine, herror]
  dsimp only
  rw [if_pos hlooks, decodeHeadersOn, hframe]
  exact congrArg Except.ok hpayload

/-! An echo has two digits for each byte, and an identifier of three makes the number odd. -/

theorem eqBytesIgnoreCase_length {as bs : List UInt8} (h : eqBytesIgnoreCase as bs = true) :
    as.length = bs.length := by
  induction as generalizing bs with
  | nil =>
    cases bs with
    | nil => rfl
    | cons b bs => cases h
  | cons a as ih =>
    cases bs with
    | nil => cases h
    | cons b bs =>
      rw [eqBytesIgnoreCase, Bool.and_eq_true] at h
      rw [List.length_cons, List.length_cons, ih h.2]

theorem visibleBytes_hexByte (b : UInt8) : visibleBytes (Text.hexByte b) = digitsOf b := by
  have h := visible_digitsOf [b]
  rw [List.flatMap_cons, List.flatMap_nil, List.append_nil] at h
  rw [visibleBytes, Text.bytes_hexByte]
  exact h

theorem visibleBytes_spaced (bytes : List UInt8) :
    visibleBytes (Text.spaced (bytes.map Text.hexByte)) = bytes.flatMap digitsOf := by
  induction bytes with
  | nil => rfl
  | cons b rest ih =>
    cases rest with
    | nil => exact (visibleBytes_hexByte b).trans (List.append_nil _).symm
    | cons c rest =>
      have hblank : visibleBytes (' ' :: Text.spaced ((c :: rest).map Text.hexByte)) =
          visibleBytes (Text.spaced ((c :: rest).map Text.hexByte)) := rfl
      show visibleBytes (Text.hexByte b ++ ' ' :: Text.spaced ((c :: rest).map Text.hexByte)) = _
      rw [visibleBytes_append, hblank, ih, visibleBytes_hexByte]
      rfl

theorem visibleBytes_can11Bit :
    (visibleBytes ((can11Bit high low padding).line data)).length =
      3 + 2 * ((can11Bit high low padding).printed data).length := by
  have hidentifier : visibleBytes (identifier high low) = (48 + UInt8.ofNat high) :: digitsOf low := by
    have hvisible : ((48 : UInt8) + UInt8.ofNat high) :: digitsOf low =
        [48 + UInt8.ofNat high] ++ [low].flatMap digitsOf := by
      rw [List.flatMap_cons, List.flatMap_nil, List.append_nil]
      rfl
    rw [visibleBytes, bytes_identifier, hvisible, List.filter_append, visible_digitsOf, List.filter_cons,
      hexNibble_not_whitespace (hexNibble_identifier high).1]
    rfl
  show (visibleBytes (identifier high low ++ ' ' :: Text.spaced
    (((can11Bit high low padding).printed data).map Text.hexByte))).length = _
  rw [visibleBytes_append, hidentifier, List.length_append]
  show 3 + (visibleBytes (Text.spaced (((can11Bit high low padding).printed data).map Text.hexByte))).length = _
  rw [visibleBytes_spaced, length_flatMap_digitsOf]

theorem not_skipped_can11Bit (service : UInt8) (request : List UInt8) :
    isSkipped (some ((service :: request).flatMap Text.hexByte)) ((can11Bit high low padding).line data) =
      false := by
  have hsplit : Text.splitWhitespace ((can11Bit high low padding).line data) = _ := splitWhitespace_can11Bit
  have hempty : ((can11Bit high low padding).line data).isEmpty = false := by
    refine List.isEmpty_eq_false_iff.mpr fun heq => ?_
    rw [heq] at hsplit
    cases hsplit
  have hsearching : ((can11Bit high low padding).line data == "SEARCHING...".toList) = false := by
    refine beq_eq_false_iff_ne.mpr fun heq => ?_
    rw [heq] at hsplit
    cases (List.cons.inj hsplit).2
  have hecho : lineMatchesCommandEcho ((can11Bit high low padding).line data)
      ((service :: request).flatMap Text.hexByte) = false := by
    refine Bool.eq_false_iff.mpr fun hecho => ?_
    rw [lineMatchesCommandEcho, Bool.and_eq_true] at hecho
    have hlength := eqBytesIgnoreCase_length hecho.2
    rw [visibleBytes_can11Bit, visibleBytes_command, length_flatMap_digitsOf] at hlength
    omega
  simp only [isSkipped, hempty, hsearching, hecho, hsplit, List.isEmpty_cons, Bool.or_self]

end Can11Bit

/-! ### On and off -/

section Alike
variable {service : UInt8} {data : List UInt8} {skipBytes : Nat} {bytes : List UInt8} {response : Text}

theorem looksLikeHeadersOn_bytes (bytes : List UInt8) :
    looksLikeHeadersOn (Text.spaced (bytes.map Text.hexByte)) .can = false := by
  dsimp only [looksLikeHeadersOn]
  rw [Text.splitWhitespace_spaced (Text.isWord_hexBytes bytes)]
  cases bytes with
  | nil => rfl
  | cons b rest =>
    rw [List.map_cons]
    dsimp only
    rw [Text.bytes_hexByte]
    rfl

/-- A line of bytes gives what comes after the prefix, if it begins with the prefix. -/
theorem decode_bytes (family : BusFamily) (hpos : 0 < skipBytes) (hlen : skipBytes ≤ data.length + 1)
    (h : OneLine ((service :: data).flatMap Text.hexByte) (Text.spaced (bytes.map Text.hexByte))
      (responseLines response)) :
    (decodeElmResponsePayloadForCommand response family skipBytes
        (some ((service :: data).flatMap Text.hexByte))).toOption =
      payloadOf (acknowledged service data skipBytes) bytes := by
  have hread := parseHexLine_spaced bytes
  have hcan : family = .can → looksLikeHeadersOn (Text.spaced (bytes.map Text.hexByte)) family = false :=
    fun heq => heq ▸ looksLikeHeadersOn_bytes bytes
  obtain ⟨decoded, hdecoded, hprefix, hwhole⟩ :=
    decodeLine_bytes skipBytes (acknowledged service data skipBytes) hread hcan
  rw [decode_oneLine family hpos hlen h, hdecoded]
  by_cases hexpected : acknowledged service data skipBytes <+: bytes
  · have hskip : isSkipped (some ((service :: data).flatMap Text.hexByte))
        (Text.spaced (bytes.map Text.hexByte)) = false := by
      obtain ⟨rest, rfl⟩ := hexpected
      exact (not_skipped_of_acknowledged data (tidy_of_mem h.mem) hread).1
    rw [hskip, hwhole hexpected]
    rfl
  · rw [payloadOf_eq_none hexpected]
    split
    · rfl
    · exact payloadOf_eq_none fun h => hexpected (h.trans hprefix)

theorem decode_can11Bit {high : Fin 8} {low : UInt8} {padding : List UInt8} (hpos : 0 < skipBytes)
    (hlen : skipBytes ≤ data.length + 1) (hbytes : bytes ≠ []) (hfits : bytes.length ≤ 7)
    (h : OneLine ((service :: data).flatMap Text.hexByte) ((FrameHeader.can11Bit high low padding).line bytes)
      (responseLines response)) :
    (decodeElmResponsePayloadForCommand response .can skipBytes
        (some ((service :: data).flatMap Text.hexByte))).toOption =
      payloadOf (acknowledged service data skipBytes) bytes := by
  rw [decode_oneLine .can hpos hlen h, not_skipped_can11Bit, decodeLine_can11Bit hbytes hfits]
  rfl

theorem FrameHeader.line_bytes {header : FrameHeader} (hother : ¬ header.IsCan11Bit) (bytes : List UInt8) :
    header.line bytes = Text.spaced ((header.printed bytes).map Text.hexByte) := by
  cases header with
  | can11Bit high low padding => exact absurd ⟨high, low, padding, rfl⟩ hother
  | j1850 => rfl
  | iso9141 => rfl
  | kwp2000 => rfl
  | can29Bit => rfl

/-- Frames of bytes are longer than their data by a header and a checksum at least. -/
theorem FrameHeader.length_printed {header : FrameHeader} (hother : ¬ header.IsCan11Bit) (bytes : List UInt8) :
    bytes.length + 4 ≤ (header.printed bytes).length := by
  cases header with
  | can11Bit high low padding => exact absurd ⟨high, low, padding, rfl⟩ hother
  | j1850 => simp [printed]
  | iso9141 => simp [printed]
  | kwp2000 => simp [printed]
  | can29Bit =>
    simp only [printed, List.length_cons, List.length_append]
    omega

/-- **Headers on and headers off give the same exactly on 11-bit CAN**, or if there are no data in
either. -/
theorem headers_alike_iff (header : FrameHeader) (hpos : 0 < skipBytes) (hlen : skipBytes ≤ data.length + 1)
    {rest : List UInt8}
    (hfits : header.family = .can → (acknowledged service data skipBytes ++ rest).length ≤ 7) {on off : Text}
    (hon : OneLine ((service :: data).flatMap Text.hexByte)
      (header.line (acknowledged service data skipBytes ++ rest)) (responseLines on))
    (hoff : OneLine ((service :: data).flatMap Text.hexByte)
      (Text.spaced ((acknowledged service data skipBytes ++ rest).map Text.hexByte)) (responseLines off)) :
    (decodeElmResponsePayloadForCommand on header.family skipBytes
        (some ((service :: data).flatMap Text.hexByte))).toOption =
      (decodeElmResponsePayloadForCommand off header.family skipBytes
        (some ((service :: data).flatMap Text.hexByte))).toOption ↔
      header.IsCan11Bit ∨ (rest = [] ∧ ¬ acknowledged service data skipBytes <+:
        header.printed (acknowledged service data skipBytes ++ rest)) := by
  rw [decode_bytes header.family hpos hlen hoff]
  by_cases hcan : header.IsCan11Bit
  · refine iff_of_true ?_ (.inl hcan)
    obtain ⟨high, low, padding, rfl⟩ := hcan
    exact decode_can11Bit hpos hlen (List.cons_ne_nil _ _) (hfits rfl) hon
  · rw [FrameHeader.line_bytes hcan] at hon
    have hlonger := header.length_printed hcan (acknowledged service data skipBytes ++ rest)
    rw [decode_bytes header.family hpos hlen hon, payloadOf_append, or_iff_right hcan]
    by_cases hprefix : acknowledged service data skipBytes <+:
        header.printed (acknowledged service data skipBytes ++ rest)
    · -- What comes after the prefix is longer than the data.
      refine iff_of_false (fun heq => ?_) fun h => h.2 hprefix
      obtain ⟨more, hmore⟩ := hprefix
      rw [← hmore, List.length_append, List.length_append] at hlonger
      rw [← hmore, payloadOf_append] at heq
      split at heq
      · next hnil =>
        rw [hnil, List.length_nil] at hlonger
        omega
      · split at heq
        · cases heq
        · obtain rfl := Option.some.inj heq
          omega
    · rw [payloadOf_eq_none hprefix, and_iff_left hprefix]
      by_cases hrest : rest = []
      · rw [if_pos hrest]
        exact iff_of_true rfl hrest
      · rw [if_neg hrest]
        exact iff_of_false nofun hrest

end Alike

/-! ### Examples -/

/-- The engine speed on 11-bit CAN. -/
theorem headers_alike_7E8 :
    (decodeElmResponsePayloadForCommand "7E8 04 41 0C 1A F8 00 00\r\r>".toList .can 2
        (some "010C".toList)).toOption =
      (decodeElmResponsePayloadForCommand "41 0C 1A F8\r\r>".toList .can 2 (some "010C".toList)).toOption := by
  have hskipped : ∀ other ∈ ["".toList, "".toList], isSkipped (some "010C".toList) other = true := by decide
  have hon : OneLine ([0x01, 0x0C].flatMap Text.hexByte) ((FrameHeader.can11Bit 0x7 0xE8 [0x00, 0x00]).line
      (acknowledged 0x01 [0x0C] 2 ++ [0x1A, 0xF8])) (responseLines "7E8 04 41 0C 1A F8 00 00\r\r>".toList) :=
    .line hskipped
  have hoff : OneLine ([0x01, 0x0C].flatMap Text.hexByte)
      (Text.spaced ((acknowledged 0x01 [0x0C] 2 ++ [0x1A, 0xF8]).map Text.hexByte))
      (responseLines "41 0C 1A F8\r\r>".toList) := .line hskipped
  exact (headers_alike_iff (.can11Bit 0x7 0xE8 [0x00, 0x00]) (by decide) (by decide) (by decide) hon hoff).mpr
    (.inl ⟨0x7, 0xE8, [0x00, 0x00], rfl⟩)

/-- The engine speed on the other buses: with headers on there is no payload. -/
theorem headers_on_lost :
    let off := "41 0C 1A F8\r\r>".toList
    let decode (response : Text) (family : BusFamily) :=
      (decodeElmResponsePayloadForCommand response family 2 (some "010C".toList)).toOption
    (decode "48 6B 10 41 0C 1A F8 B2\r\r>".toList .j1850 = none ∧ decode off .j1850 = some [0x1A, 0xF8]) ∧
      (decode "48 6B 10 41 0C 1A F8 22\r\r>".toList .iso9141 = none ∧
        decode off .iso9141 = some [0x1A, 0xF8]) ∧
      (decode "18 DA F1 10 04 41 0C 1A F8 00 00\r\r>".toList .can = none ∧
        decode off .can = some [0x1A, 0xF8]) := by
  decide +kernel

end Obd2.ElmCodec
