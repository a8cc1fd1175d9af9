import Obd2.Error
import Obd2.Text.Lemmas

/-! Hexadecimal text: tokens of whole bytes, or one compact run of digits. -/
namespace Obd2.Hex

def hexNibble (byte : UInt8) : Option UInt8 :=
  if 48 ≤ byte ∧ byte ≤ 57 then some (byte - 48)
  else if 97 ≤ byte ∧ byte ≤ 102 then some (byte - 97 + 10)
  else if 65 ≤ byte ∧ byte ≤ 70 then some (byte - 65 + 10)
  else none

def invalidHexByte (token : Text) : Obd2Error :=
  .parseError s!"invalid hex byte: {String.ofList token}"

/-- Whole bytes of two digits each. -/
def hexPairs (token : Text) : List UInt8 → Except Obd2Error (List UInt8)
  | [] => .ok []
  | [_] => .error (invalidHexByte token)
  | high :: low :: rest =>
    match hexNibble high, hexNibble low with
    | some high, some low =>
      match hexPairs token rest with
      | .ok bytes => .ok (((high <<< 4) ||| low) :: bytes)
      | .error e => .error e
    | _, _ => .error (invalidHexByte token)

def parseHexTokens : List Text → Except Obd2Error (List UInt8)
  | [] => .ok []
  | token :: rest =>
    let raw := Text.bytes token
    if raw.length % 2 ≠ 0 then .error (invalidHexByte token)
    else
      match hexPairs token raw with
      | .ok bytes =>
        match parseHexTokens rest with
        | .ok more => .ok (bytes ++ more)
        | .error e => .error e
      | .error e => .error e

def parseHexLine (line : Text) : Except Obd2Error (List UInt8) :=
  parseHexTokens (Text.splitWhitespace line)

/-- The digits of `input` with the ASCII whitespace taken out; `high` is a digit that waits
for its second one. -/
def parseCompactHexFrom (input : Text) : List UInt8 → Option UInt8 → Except Obd2Error (List UInt8)
  | [], none => .ok []
  | [], some _ => .error (invalidHexByte input)
  | byte :: rest, high =>
    match hexNibble byte with
    | none => .error (invalidHexByte input)
    | some nibble =>
      match high with
      | none => parseCompactHexFrom input rest (some nibble)
      | some high =>
        match parseCompactHexFrom input rest none with
        | .ok bytes => .ok (((high <<< 4) ||| nibble) :: bytes)
        | .error e => .error e

def parseCompactHex (input : Text) : Except Obd2Error (List UInt8) :=
  parseCompactHexFrom input ((Text.bytes input).filter fun b => !Text.isAsciiWhitespace b) none

/-! ### Digits -/

theorem hexNibble_high (b : UInt8) : hexNibble (Text.hexDigitByte (b >>> 4)) = some (b >>> 4) := by
  revert b
  exact forall_byte (by decide +kernel)

theorem hexNibble_low (b : UInt8) : hexNibble (Text.hexDigitByte (b &&& 0x0F)) = some (b &&& 0x0F) := by
  revert b
  exact forall_byte (by decide +kernel)

theorem hexNibble_lt {b n : UInt8} (h : hexNibble b = some n) : n < 16 := by
  have hall : ∀ b, (hexNibble b).all (· < 16) = true := forall_byte (by decide +kernel)
  have := hall b
  rw [h] at this
  exact of_decide_eq_true this

theorem hexNibble_not_whitespace {b n : UInt8} (h : hexNibble b = some n) :
    Text.isAsciiWhitespace b = false := by
  have hall : ∀ b, Text.isAsciiWhitespace b = true → hexNibble b = none :=
    forall_byte (by decide +kernel)
  cases hw : Text.isAsciiWhitespace b with
  | false => rfl
  | true => rw [hall b hw] at h; cases h

/-- The case of a digit does not matter. -/
theorem hexNibble_of_eqIgnoreCase {a b : UInt8} (h : Text.eqIgnoreAsciiCase a b = true) :
    hexNibble a = hexNibble b := by
  have hlower : ∀ b, hexNibble (Text.toAsciiLowercase b) = hexNibble b := forall_byte (by decide +kernel)
  rw [← hlower a, ← hlower b, beq_iff_eq.mp h]

/-- The high half of a byte put together from two digits. -/
theorem high_of_pair {high low : UInt8} (hh : high < 16) (hl : low < 16) :
    ((high <<< 4) ||| low) >>> 4 = high := by
  have : ∀ h l : Fin 16, ((UInt8.ofNat h <<< 4) ||| UInt8.ofNat l) >>> 4 = UInt8.ofNat h := by decide
  have := this ⟨high.toNat, hh⟩ ⟨low.toNat, hl⟩
  rwa [UInt8.ofNat_toNat, UInt8.ofNat_toNat] at this

/-! ### Whole texts -/

/-- The two digits of a byte. -/
def digitsOf (b : UInt8) : List UInt8 := [Text.hexDigitByte (b >>> 4), Text.hexDigitByte (b &&& 0x0F)]

theorem bytes_flatMap_hexByte (bs : List UInt8) :
    Text.bytes (bs.flatMap Text.hexByte) = bs.flatMap digitsOf := by
  induction bs with
  | nil => rfl
  | cons b rest ih =>
    rw [List.flatMap_cons, List.flatMap_cons, ← ih, digitsOf, ← Text.bytes_hexByte]
    exact List.flatMap_append

theorem length_flatMap_digitsOf (bytes : List UInt8) : (bytes.flatMap digitsOf).length = 2 * bytes.length := by
  induction bytes with
  | nil => rfl
  | cons b rest ih =>
    rw [List.flatMap_cons, List.length_append, ih, List.length_cons]
    show 2 + _ = _
    omega

theorem visible_digitsOf (bs : List UInt8) :
    (bs.flatMap digitsOf).filter (fun b => !Text.isAsciiWhitespace b) = bs.flatMap digitsOf := by
  rw [List.filter_eq_self]
  intro a ha
  obtain ⟨b, -, hab⟩ := List.mem_flatMap.mp ha
  simp only [digitsOf, List.mem_cons, List.not_mem_nil, or_false] at hab
  rcases hab with rfl | rfl
  · rw [hexNibble_not_whitespace (hexNibble_high b)]
    rfl
  · rw [hexNibble_not_whitespace (hexNibble_low b)]
    rfl

/-- Bytes written as digits read as the bytes. -/
theorem parseCompactHex_flatMap (bs : List UInt8) :
    parseCompactHex (bs.flatMap Text.hexByte) = .ok bs := by
  unfold parseCompactHex
  rw [bytes_flatMap_hexByte, visible_digitsOf]
  generalize bs.flatMap Text.hexByte = input
  induction bs with
  | nil => rfl
  | cons b rest ih =>
    simp only [List.flatMap_cons, digitsOf, List.cons_append, List.nil_append, parseCompactHexFrom,
      hexNibble_high, hexNibble_low, ih, Text.nibbles]

theorem hexPairs_hexByte (token : Text) (b : UInt8) : hexPairs token (Text.bytes (Text.hexByte b)) = .ok [b] := by
  rw [Text.bytes_hexByte, hexPairs, hexNibble_high, hexNibble_low]
  simp only [hexPairs, Text.nibbles]

theorem parseHexTokens_map (bytes : List UInt8) : parseHexTokens (bytes.map Text.hexByte) = .ok bytes := by
  induction bytes with
  | nil => rfl
  | cons b rest ih =>
    have heven : ¬ (Text.bytes (Text.hexByte b)).length % 2 ≠ 0 := by
      rw [Text.bytes_hexByte]
      show ¬ 2 % 2 ≠ 0
      decide
    simp only [List.map_cons, parseHexTokens, if_neg heven, hexPairs_hexByte, ih]
    rfl

/-- Bytes with blanks between them read as the bytes. -/
theorem parseHexLine_spaced (bytes : List UInt8) :
    parseHexLine (Text.spaced (bytes.map Text.hexByte)) = .ok bytes := by
  rw [parseHexLine, Text.splitWhitespace_spaced (Text.isWord_hexBytes bytes), parseHexTokens_map]

theorem hexPairs_digitsOf (token : Text) (bytes : List UInt8) :
    hexPairs token (bytes.flatMap digitsOf) = .ok bytes := by
  induction bytes with
  | nil => rfl
  | cons b rest ih =>
    simp only [List.flatMap_cons, digitsOf, List.cons_append, List.nil_append, hexPairs, hexNibble_high,
      hexNibble_low, ih, Text.nibbles]

/-- Bytes with nothing between them read as the bytes. -/
theorem parseHexLine_compact {bytes : List UInt8} (hne : bytes ≠ []) :
    parseHexLine (bytes.flatMap Text.hexByte) = .ok bytes := by
  have hword : Text.IsWord (bytes.flatMap Text.hexByte) := by
    constructor
    · cases bytes with
      | nil => exact absurd rfl hne
      | cons b rest => exact List.cons_ne_nil _ _
    · intro c hc
      obtain ⟨b, -, hc⟩ := List.mem_flatMap.mp hc
      exact (Text.isWord_hexByte b).2 c hc
  have htokens : Text.splitWhitespace (bytes.flatMap Text.hexByte) = [bytes.flatMap Text.hexByte] :=
    Text.splitWhitespace_spaced (List.forall_mem_singleton.mpr hword)
  have heven : ¬ (bytes.flatMap digitsOf).length % 2 ≠ 0 := by
    rw [length_flatMap_digitsOf]
    omega
  rw [parseHexLine, htokens]
  simp only [parseHexTokens, bytes_flatMap_hexByte, if_neg heven, hexPairs_digitsOf, List.append_nil]

/-! ### What was read -/

theorem hexPairs_cons {token : Text} {high low : UInt8} {rest bytes : List UInt8}
    (h : hexPairs token (high :: low :: rest) = .ok bytes) :
    ∃ nh nl more, hexNibble high = some nh ∧ hexNibble low = some nl ∧
      hexPairs token rest = .ok more ∧ bytes = ((nh <<< 4) ||| nl) :: more := by
  rw [hexPairs] at h
  split at h
  · next nh nl hhigh hlow =>
    split at h
    · next more hmore =>
      cases h
      exact ⟨nh, nl, more, hhigh, hlow, hmore, rfl⟩
    · cases h
  · cases h

theorem hexPairs_digits {token : Text} : ∀ {raw bytes : List UInt8}, hexPairs token raw = .ok bytes →
    ∀ b ∈ raw, hexNibble b ≠ none
  | [], _, _ => fun _ hb => absurd hb List.not_mem_nil
  | [_], _, h => nomatch h
  | high :: low :: rest, _, h => by
    obtain ⟨nh, nl, more, hhigh, hlow, hmore, -⟩ := hexPairs_cons h
    intro b hb
    rcases List.mem_cons.mp hb with rfl | hb
    · rw [hhigh]
      exact Option.some_ne_none nh
    · rcases List.mem_cons.mp hb with rfl | hb
      · rw [hlow]
        exact Option.some_ne_none nl
      · exact hexPairs_digits hmore b hb

theorem parseHexTokens_cons {token : Text} {rest : List Text} {bytes : List UInt8}
    (h : parseHexTokens (token :: rest) = .ok bytes) :
    ∃ first more, hexPairs token (Text.bytes token) = .ok first ∧ parseHexTokens rest = .ok more ∧
      bytes = first ++ more := by
  unfold parseHexTokens at h
  dsimp only at h
  split at h
  · cases h
  · split at h
    · next first hfirst =>
      split at h
      · next more hmore =>
        cases h
        exact ⟨first, more, hfirst, hmore, rfl⟩
      · cases h
    · cases h

theorem parseHexTokens_digits {tokens : List Text} {bytes : List UInt8}
    (h : parseHexTokens tokens = .ok bytes) :
    ∀ token ∈ tokens, ∀ b ∈ Text.bytes token, hexNibble b ≠ none := by
  induction tokens generalizing bytes with
  | nil => intro token ht; cases ht
  | cons first rest ih =>
    obtain ⟨_, more, hfirst, hmore, -⟩ := parseHexTokens_cons h
    intro token ht
    rcases List.mem_cons.mp ht with rfl | ht
    · exact hexPairs_digits hfirst
    · exact ih hmore token ht

/-- In a line of hexadecimal bytes there are digits and whitespace. -/
theorem parseHexLine_digits {line : Text} {bytes : List UInt8} (h : parseHexLine line = .ok bytes)
    {c : Char} (hc : c ∈ line) (hspace : Text.isWhitespace c = false) :
    ∀ b ∈ String.utf8EncodeChar c, hexNibble b ≠ none := by
  obtain ⟨word, hword, hmem⟩ := Text.mem_splitWhitespace hc hspace
  intro b hb
  exact parseHexTokens_digits h word hword b (List.mem_flatMap.mpr ⟨c, hmem, hb⟩)

/-- The first byte read begins with the line's first digit. -/
theorem parseHexLine_head {c : Char} {line : Text} {b : UInt8} {bytes : List UInt8}
    (hc : Text.isWhitespace c = false) (h : parseHexLine (c :: line) = .ok (b :: bytes)) :
    ∃ first rest, Text.bytes (c :: line) = first :: rest ∧ hexNibble first = some (b >>> 4) := by
  obtain ⟨word, words, hwords⟩ := Text.splitWhitespace_cons hc line
  rw [parseHexLine, hwords] at h
  obtain ⟨bytesOfWord, more, hword, -, heq⟩ := parseHexTokens_cons h
  cases hutf : String.utf8EncodeChar c with
  | nil =>
    have hpos := Char.utf8Size_pos c
    rw [← String.length_utf8EncodeChar, hutf] at hpos
    cases hpos
  | cons first tail =>
    rw [Text.bytes_cons, hutf, List.cons_append] at hword
    cases hrest : tail ++ Text.bytes word with
    | nil => rw [hrest] at hword; cases hword
    | cons low rest =>
      rw [hrest] at hword
      obtain ⟨nh, nl, more', hhigh, hlow, -, rfl⟩ := hexPairs_cons hword
      rw [List.cons_append, List.cons.injEq] at heq
      refine ⟨first, tail ++ Text.bytes line, by rw [Text.bytes_cons, hutf, List.cons_append], ?_⟩
      rw [heq.1, high_of_pair (hexNibble_lt hhigh) (hexNibble_lt hlow), hhigh]

end Obd2.Hex
