import Obd2.Protocol.Hex

/-! The lines that are read as hexadecimal bytes.

A line of bytes is whitespace and tokens in turn, each token the digits of some bytes in either case
and each followed by whitespace or by the line's end. `hexParsing_exact`: these lines are the ones
`parse_hex_line` reads, and where the whitespace is ASCII `parse_compact_hex` reads the same bytes. -/
namespace Obd2.Hex

/-- Two digits for each byte, in either case. -/
def Writes (token : Text) (bytes : List UInt8) : Prop := token.map Char.toUpper = bytes.flatMap Text.hexByte

/-- `char::is_ascii_whitespace`. -/
def asciiSpace (c : Char) : Bool :=
  c.toNat == 9 || c.toNat == 10 || c.toNat == 12 || c.toNat == 13 || c.toNat == 32

/-- Tokens of bytes with `space` around them. -/
inductive HexLine (space : Char → Bool) : Text → List UInt8 → Prop
  | blank {line : Text} (h : ∀ c ∈ line, space c = true) : HexLine space line []
  | token {before token rest : Text} {bytes more : List UInt8} (hbefore : ∀ c ∈ before, space c = true)
      (hne : token ≠ []) (hwrites : Writes token bytes) (hend : ∀ c ∈ rest.head?, space c = true)
      (hrest : HexLine space rest more) : HexLine space (before ++ (token ++ rest)) (bytes ++ more)

/-! ### Digits -/

/-- An ASCII character is that of a byte. -/
theorem ofNat_ascii {c : Char} (h : c.toNat < 128) : ∃ b : UInt8, b < 0x80 ∧ c = Char.ofNat b.toNat := by
  refine ⟨UInt8.ofNat c.toNat, ?_, ?_⟩
  · rw [UInt8.lt_iff_toNat_lt, UInt8.toNat_ofNat']
    show c.toNat % 256 < 128
    omega
  · rw [UInt8.toNat_ofNat', Nat.mod_eq_of_lt (by omega), Char.ofNat_toNat]

theorem toUpper_not_ascii {c : Char} (h : ¬ c.toNat < 128) : c.toUpper = c := by
  apply dif_neg
  rintro ⟨-, hle⟩
  exact h (Nat.lt_of_le_of_lt hle (by decide))

theorem utf8_singleton {c : Char} {d : UInt8} (h : String.utf8EncodeChar c = [d]) : c.toNat < 128 := by
  have hsize : c.utf8Size = 1 := by
    rw [← String.length_utf8EncodeChar, h]
    rfl
  exact Nat.lt_succ_of_le (Char.utf8Size_eq_one_iff.mp hsize)

/-- A character is a digit in either case if its one byte is. -/
theorem toUpper_eq_hexDigit_iff {c : Char} {n : UInt8} (hn : n < 16) :
    c.toUpper = Text.hexDigit n ↔ ∃ d, String.utf8EncodeChar c = [d] ∧ hexNibble d = some n := by
  have hall : ∀ b : UInt8, ∀ n : Fin 16, b < 0x80 →
      ((Char.ofNat b.toNat).toUpper = Text.hexDigit (UInt8.ofNat n) ↔ hexNibble b = some (UInt8.ofNat n)) :=
    forall_byte (by decide +kernel)
  by_cases hascii : c.toNat < 128
  · obtain ⟨b, hb, rfl⟩ := ofNat_ascii hascii
    have hdigit := hall b ⟨n.toNat, hn⟩ hb
    rw [UInt8.ofNat_toNat] at hdigit
    simp [Text.utf8_ascii hb, hdigit]
  · have hdigits : ∀ n : Fin 16, (Text.hexDigit (UInt8.ofNat n)).toNat < 128 := by decide
    have hdigit := hdigits ⟨n.toNat, hn⟩
    rw [UInt8.ofNat_toNat] at hdigit
    rw [toUpper_not_ascii hascii]
    constructor
    · rintro rfl
      exact absurd hdigit hascii
    · rintro ⟨d, hd, -⟩
      exact absurd (utf8_singleton hd) hascii

theorem nibble_lt (b : UInt8) : b >>> 4 < 16 ∧ b &&& 0x0F < 16 := by
  revert b
  exact forall_byte (by decide +kernel)

/-- The low half of a byte put together from two digits. -/
theorem low_of_pair {high low : UInt8} (hh : high < 16) (hl : low < 16) :
    ((high <<< 4) ||| low) &&& 0x0F = low := by
  have : ∀ h l : Fin 16, ((UInt8.ofNat h <<< 4) ||| UInt8.ofNat l) &&& 0x0F = UInt8.ofNat l := by decide
  have := this ⟨high.toNat, hh⟩ ⟨low.toNat, hl⟩
  rwa [UInt8.ofNat_toNat, UInt8.ofNat_toNat] at this

/-- The last byte of a character that is not ASCII is no digit. -/
theorem utf8_digit {c : Char} (h : ∀ b ∈ String.utf8EncodeChar c, hexNibble b ≠ none) :
    ∃ d, String.utf8EncodeChar c = [d] := by
  have hlast : ∀ b : UInt8, hexNibble (b &&& 0x3f ||| 0x80) = none := forall_byte (by decide +kernel)
  have hpos := Char.utf8Size_pos c
  have hle := Char.utf8Size_le_four c
  obtain hone | htwo | hthree | hfour :
      c.utf8Size = 1 ∨ c.utf8Size = 2 ∨ c.utf8Size = 3 ∨ c.utf8Size = 4 := by omega
  · exact ⟨_, String.utf8EncodeChar_eq_singleton hone⟩
  · rw [String.utf8EncodeChar_eq_cons_cons htwo] at h
    exact absurd (hlast _) (h _ (List.mem_of_getLast? rfl))
  · rw [String.utf8EncodeChar_eq_cons_cons_cons hthree] at h
    exact absurd (hlast _) (h _ (List.mem_of_getLast? rfl))
  · rw [String.utf8EncodeChar_eq_cons_cons_cons_cons hfour] at h
    exact absurd (hlast _) (h _ (List.mem_of_getLast? rfl))

/-! ### Tokens -/

theorem map_toUpper_of_hexPairs {label : Text} : ∀ {token : Text} {bytes : List UInt8},
    hexPairs label (Text.bytes token) = .ok bytes → Writes token bytes
  | [], bytes, h => by
    cases h
    rfl
  | [c], bytes, h => by
    -- a digit is one byte, so that a single one is never a pair
    obtain ⟨d, hd⟩ := utf8_digit (c := c) fun b hb => hexPairs_digits h b (List.mem_append_left _ hb)
    rw [Text.bytes_cons, hd] at h
    cases h
  | high :: low :: rest, bytes, h => by
    have hdigits := hexPairs_digits h
    rw [Text.bytes_cons, Text.bytes_cons] at hdigits
    obtain ⟨dh, hhigh⟩ := utf8_digit (c := high) fun b hb => hdigits b (List.mem_append_left _ hb)
    obtain ⟨dl, hlow⟩ := utf8_digit (c := low) fun b hb =>
      hdigits b (List.mem_append_right _ (List.mem_append_left _ hb))
    rw [Text.bytes_cons, Text.bytes_cons, hhigh, hlow] at h
    obtain ⟨nh, nl, more, hnh, hnl, hmore, rfl⟩ := hexPairs_cons h
    have hrest : rest.map Char.toUpper = more.flatMap Text.hexByte := map_toUpper_of_hexPairs hmore
    have hhigh := (toUpper_eq_hexDigit_iff (hexNibble_lt hnh)).mpr ⟨dh, hhigh, hnh⟩
    have hlow := (toUpper_eq_hexDigit_iff (hexNibble_lt hnl)).mpr ⟨dl, hlow, hnl⟩
    rw [Writes, List.map_cons, List.map_cons, hhigh, hlow, hrest, List.flatMap_cons, Text.hexByte,
      high_of_pair (hexNibble_lt hnh) (hexNibble_lt hnl), low_of_pair (hexNibble_lt hnh) (hexNibble_lt hnl)]
    rfl

theorem hexPairs_of_writes (label : Text) {token : Text} {bytes : List UInt8} (h : Writes token bytes) :
    hexPairs label (Text.bytes token) = .ok bytes := by
  induction bytes generalizing token with
  | nil =>
    obtain rfl := List.map_eq_nil_iff.mp h
    rfl
  | cons b bytes ih =>
    obtain ⟨high, tail, rfl, hhigh, htail⟩ := List.map_eq_cons_iff.mp h
    obtain ⟨low, rest, rfl, hlow, hrest⟩ := List.map_eq_cons_iff.mp htail
    obtain ⟨dh, hdh, hnh⟩ := (toUpper_eq_hexDigit_iff (nibble_lt b).1).mp hhigh
    obtain ⟨dl, hdl, hnl⟩ := (toUpper_eq_hexDigit_iff (nibble_lt b).2).mp hlow
    rw [Text.bytes_cons, Text.bytes_cons, hdh, hdl]
    simp only [List.singleton_append, hexPairs, hnh, hnl, ih hrest, Text.nibbles]

theorem hexPairs_length {label : Text} : ∀ {raw bytes : List UInt8}, hexPairs label raw = .ok bytes →
    raw.length = 2 * bytes.length
  | [], _, h => by
    cases h
    rfl
  | [_], _, h => nomatch h
  | high :: low :: rest, _, h => by
    obtain ⟨nh, nl, more, -, -, hmore, rfl⟩ := hexPairs_cons h
    have hrest := hexPairs_length hmore
    simp only [List.length_cons]
    omega

theorem parseHexTokens_writes {token : Text} {rest : List Text} {bytes more : List UInt8}
    (hwrites : Writes token bytes) (hrest : parseHexTokens rest = .ok more) :
    parseHexTokens (token :: rest) = .ok (bytes ++ more) := by
  have hpairs := hexPairs_of_writes token hwrites
  have heven : ¬ (Text.bytes token).length % 2 ≠ 0 := by
    rw [hexPairs_length hpairs]
    omega
  simp only [parseHexTokens, if_neg heven, hpairs, hrest]

/-- Digits are not whitespace. -/
theorem Writes.not_whitespace {token : Text} {bytes : List UInt8} (h : Writes token bytes) {c : Char}
    (hc : c ∈ token) : Text.isWhitespace c = false := by
  have hupper : ∀ c, Text.isWhitespace c = true → Text.isWhitespace c.toUpper = true := by
    intro c hspace
    have hlower : ¬ ('a'.val ≤ c.val ∧ c.val ≤ 'z'.val) := by
      rintro ⟨hle, hge⟩
      have hle : 97 ≤ c.toNat := hle
      have hge : c.toNat ≤ 122 := hge
      simp only [Text.isWhitespace, Bool.or_eq_true, Bool.and_eq_true, decide_eq_true_eq, beq_iff_eq] at hspace
      omega
    have hsame : c.toUpper = c := dif_neg hlower
    rwa [hsame]
  cases hspace : Text.isWhitespace c with
  | false => rfl
  | true =>
    have hmem : c.toUpper ∈ bytes.flatMap Text.hexByte := h ▸ List.mem_map_of_mem hc
    obtain ⟨b, -, hb⟩ := List.mem_flatMap.mp hmem
    rw [← hupper c hspace, (Text.isWord_hexByte b).2 _ hb]

/-! ### Lines -/

/-- What is read is written in the line. -/
theorem hexLine_of_parse {line : Text} {bytes : List UInt8} (h : parseHexLine line = .ok bytes) :
    HexLine Text.isWhitespace line bytes := by
  generalize hn : line.length = n
  induction n using Nat.strongRecOn generalizing line bytes with
  | ind n ih =>
    rcases Text.blank_or_word line with hblank | ⟨before, token, rest, rfl, hbefore, hword, hend⟩
    · rw [parseHexLine, Text.splitWhitespace_blank hblank] at h
      cases h
      exact .blank hblank
    · rw [parseHexLine, Text.splitWhitespace_blank_append hbefore, Text.splitWhitespace_word_append hword hend] at h
      obtain ⟨first, more, hfirst, hmore, rfl⟩ := parseHexTokens_cons h
      have hshorter : rest.length < n := by
        have hpos := List.length_pos_iff.mpr hword.1
        simp only [List.length_append] at hn
        omega
      exact .token hbefore hword.1 (map_toUpper_of_hexPairs hfirst) hend (ih rest.length hshorter hmore rfl)

/-- What the line has in it is read. -/
theorem parse_of_hexLine {line : Text} {bytes : List UInt8} (h : HexLine Text.isWhitespace line bytes) :
    parseHexLine line = .ok bytes := by
  induction h with
  | blank hblank =>
    rw [parseHexLine, Text.splitWhitespace_blank hblank]
    rfl
  | token hbefore hne hwrites hend hrest ih =>
    have hword : Text.IsWord _ := ⟨hne, fun c hc => hwrites.not_whitespace hc⟩
    rw [parseHexLine, Text.splitWhitespace_blank_append hbefore, Text.splitWhitespace_word_append hword hend]
    exact parseHexTokens_writes hwrites ih

/-! ### ASCII whitespace -/

theorem isWhitespace_of_asciiSpace {c : Char} (h : asciiSpace c = true) : Text.isWhitespace c = true := by
  simp only [asciiSpace, Bool.or_eq_true, beq_iff_eq] at h
  simp only [Text.isWhitespace, Bool.or_eq_true, Bool.and_eq_true, decide_eq_true_eq, beq_iff_eq]
  omega

theorem HexLine.mono {space space' : Char → Bool} (hspace : ∀ c, space c = true → space' c = true)
    {line : Text} {bytes : List UInt8} (h : HexLine space line bytes) : HexLine space' line bytes := by
  induction h with
  | blank hblank => exact .blank fun c hc => hspace c (hblank c hc)
  | token hbefore hne hwrites hend hrest ih =>
    exact .token (fun c hc => hspace c (hbefore c hc)) hne hwrites (fun c hc => hspace c (hend c hc)) ih

def visible (t : Text) : List UInt8 := (Text.bytes t).filter fun b => !Text.isAsciiWhitespace b

theorem visible_append (s t : Text) : visible (s ++ t) = visible s ++ visible t := by
  rw [visible, Text.bytes, List.flatMap_append, List.filter_append]
  rfl

theorem visible_blank {t : Text} (h : ∀ c ∈ t, asciiSpace c = true) : visible t = [] := by
  have hcodes : ∀ n ∈ [9, 10, 12, 13, 32], ∀ b ∈ String.utf8EncodeChar (Char.ofNat n),
      Text.isAsciiWhitespace b = true := by
    decide +kernel
  rw [visible, List.filter_eq_nil_iff]
  intro b hb
  obtain ⟨c, hc, hb⟩ := List.mem_flatMap.mp hb
  have hcode := hcodes c.toNat
  rw [Char.ofNat_toNat] at hcode
  have hc := h c hc
  simp only [asciiSpace, Bool.or_eq_true, beq_iff_eq] at hc
  rw [hcode (by simp only [List.mem_cons, List.not_mem_nil, or_false]; omega) b hb]
  exact Bool.false_ne_true

theorem visible_writes {token : Text} {bytes : List UInt8} (h : Writes token bytes) :
    visible token = Text.bytes token := by
  rw [visible, List.filter_eq_self]
  intro b hb
  cases hdigit : hexNibble b with
  | none => exact absurd hdigit (hexPairs_digits (hexPairs_of_writes token h) b hb)
  | some n =>
    rw [hexNibble_not_whitespace hdigit]
    rfl

theorem parseCompactHexFrom_append {input : Text} : ∀ {raw tail bytes more : List UInt8},
    hexPairs input raw = .ok bytes → parseCompactHexFrom input tail none = .ok more →
      parseCompactHexFrom input (raw ++ tail) none = .ok (bytes ++ more)
  | [], _, _, _, h, htail => by
    cases h
    exact htail
  | [_], _, _, _, h, _ => nomatch h
  | high :: low :: raw, _, _, _, h, htail => by
    obtain ⟨nh, nl, more, hhigh, hlow, hmore, rfl⟩ := hexPairs_cons h
    simp only [List.cons_append, parseCompactHexFrom, hhigh, hlow, parseCompactHexFrom_append hmore htail]

/-- However the digits are grouped, they are read one after another. -/
theorem parseCompactHex_of_hexLine {line : Text} {bytes : List UInt8} (h : HexLine asciiSpace line bytes) :
    parseCompactHex line = .ok bytes := by
  have hfrom (input : Text) : parseCompactHexFrom input (visible line) none = .ok bytes := by
    induction h with
    | blank hblank =>
      rw [visible_blank hblank]
      rfl
    | token hbefore hne hwrites hend hrest ih =>
      rw [visible_append, visible_append, visible_blank hbefore, visible_writes hwrites,
        List.nil_append]
      exact parseCompactHexFrom_append (hexPairs_of_writes input hwrites) ih
  exact hfrom line

/-- **Hexadecimal text is read by its grammar**: `parse_hex_line` reads the lines of tokens and no
others, and with ASCII whitespace between them both functions read the bytes that are written. -/
theorem hexParsing_exact :
    (∀ line bytes, parseHexLine line = .ok bytes ↔ HexLine Text.isWhitespace line bytes) ∧
    ∀ line bytes, HexLine asciiSpace line bytes →
      parseHexLine line = .ok bytes ∧ parseCompactHex line = .ok bytes := by
  refine ⟨fun line bytes => ⟨hexLine_of_parse, parse_of_hexLine⟩, ?_⟩
  intro line bytes h
  exact ⟨parse_of_hexLine (h.mono fun c hc => isWhitespace_of_asciiSpace hc), parseCompactHex_of_hexLine h⟩

end Obd2.Hex
