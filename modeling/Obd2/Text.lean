/-! Text as the standard library of the source treats it.

A string is its list of characters. The functions are `str`'s and `String`'s of the
same names: whitespace is the Unicode property, tokens and lines are what `split`
yields, `bytes` is the UTF-8 encoding and `fromUtf8Lossy` its decoder with one
replacement character for each maximal ill-formed piece. -/
namespace Obd2

abbrev Text := List Char

namespace Text

/-- The Unicode property White_Space. -/
def isWhitespace (c : Char) : Bool :=
  let n := c.toNat
  (9 ≤ n && n ≤ 13) || n == 0x20 || n == 0x85 || n == 0xA0 || n == 0x1680 ||
    (0x2000 ≤ n && n ≤ 0x200A) || n == 0x2028 || n == 0x2029 || n == 0x202F || n == 0x205F ||
    n == 0x3000

/-- `trim_end_matches` for the characters that satisfy `p`. -/
def trimEndWhile (p : Char → Bool) (t : Text) : Text := (t.reverse.dropWhile p).reverse

/-- `trim_matches` for the characters that satisfy `p`. -/
def trimMatches (p : Char → Bool) (t : Text) : Text := trimEndWhile p (t.dropWhile p)

def trim (t : Text) : Text := trimEndWhile isWhitespace (t.dropWhile isWhitespace)

def splitWhitespace (t : Text) : List Text := (t.splitOnP isWhitespace).filter fun w => !w.isEmpty

/-- `splitn`: the pieces at a separator, no more than `n`; what is left is the last one. -/
def splitn (separator : Char) : Nat → Text → List Text
  | 0, _ => []
  | 1, t => [t]
  | n + 2, t =>
    match t.dropWhile (· != separator) with
    | [] => [t]
    | _ :: rest => t.takeWhile (· != separator) :: splitn separator (n + 1) rest

/-- A line without the carriage return that came before its newline. -/
def stripCr (line : Text) : Text := if line.getLast? = some '\r' then line.dropLast else line

/-- The lines of what follows `current`, which is the line so far. -/
def linesFrom (current : Text) : Text → List Text
  | [] => if current.isEmpty then [] else [current]
  | c :: rest => if c = '\n' then stripCr current :: linesFrom [] rest else linesFrom (current ++ [c]) rest

def lines (t : Text) : List Text := linesFrom [] t

def contains (t pattern : Text) : Bool :=
  pattern.isPrefixOf t ||
    match t with
    | [] => false
    | _ :: rest => contains rest pattern

def bytes (t : Text) : List UInt8 := t.flatMap String.utf8EncodeChar

/-- `char::is_ascii_whitespace` on the byte of an ASCII character. -/
def isAsciiWhitespace (b : UInt8) : Bool := b == 9 || b == 10 || b == 12 || b == 13 || b == 32

def toAsciiLowercase (b : UInt8) : UInt8 := if 65 ≤ b ∧ b ≤ 90 then b + 32 else b

def eqIgnoreAsciiCase (a b : UInt8) : Bool := toAsciiLowercase a == toAsciiLowercase b

/-- `str::eq_ignore_ascii_case`. -/
def sameIgnoringAsciiCase (s t : Text) : Bool :=
  (bytes s).map toAsciiLowercase == (bytes t).map toAsciiLowercase

/-! ### Formatting -/

def hexDigit (n : UInt8) : Char := Char.ofNat (if n < 10 then 48 + n.toNat else 55 + n.toNat)

/-- The value of a digit written by `hexDigit`. -/
def hexValue (c : Char) : UInt8 := UInt8.ofNat (if c.toNat < 65 then c.toNat - 48 else c.toNat - 55)

/-- `{:02X}` of a byte. -/
def hexByte (b : UInt8) : Text := [hexDigit (b >>> 4), hexDigit (b &&& 0x0F)]

/-- `{:0width$X}`. -/
def upperHex (width n : Nat) : Text :=
  let digits := (Nat.toDigits 16 n).map Char.toUpper
  List.replicate (width - digits.length) '0' ++ digits

/-! ### UTF-8 -/

def replacement : Char := Char.ofNat 0xFFFD

private def isContinuation (b : UInt8) : Bool := 0x80 ≤ b && b ≤ 0xBF

/-- The second bytes that may follow a lead byte: no overlong form, no surrogate, nothing
above U+10FFFF. -/
private def isSecond (lead b : UInt8) : Bool :=
  if lead == 0xE0 then 0xA0 ≤ b && b ≤ 0xBF
  else if lead == 0xED then 0x80 ≤ b && b ≤ 0x9F
  else if lead == 0xF0 then 0x90 ≤ b && b ≤ 0xBF
  else if lead == 0xF4 then 0x80 ≤ b && b ≤ 0x8F
  else isContinuation b

/-- The character a lead byte begins, and how many of the bytes after it belong to it. -/
def decodeLossy (lead : UInt8) (rest : List UInt8) : Char × Nat :=
  let b1 := rest.getD 0 0
  let b2 := rest.getD 1 0
  let b3 := rest.getD 2 0
  let tail (b : UInt8) : Nat := (b &&& 0x3F).toNat
  if lead < 0x80 then (Char.ofNat lead.toNat, 0)
  else if 0xC2 ≤ lead && lead ≤ 0xDF then
    if isSecond lead b1 then (Char.ofNat ((lead &&& 0x1F).toNat * 64 + tail b1), 1)
    else (replacement, 0)
  else if 0xE0 ≤ lead && lead ≤ 0xEF then
    if !isSecond lead b1 then (replacement, 0)
    else if !isContinuation b2 then (replacement, 1)
    else (Char.ofNat (((lead &&& 0x0F).toNat * 64 + tail b1) * 64 + tail b2), 2)
  else if 0xF0 ≤ lead && lead ≤ 0xF4 then
    if !isSecond lead b1 then (replacement, 0)
    else if !isContinuation b2 then (replacement, 1)
    else if !isContinuation b3 then (replacement, 2)
    else (Char.ofNat ((((lead &&& 0x07).toNat * 64 + tail b1) * 64 + tail b2) * 64 + tail b3), 3)
  else (replacement, 0)

/-- Every round takes at least one byte, so the length of the input is fuel enough. -/
def fromUtf8LossyFrom : Nat → List UInt8 → Text
  | 0, _ => []
  | _, [] => []
  | n + 1, lead :: rest =>
    let (c, used) := decodeLossy lead rest
    c :: fromUtf8LossyFrom n (rest.drop used)

def fromUtf8Lossy (input : List UInt8) : Text := fromUtf8LossyFrom input.length input

end Text

end Obd2
