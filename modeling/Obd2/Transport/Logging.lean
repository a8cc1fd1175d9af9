import Obd2.Protocol.Hex
import Obd2.Transport.Link

/-! The capturing link: every write and read goes to a text file as well, and a file of that kind
is read back into commands and their responses.

The file system is a parameter. Each of its steps may fail and may do anything to its state, the
clocks included. A writer stands for an open file behind a write buffer; what it buffers and where
it writes is the file system's. Text is written and read as UTF-8, so files hold text here.

The buffer that a chunk observer fills is shared between the link and the decorator around it.
Here it is kept with the link, which is all that fills it. -/
namespace Obd2

abbrev IoError := String

/-- A path by its components; the root directory is the component `/`. -/
abbrev Path := List Text

/-- `Path::parent`. -/
def Path.parent (path : Path) : Option Path :=
  if path = [] ∨ path = ["/".toList] then none else some path.dropLast

/-- A file system, and the clocks read beside it. -/
class FileSystem (F : Type) where
  /-- `BufWriter<File>`. -/
  Writer : Type
  /-- `File::create`. -/
  create : Path → F → Except IoError Writer × F
  /-- `OpenOptions::new().append(true).create(true).open`. -/
  openAppend : Path → F → Except IoError Writer × F
  writeAll : Writer → Text → F → Except IoError Unit × F
  flush : Writer → F → Except IoError Unit × F
  /-- A writer that is dropped is flushed, whatever comes of it, and its file is closed. -/
  close : Writer → F → F
  createDirAll : Path → F → Except IoError Unit × F
  rename : Path → Path → F → Except IoError Unit × F
  readToString : Path → F → Except IoError Text
  /-- `Instant::now`, in thousandths of a second, which is as fine as it is written. -/
  now : F → Nat
  /-- The date and time, as RFC 3339 writes it. -/
  utcNow : F → Text

/-- What a link shows of the chunks it puts a response together from. -/
class Chunked (T : Type) where
  /-- Chunks are stamped with the time since an instant, or not observed. -/
  setChunkObserver : Option Nat → T → T
  drainChunks : T → List (Nat × List UInt8) × T

/-! ### The text of a capture -/

/-- `escape_bytes` of one byte. -/
def escapeByte (b : UInt8) : Text :=
  if b = 13 then ['\\', 'r']
  else if b = 10 then ['\\', 'n']
  else if b = 9 then ['\\', 't']
  else if b = 92 then ['\\', '\\']
  else if 0x20 ≤ b ∧ b ≤ 0x7E then [Char.ofNat b.toNat]
  else ['\\', 'x'] ++ Text.hexByte b

def escapeBytes (data : List UInt8) : Text := data.flatMap escapeByte

structure CaptureMetadata where
  transportType : Text
  portOrDevice : Text
  baudRate : Option UInt32

def formatHeader (metadata : CaptureMetadata) (started : Text) : Text :=
  let place : Text :=
    match metadata.baudRate with
    | some baud => " port=".toList ++ metadata.portOrDevice ++ " baud=".toList ++ Nat.toDigits 10 baud.toNat
    | none => " device=".toList ++ metadata.portOrDevice
  "# obd2-raw v1\n".toList ++
    ("# transport=".toList ++ metadata.transportType ++ place ++ ['\n']) ++
    ("# started=".toList ++ started ++ ['\n'])

/-- `{:.3}` of a number of thousandths. -/
def stamp (millis : Nat) : Text :=
  let fraction := Nat.toDigits 10 (millis % 1000)
  Nat.toDigits 10 (millis / 1000) ++ '.' :: (List.replicate (3 - fraction.length) '0' ++ fraction)

/-- A line of the file: when, which way, and what. -/
def captureLine (millis : Nat) (direction payload : Text) : Text :=
  stamp millis ++ ' ' :: direction ++ ' ' :: payload ++ ['\n']

/-! ### The decorator -/

structure LoggingTransport (T F : Type) [FileSystem F] where
  inner : T
  files : F
  writer : Option (FileSystem.Writer F)
  capturePath : Option Path
  startInstant : Nat

namespace LoggingTransport
variable {T F : Type} [FileSystem F]

/-- An operation on the capture. -/
abbrev Capture (T F α : Type) [FileSystem F] := Async IoError (LoggingTransport T F) α

/-- `LoggingTransport::new`. Capture starts inactive. -/
def new (inner : T) (files : F) : LoggingTransport T F := ⟨inner, files, none, none, FileSystem.now files⟩

/-- A step of the file system. -/
def onFiles {α : Type} (step : F → Except IoError α × F) : Capture T F α := fun s =>
  (.ofExcept (step s.files).1, {s with files := (step s.files).2})

def close (writer : FileSystem.Writer F) (s : LoggingTransport T F) : LoggingTransport T F :=
  {s with files := FileSystem.close writer s.files}

/-- The writer that there is is dropped. -/
def dropWriter (s : LoggingTransport T F) : LoggingTransport T F :=
  match s.writer with
  | some writer => {s.close writer with writer := none}
  | none => s

def isCapturing (s : LoggingTransport T F) : Bool := s.writer.isSome

def elapsed (s : LoggingTransport T F) : Nat := FileSystem.now s.files - s.startInstant

/-- A line is written if capture is active. What comes of it is not looked at. -/
def log (line : Text) (s : LoggingTransport T F) : LoggingTransport T F :=
  match s.writer with
  | some writer => {s with files := (FileSystem.writeAll writer line s.files).2}
  | none => s

def logLine (direction : Char) (data : List UInt8) (s : LoggingTransport T F) : LoggingTransport T F :=
  s.log (captureLine s.elapsed [direction] (escapeBytes data))

def logAnnotation (note : Text) (s : LoggingTransport T F) : LoggingTransport T F :=
  s.log (captureLine s.elapsed ['N'] note)

def logChunk (s : LoggingTransport T F) (chunk : Nat × List UInt8) : LoggingTransport T F :=
  s.log (captureLine chunk.1 "R.chunk".toList (escapeBytes chunk.2))

/-- `annotate_raw_capture`. -/
def annotateRawCapture (note : Text) (s : LoggingTransport T F) : LoggingTransport T F := s.logAnnotation note

section Capturing
variable [Chunked T]

def installChunkObserver (s : LoggingTransport T F) : LoggingTransport T F :=
  {s with inner := Chunked.setChunkObserver (some s.startInstant) s.inner}

/-- The chunks observed so far are written if capture is active, and are kept otherwise. -/
def flushChunks (s : LoggingTransport T F) : LoggingTransport T F :=
  match s.writer with
  | none => s
  | some _ => (Chunked.drainChunks s.inner).1.foldl logChunk {s with inner := (Chunked.drainChunks s.inner).2}

/-- Capture starts with a new file and its header; the writer that was there is dropped. -/
def startCapture (path : Path) (metadata : CaptureMetadata) : Capture T F Unit := do
  let writer ← onFiles (FileSystem.create path)
  let s ← .get
  let written ← (onFiles (FileSystem.writeAll writer (formatHeader metadata (FileSystem.utcNow s.files)))).attempt
  match written with
  | .error e => do
    .modify (close writer)
    .throw e
  | .ok _ => do
    .modify dropWriter
    .modify fun s =>
      {s with writer := some writer, capturePath := some path, startInstant := FileSystem.now s.files}
    .modify installChunkObserver

/-- The writer is taken, flushed and dropped. -/
def finishWriter : Capture T F Unit := do
  let s ← .get
  match s.writer with
  | none => pure ()
  | some writer => do
    .set {s with writer := none}
    let flushed ← (onFiles (FileSystem.flush writer)).attempt
    .modify (close writer)
    Async.lift flushed

/-- Capture stops; the path is returned if it was active. -/
def stopCapture : Capture T F (Option Path) := do
  .modify fun s => {s with inner := Chunked.setChunkObserver none s.inner}
  finishWriter
  let s ← .get
  .set {s with capturePath := none}
  pure s.capturePath

/-- The directory of a path is made, with those above it. -/
def createParent (path : Path) : Capture T F Unit :=
  match path.parent with
  | some parent => onFiles (FileSystem.createDirAll parent)
  | none => pure ()

def flushWriter : Capture T F Unit := do
  let s ← .get
  match s.writer with
  | some writer => onFiles (FileSystem.flush writer)
  | none => pure ()

/-- The file is given a new name, and the capture goes on at its end. -/
def renameCapture (newPath : Path) : Capture T F (Option Path) := do
  let s ← .get
  match s.capturePath with
  | none => pure none
  | some currentPath =>
    if currentPath = newPath then pure (some currentPath)
    else do
      createParent newPath
      flushWriter
      .modify dropWriter
      onFiles (FileSystem.rename currentPath newPath)
      let writer ← onFiles (FileSystem.openAppend newPath)
      .modify fun s => {s with writer := some writer, capturePath := some newPath}
      .modify installChunkObserver
      pure (some newPath)

variable [Link T]

/-- An operation of the link inside. -/
def onInner {α : Type} (x : Async Obd2Error T α) : Async Obd2Error (LoggingTransport T F) α :=
  x.on LoggingTransport.inner fun inner s => {s with inner := inner}

instance : Link (LoggingTransport T F) where
  write data := do
    .modify (logLine 'W' data)
    onInner (Link.write data)
  read := do
    let result ← onInner Link.read
    .modify flushChunks
    .modify (logLine 'R' result)
    pure result

end Capturing

end LoggingTransport

/-! ### Reading a capture -/

/-- The digits of a number below 256; more than that is an overflow. -/
def digitsToUInt8 : Nat → List UInt8 → Option UInt8
  | value, [] => some (UInt8.ofNat value)
  | value, digit :: rest =>
    match Hex.hexNibble digit with
    | none => none
    | some nibble =>
      let value := value * 16 + nibble.toNat
      if value > 255 then none else digitsToUInt8 value rest

/-- `u8::from_str_radix(_, 16)`: a plus sign may come first, and there is some digit. -/
def u8FromHex (token : Text) : Option UInt8 :=
  match Text.bytes token with
  | [] => none
  | 43 :: [] => none
  | 43 :: digits => digitsToUInt8 0 digits
  | digits => digitsToUInt8 0 digits

def unescapeStr : Text → List UInt8
  | [] => []
  | ['\\'] => [92]
  | '\\' :: 'r' :: rest => 13 :: unescapeStr rest
  | '\\' :: 'n' :: rest => 10 :: unescapeStr rest
  | '\\' :: 't' :: rest => 9 :: unescapeStr rest
  | '\\' :: '\\' :: rest => 92 :: unescapeStr rest
  -- A digit that is missing at the end of the line counts as a zero.
  | ['\\', 'x'] => [(u8FromHex ['0', '0']).getD 0]
  | ['\\', 'x', high] => [(u8FromHex [high, '0']).getD 0]
  | '\\' :: 'x' :: high :: low :: rest => (u8FromHex [high, low]).getD 0 :: unescapeStr rest
  | '\\' :: other :: rest => 92 :: String.utf8EncodeChar other ++ unescapeStr rest
  | c :: rest => String.utf8EncodeChar c ++ unescapeStr rest

/-- A command without the carriage return that frames it. -/
def stripTrailingCr (raw : List UInt8) : List UInt8 := if raw.getLast? = some 13 then raw.dropLast else raw

/-- One line of the file: the command that waits for its response, and the pairs so far. -/
def parseLine (state : Option Text × List (Text × Text)) (line : Text) : Option Text × List (Text × Text) :=
  if line.head? = some '#' ∨ line = [] then state
  else
    match Text.splitn ' ' 3 line with
    | _ :: direction :: rest =>
      let payload := rest.headD []
      if direction = "W".toList then
        (some (Text.fromUtf8Lossy (stripTrailingCr (unescapeStr payload))), state.2)
      else if direction = "R".toList then
        match state.1 with
        | some cmd => (none, state.2 ++ [(cmd, Text.fromUtf8Lossy (unescapeStr payload))])
        | none => state
      else state
    | _ => state

/-- The pairs in the text of a file. -/
def parseContent (content : Text) : List (Text × Text) := ((Text.lines content).foldl parseLine (none, [])).2

def parseRawCapture {F : Type} [FileSystem F] (path : Path) (files : F) : Except IoError (List (Text × Text)) :=
  (FileSystem.readToString path files).map parseContent

end Obd2
