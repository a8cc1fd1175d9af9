import Obd2.Adapter.Stn
import Obd2.Text.Numbers

/-! STN commands on the wire.

A device knows a preset by its protocol number only, and two presets share one. So it reads back
every command as it was given but for that (`decode_encode`), so lines that are the same are of commands
that are (`encodedCommands_eq_iff`), and what a command does to a device does not depend on it
(`StnState.step_canonical`). -/
namespace Obd2

/-! ### What is sent -/

def StnProtocolPreset.protocolNumber : StnProtocolPreset → UInt8
  | .primaryCan => 33
  | .msCan125 => 53
  | .swCanGmlan33 => 63
  | .msGmlan95 => 53

def encodeCanIdentifier : CanIdentifier → Text
  | .standard raw => Text.upperHex 4 raw.toNat
  | .extended raw => Text.upperHex 8 raw.toNat

def StnCommand.encode : StnCommand → Text
  | .closeProtocol => "STPC".toList
  | .selectProtocol preset => "STP ".toList ++ Text.padded 2 preset.protocolNumber.toNat
  | .setProtocolBaudRate bitrateBps => "STPBR ".toList ++ Nat.toDigits 10 bitrateBps.toNat
  | .setProtocolTimeoutMs timeoutMs => "STPTO ".toList ++ Nat.toDigits 10 timeoutMs.toNat
  | .useAutomaticFiltering => "STFA".toList
  | .clearPassFilters => "STFPC".toList
  | .addPassFilter filter =>
    "STFPA ".toList ++ (encodeCanIdentifier filter.id ++ ',' :: encodeCanIdentifier filter.mask)
  | .openProtocol => "STPO".toList

def StnRoutePlan.encodedCommands (plan : StnRoutePlan) : List Text := plan.commands.map StnCommand.encode

/-! ### What a device reads -/

/-- The first of the presets with the number. -/
def StnProtocolPreset.ofNumber (number : Nat) : Option StnProtocolPreset :=
  if number = 33 then some .primaryCan
  else if number = 53 then some .msCan125
  else if number = 63 then some .swCanGmlan33
  else none

/-- The width tells an identifier of 11 bits from one of 29. -/
def decodeCanIdentifier (t : Text) : Option CanIdentifier :=
  if t.length = 4 then some (.standard (UInt16.ofNat (Text.hexOf t)))
  else if t.length = 8 then some (.extended (UInt32.ofNat (Text.hexOf t)))
  else none

def decodeFilter (t : Text) : Option CanRouteFilter := do
  let id ← decodeCanIdentifier (t.takeWhile (· != ','))
  let mask ← decodeCanIdentifier ((t.dropWhile (· != ',')).drop 1)
  return ⟨id, mask⟩

/-- The command of a line: its name, and behind a blank its argument. -/
def StnCommand.decode (line : Text) : Option StnCommand :=
  let argument := (line.dropWhile (· != ' ')).drop 1
  match String.ofList (line.takeWhile (· != ' ')) with
  | "STPC" => some .closeProtocol
  | "STP" => (StnProtocolPreset.ofNumber (Text.decimalOf argument)).map .selectProtocol
  | "STPBR" => some (.setProtocolBaudRate (UInt32.ofNat (Text.decimalOf argument)))
  | "STPTO" => some (.setProtocolTimeoutMs (UInt16.ofNat (Text.decimalOf argument)))
  | "STFA" => some .useAutomaticFiltering
  | "STFPC" => some .clearPassFilters
  | "STFPA" => (decodeFilter argument).map .addPassFilter
  | "STPO" => some .openProtocol
  | _ => none

/-! ### Presets of one number -/

/-- The preset that the number is read back as. -/
def StnProtocolPreset.canonical : StnProtocolPreset → StnProtocolPreset
  | .primaryCan => .primaryCan
  | .msCan125 => .msCan125
  | .swCanGmlan33 => .swCanGmlan33
  | .msGmlan95 => .msCan125

def StnCommand.canonical : StnCommand → StnCommand
  | .selectProtocol preset => .selectProtocol preset.canonical
  | command => command

def StnState.canonical (s : StnState) : StnState := { s with preset := s.preset.canonical }

theorem StnProtocolPreset.ofNumber_protocolNumber (preset : StnProtocolPreset) :
    ofNumber preset.protocolNumber.toNat = some preset.canonical := by
  cases preset <;> rfl

/-- Presets of one number have one bitrate as well. -/
theorem StnProtocolPreset.protocolDefaultBitrateBps_canonical (preset : StnProtocolPreset) :
    preset.canonical.protocolDefaultBitrateBps = preset.protocolDefaultBitrateBps := by
  cases preset <;> rfl

/-- What a command does shows in what the device knows, and needs nothing else. -/
theorem StnState.step_canonical (s : StnState) (command : StnCommand) :
    (s.step command).canonical = s.canonical.step command.canonical := by
  obtain ⟨preset, bitrateBps, filters, timeoutMs, isOpen⟩ := s
  cases command with
  | selectProtocol preset' =>
    have hbitrate := preset'.protocolDefaultBitrateBps_canonical
    cases isOpen with
    | true => rfl
    | false => simp [StnState.step, StnState.set, StnState.canonical, StnCommand.canonical, hbitrate]
  | closeProtocol => rfl
  | openProtocol => rfl
  | setProtocolBaudRate bitrateBps' => cases isOpen <;> rfl
  | setProtocolTimeoutMs timeoutMs' => cases isOpen <;> rfl
  | useAutomaticFiltering => cases isOpen <;> rfl
  | clearPassFilters => cases isOpen <;> rfl
  | addPassFilter filter => cases isOpen <;> rfl

theorem StnState.run_canonical (s : StnState) (commands : List StnCommand) :
    (s.run commands).canonical = s.canonical.run (commands.map StnCommand.canonical) := by
  induction commands generalizing s with
  | nil => rfl
  | cons command commands ih =>
    rw [List.map_cons]
    show ((s.step command).run commands).canonical = (s.canonical.step command.canonical).run _
    rw [ih, step_canonical]

/-! ### Round trip -/

/-- No digit is a comma. -/
theorem comma_encodeCanIdentifier (id : CanIdentifier) : ∀ c ∈ encodeCanIdentifier id, (c != ',') = true := by
  have hdigit : ∀ c : Char, c.isAlphanum = true → (c != ',') = true := by
    intro c hc
    rw [bne_iff_ne]
    rintro rfl
    cases hc
  intro c hc
  cases id with
  | standard raw => exact hdigit c (Text.mem_upperHex hc)
  | extended raw => exact hdigit c (Text.mem_upperHex hc)

theorem decode_encodeCanIdentifier (id : CanIdentifier) : decodeCanIdentifier (encodeCanIdentifier id) = some id := by
  cases id with
  | standard raw =>
    have hlength : (Text.upperHex 4 raw.toNat).length = 4 := Text.length_upperHex (by decide) raw.toNat_lt
    rw [encodeCanIdentifier, decodeCanIdentifier, if_pos hlength, Text.hexOf_upperHex, UInt16.ofNat_toNat]
  | extended raw =>
    have hlength : (Text.upperHex 8 raw.toNat).length = 8 := Text.length_upperHex (by decide) raw.toNat_lt
    have hother : ¬ (Text.upperHex 8 raw.toNat).length = 4 := by
      rw [hlength]
      decide
    rw [encodeCanIdentifier, decodeCanIdentifier, if_neg hother, if_pos hlength, Text.hexOf_upperHex,
      UInt32.ofNat_toNat]

theorem decodeFilter_encode (filter : CanRouteFilter) :
    decodeFilter (encodeCanIdentifier filter.id ++ ',' :: encodeCanIdentifier filter.mask) = some filter := by
  have hid := comma_encodeCanIdentifier filter.id
  rw [decodeFilter, List.takeWhile_append_of_pos hid, List.dropWhile_append_of_pos hid]
  have htake : (',' :: encodeCanIdentifier filter.mask).takeWhile (· != ',') = [] := rfl
  have hdrop : (',' :: encodeCanIdentifier filter.mask).dropWhile (· != ',') = ',' :: encodeCanIdentifier filter.mask :=
    rfl
  rw [htake, hdrop, List.append_nil, decode_encodeCanIdentifier, List.drop_one, List.tail_cons,
    decode_encodeCanIdentifier]
  rfl

/-- A device reads every command back, but for the preset among those of one number. -/
theorem StnCommand.decode_encode (command : StnCommand) : decode command.encode = some command.canonical := by
  cases command with
  | selectProtocol preset =>
    show (StnProtocolPreset.ofNumber (Text.decimalOf (Text.padded 2 preset.protocolNumber.toNat))).map
      StnCommand.selectProtocol = _
    rw [Text.decimalOf_padded, StnProtocolPreset.ofNumber_protocolNumber]
    rfl
  | setProtocolBaudRate bitrateBps =>
    show some (StnCommand.setProtocolBaudRate
      (UInt32.ofNat (Text.decimalOf (Nat.toDigits 10 bitrateBps.toNat)))) = _
    rw [Text.decimalOf_toDigits, UInt32.ofNat_toNat]
    rfl
  | setProtocolTimeoutMs timeoutMs =>
    show some (StnCommand.setProtocolTimeoutMs
      (UInt16.ofNat (Text.decimalOf (Nat.toDigits 10 timeoutMs.toNat)))) = _
    rw [Text.decimalOf_toDigits, UInt16.ofNat_toNat]
    rfl
  | addPassFilter filter =>
    show (decodeFilter (encodeCanIdentifier filter.id ++ ',' :: encodeCanIdentifier filter.mask)).map
      StnCommand.addPassFilter = _
    rw [decodeFilter_encode]
    rfl
  | closeProtocol => rfl
  | useAutomaticFiltering => rfl
  | clearPassFilters => rfl
  | openProtocol => rfl

theorem StnCommand.encode_canonical (command : StnCommand) : command.canonical.encode = command.encode := by
  cases command with
  | selectProtocol preset => cases preset <;> rfl
  | _ => rfl

/-- **Plans are sent as the same lines exactly if a device reads the same from them**: they may differ in the
presets of one number, and in nothing else. -/
theorem StnRoutePlan.encodedCommands_eq_iff {plan other : StnRoutePlan} :
    plan.encodedCommands = other.encodedCommands ↔
      plan.commands.map StnCommand.canonical = other.commands.map StnCommand.canonical := by
  constructor
  · intro h
    have hdecoded := congrArg (List.map StnCommand.decode) h
    have hread : ∀ commands : List StnCommand,
        (commands.map StnCommand.encode).map StnCommand.decode = (commands.map StnCommand.canonical).map some := by
      intro commands
      rw [List.map_map, List.map_map]
      exact List.map_congr_left fun command _ => command.decode_encode
    rw [encodedCommands, encodedCommands, hread, hread] at hdecoded
    exact List.map_injective_iff.mpr (Option.some_injective _) hdecoded
  · intro h
    have hencode : ∀ commands : List StnCommand,
        (commands.map StnCommand.canonical).map StnCommand.encode = commands.map StnCommand.encode := by
      intro commands
      rw [List.map_map]
      exact List.map_congr_left fun command _ => command.encode_canonical
    rw [encodedCommands, encodedCommands, ← hencode, h, hencode]

end Obd2
