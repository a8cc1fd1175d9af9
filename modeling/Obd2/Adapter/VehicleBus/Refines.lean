import Mathlib.Data.List.TakeWhile
import Obd2.Adapter.Elm327.Initialization
import Obd2.Adapter.VehicleBus.Chip

/-! The text protocol makes no difference.

An adapter that is set up, and speaks to a chip that waits under the same header, is the adapter that asks the
modules itself: every call comes to the same, and leaves the two as they were to each other (`chip_alike`). -/
namespace Obd2
open Async Elm327Adapter

/-! ### Voltages -/

section Voltage

theorem natural_eq (t : Text) : t.foldl (fun n c => n * 10 + (c.toNat - 48)) 0 = Text.decimalOf t := by
  have hstep : (fun (n : Nat) (c : Char) => n * 10 + (c.toNat - 48)) = fun n c => 10 * n + (c.toNat - '0'.toNat) := by
    funext n c
    rw [Nat.mul_comm]
    rfl
  rw [Text.decimalOf, Nat.ofDigitChars_eq_foldl, hstep]

theorem ne_of_digit {c d : Char} (hc : c.isDigit = true) (hd : d.isDigit = false) : c ≠ d := by
  intro heq
  rw [heq, hd] at hc
  cases hc

theorem toLower_digit {c : Char} (hc : c.isDigit = true) : c.toLower = c := by
  have hrange : (decide ('0'.val ≤ c.val) && decide (c.val ≤ '9'.val)) = true := hc
  have hval : c.val ≤ '9'.val := of_decide_eq_true (Bool.and_eq_true_iff.mp hrange).2
  have hupper : ¬ ('A'.val ≤ c.val ∧ c.val ≤ 'Z'.val) := fun h => absurd (UInt32.le_trans h.1 hval) (by decide)
  exact dif_neg hupper

/-- What starts with a digit is no word. -/
theorem lower_ne_word {c : Char} (hc : c.isDigit = true) (rest : Text) {d : Char} (hd : d.isDigit = false) (word : Text) :
    (c :: rest).map Char.toLower ≠ d :: word := by
  intro heq
  rw [List.map_cons, toLower_digit hc] at heq
  exact ne_of_digit hc hd (List.cons.inj heq).1

section Point
variable {c : Char} {rest back : Text} (hfront : ∀ d ∈ c :: rest, d.isDigit = true) (hback : ∀ d ∈ back, d.isDigit = true)
include hfront

/-- The digits behind the point. -/
theorem dropWhile_point : (c :: rest ++ '.' :: back).dropWhile (· != '.') = '.' :: back := by
  have hpoint : ∀ d ∈ c :: rest, (d != '.') = true := fun d hd => bne_iff_ne.mpr (ne_of_digit (hfront d hd) (by decide))
  rw [List.dropWhile_append_of_pos hpoint]
  exact List.dropWhile_cons_of_neg (by decide)

include hback

theorem isDecimal_point : AdapterInfo.isDecimal (c :: rest ++ '.' :: back) = true := by
  have hnone (t : Text) (ht : ∀ d ∈ t, d.isDigit = true) : t.filter (· == '.') = [] := by
    apply List.filter_eq_nil_iff.mpr
    intro d hd heq
    exact ne_of_digit (ht d hd) (by decide) (beq_iff_eq.mp heq)
  have hany : (c :: rest ++ '.' :: back).any Char.isDigit = true :=
    List.any_eq_true.mpr ⟨c, List.mem_cons_self, hfront c List.mem_cons_self⟩
  rw [AdapterInfo.isDecimal, hany, List.filter_append, hnone _ hfront, List.filter_cons_of_pos (by decide), hnone _ hback]
  rfl

/-- Digits around a point are a number. -/
theorem parseFloat_point (hlength : back.length = 1) :
    parseFloat (c :: rest ++ '.' :: back) = some (Float.ofScientific (Text.decimalOf (c :: rest ++ back)) true 1) := by
  have hc : c.isDigit = true := hfront c List.mem_cons_self
  have hall : ∀ d ∈ c :: rest ++ '.' :: back, (d.isDigit || d == '.') = true := by
    refine List.forall_mem_append.mpr ⟨fun d hd => ?_, List.forall_mem_cons.mpr ⟨by decide, fun d hd => ?_⟩⟩
    · rw [hfront d hd, Bool.true_or]
    · rw [hback d hd, Bool.true_or]
  have htake : (c :: rest ++ '.' :: back).takeWhile (fun c => c.isDigit || c == '.') = c :: rest ++ '.' :: back :=
    List.takeWhile_eq_self_iff.mpr hall
  have hdrop : (c :: rest ++ '.' :: back).dropWhile (fun c => c.isDigit || c == '.') = [] :=
    List.dropWhile_eq_nil_iff.mpr hall
  have hdigits : (c :: rest ++ '.' :: back).filter Char.isDigit = c :: rest ++ back := by
    rw [List.filter_append, List.filter_eq_self.mpr hfront, List.filter_cons_of_neg (by decide),
      List.filter_eq_self.mpr hback]
  have hinf : (c :: rest ++ '.' :: back).map Char.toLower ≠ "inf".toList := lower_ne_word hc _ (by decide) _
  have hinfinity : (c :: rest ++ '.' :: back).map Char.toLower ≠ "infinity".toList := lower_ne_word hc _ (by decide) _
  have hnan : (c :: rest ++ '.' :: back).map Char.toLower ≠ "nan".toList := lower_ne_word hc _ (by decide) _
  rw [parseFloat]
  · rw [htake, hdrop, dropWhile_point hfront, isDecimal_point hfront hback, decide_eq_false hinf,
      decide_eq_false hinfinity, if_neg (by decide), if_neg hnan, if_neg (by decide)]
    dsimp only
    rw [hdigits, natural_eq, List.drop_one, List.tail_cons, hlength]
    rfl
  · exact fun rest h => ne_of_digit hc (by decide : '-'.isDigit = false) (List.cons.inj h).1
  · exact fun rest h => ne_of_digit hc (by decide : '+'.isDigit = false) (List.cons.inj h).1

end Point

theorem trim_visible {t : Text} (h : ∀ c ∈ t, Text.isWhitespace c = false) : Text.trim t = t := by
  have hstart : t.dropWhile Text.isWhitespace = t := by
    cases t with
    | nil => rfl
    | cons c t => exact List.dropWhile_cons_of_neg (by rw [h c List.mem_cons_self]; decide)
  rw [Text.trim, hstart]
  rcases List.eq_nil_or_concat t with rfl | ⟨front, c, rfl⟩
  · rfl
  · rw [List.concat_eq_append] at h ⊢
    rw [Text.trimEndWhile_concat, h c (List.mem_append_right _ List.mem_cons_self)]
    exact if_neg Bool.false_ne_true

/-- A voltage is read as it was printed. -/
theorem voltage_read (tenths : Nat) :
    parseFloat (Text.trim ((voltageText tenths).filter fun c => !(['V', 'v', '>', '\r', '\n'].contains c))) =
      some (Float.ofScientific tenths true 1) := by
  have hdigit (n : Nat) : ∀ c ∈ Nat.toDigits 10 n, c.isDigit = true :=
    fun _ hc => Nat.isDigit_of_mem_toDigits (by decide) (by decide) hc
  have hkept (n : Nat) : (Nat.toDigits 10 n).filter (fun c => !(['V', 'v', '>', '\r', '\n'].contains c)) =
      Nat.toDigits 10 n := List.filter_eq_self.mpr (Text.forall_toDigits (by decide) (by decide) n)
  have hvisible (n : Nat) : ∀ c ∈ Nat.toDigits 10 n, Text.isWhitespace c = false :=
    Text.forall_toDigits (by decide) (by decide) n
  have hcleaned : (voltageText tenths).filter (fun c => !(['V', 'v', '>', '\r', '\n'].contains c)) =
      Nat.toDigits 10 (tenths / 10) ++ '.' :: Nat.toDigits 10 (tenths % 10) := by
    have hend : "V\r\r>".toList.filter (fun c => !(['V', 'v', '>', '\r', '\n'].contains c)) = [] := by decide
    rw [voltageText, List.filter_append, hkept, List.filter_cons_of_pos (by decide), List.filter_append, hkept, hend,
      List.append_nil]
  have htrim : ∀ c ∈ Nat.toDigits 10 (tenths / 10) ++ '.' :: Nat.toDigits 10 (tenths % 10), Text.isWhitespace c = false :=
    List.forall_mem_append.mpr ⟨hvisible _, List.forall_mem_cons.mpr ⟨by decide, hvisible _⟩⟩
  have hlast : Nat.toDigits 10 (tenths % 10) = [Nat.digitChar (tenths % 10)] :=
    Nat.toDigits_of_lt_base (Nat.mod_lt _ (by decide))
  have hvalue : Text.decimalOf (Nat.toDigits 10 (tenths / 10) ++ Nat.toDigits 10 (tenths % 10)) = tenths := by
    rw [Text.decimalOf, Nat.ofDigitChars_append, Nat.ofDigitChars_ten_toDigits, hlast,
      Nat.ofDigitChars_cons_digitChar_of_lt_ten (Nat.mod_lt _ (by decide)), Nat.ofDigitChars_nil, Nat.div_add_mod]
  rw [hcleaned, trim_visible htrim]
  cases hfront : Nat.toDigits 10 (tenths / 10) with
  | nil => exact absurd hfront (Nat.toDigits_ne_nil)
  | cons c rest =>
    rw [hfront] at hvalue
    rw [parseFloat_point (hfront ▸ hdigit _) (hdigit _) (by rw [hlast]; rfl), hvalue]

end Voltage

section Chip
variable {V : Type} [VehicleBus V]

/-- The adapter without its link. -/
def Elm327Adapter.onBus (a : Elm327Adapter (StreamLink (Elm327Chip V))) : BusAdapter V :=
  ⟨a.transport.device.vehicle, a.info, a.currentHeader, a.events⟩

/-- The adapter is set up, and its chip waits under the header that it believes in. -/
structure Agrees (a : Elm327Adapter (StreamLink (Elm327Chip V))) : Prop where
  initialized : a.initialized = true
  waiting : Waiting a.transport
  selected : a.info.protocol ≠ .auto
  protocol : a.transport.device.protocol = a.info.protocol
  header : a.transport.device.header = a.currentHeader

/-! ### Commands -/

/-- A reply is its text, and leaves no event. -/
theorem sanitizeResponseBytes_reply {L : Type} {t : Text} (h : IsReply t) (a : Elm327Adapter L) :
    (sanitizeResponseBytes (Text.bytes t) : Elm L Text).run a = (.ok t, a) := by
  have hkept : (Text.bytes t).filter (· != 0) = Text.bytes t := by
    apply List.filter_eq_self.mpr
    intro b hb
    obtain ⟨c, hc, rfl⟩ := Text.mem_bytes h.ascii hb
    have hvalue : (UInt8.ofNat c.toNat).toNat = c.toNat := by
      rw [UInt8.toNat_ofNat', Nat.mod_eq_of_lt (Nat.lt_trans (h.ascii c hc) (by decide))]
    rw [bne_iff_ne]
    intro hzero
    rw [hzero] at hvalue
    exact h.nonzero c hc hvalue.symm
  rw [sanitizeResponseBytes]
  dsimp only
  rw [hkept, Nat.sub_self, if_neg (Nat.lt_irrefl 0), Text.fromUtf8Lossy_bytes h.ascii]
  rfl

theorem sendCommandRaw_told {cmd : Text} (hcmd : IsCommand cmd) {a : Elm327Adapter (StreamLink (Elm327Chip V))}
    (hwaiting : Waiting a.transport) :
    (sendCommandRaw cmd).run a =
      (.ok (a.transport.device.perform (.of cmd)).1, {a with transport := a.transport.told (.of cmd)}) := by
  obtain ⟨link, hwrite, hread⟩ := command_run hcmd hwaiting
  have hwritten : (onTransport (Link.write (Text.bytes (cmd ++ ['\r']))) : Elm (StreamLink (Elm327Chip V)) Unit).run a =
      (.ok (), {a with transport := link}) := by
    rw [onTransport, run_on, hwrite]
  have hreadBytes : (onTransport Link.read : Elm (StreamLink (Elm327Chip V)) (List UInt8)).run {a with transport := link} =
      (.ok (Text.bytes (a.transport.device.perform (.of cmd)).1), {a with transport := a.transport.told (.of cmd)}) := by
    rw [onTransport, run_on, hread]
  rw [sendCommandRaw, run_bind_ok hwritten, run_bind_ok hreadBytes]
  exact sanitizeResponseBytes_reply (isReply_perform (.of cmd) a.transport.device) _

/-- A command is a step of the chip, and leaves no event. -/
theorem sendCommand_told {cmd : Text} (hcmd : IsCommand cmd) {a : Elm327Adapter (StreamLink (Elm327Chip V))}
    (hwaiting : Waiting a.transport) :
    (sendCommand cmd).run a =
      (.ok (a.transport.device.perform (.of cmd)).1, {a with transport := a.transport.told (.of cmd)}) := by
  have hreply := isReply_perform (.of cmd) a.transport.device
  rw [sendCommand, run_bind_ok (sendCommandRaw_told hcmd hwaiting), hreply.silent, handleFaultRecovery, hreply.faultless]
  show (_, {a with transport := a.transport.told (.of cmd), events := a.events ++ []}) = _
  rw [List.append_nil]

/-! ### Targets -/

omit [VehicleBus V] in
theorem isCommand_of_alphanum {t : Text} (h : ∀ c ∈ t, c.isAlphanum = true) : IsCommand t := by
  intro c hc
  refine ⟨Text.ascii_of_isAlphanum (h c hc), ?_⟩
  rintro rfl
  exact absurd (h '\r' hc) (by decide)

theorem headerOf_isCommand {address : PhysicalAddress} {header : Text} (h : headerOf address = some header) :
    IsCommand header := by
  apply isCommand_of_alphanum
  cases address with
  | j1850 node bytes =>
    obtain rfl := Option.some.inj h
    intro c hc
    rcases List.mem_append.mp hc with hc | hc
    · rcases List.mem_append.mp hc with hc | hc
      · exact Text.isAlphanum_hexByte _ c hc
      · exact Text.isAlphanum_hexByte _ c hc
    · exact Text.isAlphanum_hexByte _ c hc
  | can11Bit requestId responseId =>
    obtain rfl := Option.some.inj h
    exact fun c hc => Text.mem_upperHex hc
  | can29Bit requestId responseId =>
    obtain rfl := Option.some.inj h
    exact fun c hc => Text.mem_upperHex hc
  | j1939 sourceAddress => cases h

/-- A protocol that was selected has a default header. -/
theorem defaultBroadcastHeader_isCommand {protocol : Protocol} (h : protocol ≠ .auto) :
    ∃ header, defaultBroadcastHeader protocol = some header ∧ IsCommand header := by
  cases protocol with
  | auto => exact absurd rfl h
  | iso9141 init => exact ⟨_, rfl, isCommand_of_all (by decide)⟩
  | kwp2000 init => exact ⟨_, rfl, isCommand_of_all (by decide)⟩
  | _ => exact ⟨_, rfl, isCommand_of_all (by decide)⟩

theorem of_setHeader (header : Text) : ChipCommand.of ("AT SH ".toList ++ header) = .setHeader header := rfl

theorem setHeader_onBus {a : Elm327Adapter (StreamLink (Elm327Chip V))} (h : Agrees a) {header : Text}
    (hheader : IsCommand header) :
    ∃ a', (setHeader header).run a = (.ok (), a') ∧ Agrees a' ∧ a'.onBus = a.onBus.under header := by
  rw [setHeader, run_bind_ok (run_get a), BusAdapter.under]
  by_cases hcurrent : a.currentHeader = some header
  · rw [if_pos hcurrent, if_pos (show a.onBus.currentHeader = some header from hcurrent)]
    exact ⟨a, rfl, h, rfl⟩
  · have hcommand : IsCommand ("AT SH ".toList ++ header) :=
      List.forall_mem_append.mpr ⟨isCommand_of_all (by decide), hheader⟩
    have hok : Text.contains "OK\r\r>".toList "OK".toList = true := by decide
    have hsent := sendCommand_told hcommand h.waiting
    rw [of_setHeader] at hsent
    rw [if_neg hcurrent, if_neg (show ¬ a.onBus.currentHeader = some header from hcurrent), run_bind_ok hsent]
    refine ⟨⟨a.transport.told (.setHeader header), a.info, a.initialized, some header,
      a.events ++ [⟨.headerChanged header, none⟩]⟩, ?_, ⟨h.initialized, h.waiting.told _, h.selected, h.protocol, rfl⟩, rfl⟩
    show (if Text.contains "OK\r\r>".toList "OK".toList = true then _ else _ : Elm _ Unit).run _ = _
    rw [if_pos hok]
    rfl

/-- A target is taken on both sides, or refused on both. -/
theorem applyTarget_onBus {a : Elm327Adapter (StreamLink (Elm327Chip V))} (h : Agrees a) (target : PhysicalTarget) :
    (∃ a', (applyTarget target).run a = (.ok (), a') ∧ Agrees a' ∧ a.onBus.targeted target = .ok a'.onBus) ∨
      ∃ e, (applyTarget target).run a = (.error e, a) ∧ a.onBus.targeted target = .error e := by
  cases target with
  | broadcast =>
    obtain ⟨header, hdefault, hheader⟩ := defaultBroadcastHeader_isCommand h.selected
    rw [applyTarget, clearTargeting, run_bind_ok (run_get a), BusAdapter.targeted, hdefault,
      show a.onBus.info.protocol = a.info.protocol from rfl, hdefault]
    cases hcurrent : a.currentHeader with
    | none =>
      rw [show a.onBus.currentHeader = none from hcurrent, if_pos rfl]
      have hsame : {a.onBus with currentHeader := none} = a.onBus := by
        rw [← hcurrent]
        rfl
      exact .inl ⟨a, rfl, h, congrArg Except.ok hsame⟩
    | some current =>
      obtain ⟨a', hrun, ha', hunder⟩ := setHeader_onBus h hheader
      rw [show a.onBus.currentHeader = some current from hcurrent, if_neg (by simp)]
      dsimp only
      rw [run_bind_ok hrun, ← hunder]
      exact .inl ⟨_, rfl, ⟨ha'.initialized, ha'.waiting, ha'.selected, ha'.protocol, ha'.header⟩, rfl⟩
  | addressed address =>
    rw [applyTarget, BusAdapter.targeted]
    cases hheader : headerOf address with
    | none => exact .inr ⟨_, rfl, rfl⟩
    | some header =>
      obtain ⟨a', hrun, ha', hunder⟩ := setHeader_onBus h (headerOf_isCommand hheader)
      exact .inl ⟨a', hrun, ha', congrArg Except.ok hunder.symm⟩

/-! ### Requests -/

theorem requestCommand_isCommand (serviceId : UInt8) (data : List UInt8) : IsCommand (requestCommand serviceId data) := by
  apply isCommand_of_alphanum
  intro c hc
  obtain ⟨b, -, hc⟩ := List.mem_flatMap.mp hc
  exact Text.isAlphanum_hexByte b c hc

/-- The first digit of a request may be A; the second is no T. -/
theorem of_requestCommand (serviceId : UInt8) (data : List UInt8) :
    ChipCommand.of (requestCommand serviceId data) = .request serviceId data := by
  have hsecond : ∀ b : UInt8, Text.hexDigit (b &&& 0x0F) ≠ 'T' := forall_byte (by decide +kernel)
  have hat : ¬ "AT".toList.isPrefixOf (requestCommand serviceId data) = true := by
    rw [List.isPrefixOf_iff_prefix]
    intro hprefix
    have hrest : ['T'] <+: Text.hexDigit (serviceId &&& 0x0F) :: data.flatMap Text.hexByte :=
      (List.cons_prefix_cons.mp hprefix).2
    exact hsecond serviceId (List.cons_prefix_cons.mp hrest).1.symm
  rw [ChipCommand.of, if_neg hat, requestCommand, Hex.parseCompactHex_flatMap]

/-- The chip asks under the header that the adapter believes in. -/
theorem Agrees.perform_request {a : Elm327Adapter (StreamLink (Elm327Chip V))} (h : Agrees a) (serviceId : UInt8)
    (data : List UInt8) :
    a.transport.device.perform (.request serviceId data) =
      ((VehicleBus.ask a.onBus.header serviceId data a.onBus.vehicle).1.text serviceId data,
        {a.transport.device with vehicle := (VehicleBus.ask a.onBus.header serviceId data a.onBus.vehicle).2}) := by
  have hheader : a.transport.device.header.getD ((defaultBroadcastHeader a.transport.device.protocol).getD []) =
      a.onBus.header := by
    rw [h.header, h.protocol]
    rfl
  rw [← hheader]
  rfl

/-- A request is one question to the modules. -/
theorem routedRequest_onBus {a : Elm327Adapter (StreamLink (Elm327Chip V))} (h : Agrees a) (req : RoutedRequest) :
    ∃ a', (routedRequest req).run a = (((BusAdapter.routedRequest req).run a.onBus).1, a') ∧ Agrees a' ∧
      ((BusAdapter.routedRequest req).run a.onBus).2 = a'.onBus := by
  rcases applyTarget_onBus h req.target with ⟨targeted, hrun, htargeted, hsame⟩ | ⟨e, hrun, hsame⟩
  · have hbus : (BusAdapter.routedRequest req).run a.onBus = targeted.onBus.asked req.serviceId req.data := by
      show BusAdapter.routedRequest req a.onBus = _
      unfold BusAdapter.routedRequest
      rw [hsame]
    have hsent := sendCommand_told (requestCommand_isCommand req.serviceId req.data) htargeted.waiting
    rw [of_requestCommand] at hsent
    have hasked := htargeted.perform_request req.serviceId req.data
    rw [routedRequest, sendRoutedCommand, run_bind_ok hrun, run_bind_ok hsent, run_bind_ok (run_get _), run_lift, hasked,
      BusAnswer.decodeResponse_text, hbus]
    refine ⟨_, rfl, ⟨htargeted.initialized, htargeted.waiting.told _, htargeted.selected, ?_, ?_⟩, ?_⟩
    · show (targeted.transport.device.perform _).2.protocol = _
      rw [hasked]
      exact htargeted.protocol
    · show (targeted.transport.device.perform _).2.header = _
      rw [hasked]
      exact htargeted.header
    · show _ = BusAdapter.mk (targeted.transport.device.perform _).2.vehicle _ _ _
      rw [hasked]
      rfl
  · have hbus : (BusAdapter.routedRequest req).run a.onBus = (.error e, a.onBus) := by
      show BusAdapter.routedRequest req a.onBus = _
      unfold BusAdapter.routedRequest
      rw [hsame]
    rw [routedRequest, sendRoutedCommand, run_bind_error hrun, hbus]
    exact ⟨a, rfl, h, rfl⟩

/-! ### The adapters -/

/-- The voltage is that of the vehicle. -/
theorem batteryVoltage_onBus {a : Elm327Adapter (StreamLink (Elm327Chip V))} (h : Agrees a) :
    (Elm327Adapter.batteryVoltage).run a =
      (.ok (some (Float.ofScientific (VehicleBus.voltage a.onBus.vehicle) true 1)), a) := by
  have hcommand : ChipCommand.of "ATRV".toList = .voltage := by decide
  have hline : IsCommand "ATRV".toList := isCommand_of_all (by decide)
  have hsent := sendCommand_told hline h.waiting
  rw [hcommand] at hsent
  rw [Elm327Adapter.batteryVoltage, run_bind_ok hsent]
  show (Outcome.ok (parseFloat (Text.trim ((voltageText _).filter _))), _) = _
  rw [voltage_read]
  rfl

/-- The adapter is the one on the bus. -/
def Speaks (a : Elm327Adapter (StreamLink (Elm327Chip V))) (b : BusAdapter V) : Prop := Agrees a ∧ b = a.onBus

/-- **An ELM327 adapter that is set up is an adapter on the bus**: the text protocol between them makes no
difference to any call. -/
theorem chip_alike : AdaptersAlike (Speaks (V := V)) where
  initializeAdapter := by
    intro a b hab
    obtain ⟨h, rfl⟩ := hab
    show ((Elm327Adapter.initializeAdapter).run a).1 = _ ∧ Speaks ((Elm327Adapter.initializeAdapter).run a).2 _
    rw [initialize_again h.initialized]
    exact ⟨rfl, ⟨h.initialized, h.waiting, h.selected, h.protocol, h.header⟩, rfl⟩
  routedRequest req := by
    intro a b hab
    obtain ⟨h, rfl⟩ := hab
    obtain ⟨a', hrun, ha', hsame⟩ := routedRequest_onBus h req
    show ((Elm327Adapter.routedRequest req).run a).1 = _ ∧ Speaks ((Elm327Adapter.routedRequest req).run a).2 _
    rw [hrun]
    exact ⟨rfl, ha', hsame⟩
  batteryVoltage := by
    intro a b hab
    obtain ⟨h, rfl⟩ := hab
    show ((Elm327Adapter.batteryVoltage).run a).1 = _ ∧ Speaks ((Elm327Adapter.batteryVoltage).run a).2 _
    rw [batteryVoltage_onBus h]
    exact ⟨rfl, h, rfl⟩
  info := by
    intro a b hab
    obtain ⟨-, rfl⟩ := hab
    rfl
  events := by
    intro a b hab
    obtain ⟨-, rfl⟩ := hab
    rfl
  drained := by
    intro a b hab
    obtain ⟨h, rfl⟩ := hab
    exact ⟨⟨h.initialized, h.waiting, h.selected, h.protocol, h.header⟩, rfl⟩

end Chip

end Obd2
