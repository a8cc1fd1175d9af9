import Obd2.Protocol.Uds.Data

/-! Responses that repeat another identifier than the one asked for.

Writing and input/output control look at the identifier they are given back. Reading takes it off
where it is the requested one and returns everything otherwise, since a transport may have taken
it off before. So what another identifier says is returned as data, but for the identifiers that
look like a negative response (`foreignDid_rejected_iff`). -/
namespace Obd2
open UdsClient

section Foreign
variable {config : IsoTp.IsoTpConfig} {closed : Obd2Error} {stream : List IsoTp.CanDataFrame}
  {did : UInt16} {x y : UInt8} {d : List UInt8}

theorem didBytes_eq (did : UInt16) : didBytes did = u16ToBe did := by
  have hlt := did.toNat_lt
  have hhigh : (did >>> 8).toUInt8 = UInt8.ofNat (did.toNat / 256) := by
    apply UInt8.toNat_inj.mp
    rw [UInt16.toNat_toUInt8, UInt16.toNat_shiftRight, UInt8.toNat_ofNat']
    exact congrArg (· % 256) (Nat.shiftRight_eq_div_pow did.toNat 8)
  show [(did >>> 8).toUInt8, did.toUInt8] = [UInt8.ofNat (did.toNat / 256), UInt8.ofNat did.toNat]
  rw [hhigh]
  rfl

/-- A payload is an error exactly if it looks negative, whatever identifier it begins with. -/
theorem dataOf_error_iff : (∃ e, dataOf did (x :: y :: d) = .error e) ↔ x = 0x7F := by
  constructor
  · intro h
    obtain ⟨e, herror⟩ := h
    apply Decidable.byContradiction
    intro hne
    have hfirst : (x :: y :: d).head? ≠ some 0x7F := fun h => hne (Option.some.inj h)
    by_cases hlooks : (0x62 :: didBytes did) <+: x :: y :: d
    · rw [dataOf_whole hfirst hlooks] at herror
      cases herror
    · rw [dataOf_kept hfirst hlooks] at herror
      cases herror
  · intro h
    have hfirst : (x :: y :: d).head? = some 0x7F := congrArg some h
    obtain ⟨e, herror⟩ := normalize_negative 0x22 (didBytes did) hfirst
    exact ⟨e, by rw [dataOf, herror]; rfl⟩

theorem splitRequiredDid_foreign (hforeign : [x, y] ≠ didBytes did) (label : String) :
    ∃ e, splitRequiredDid (x :: y :: d) did label = .error e := by
  have hne : u16FromBe x y ≠ did := by
    intro heq
    apply hforeign
    rw [didBytes_eq, ← heq, u16ToBe_fromBe]
  exact ⟨_, if_pos hne⟩

theorem splitRequiredDid_did (did : UInt16) (d : List UInt8) (label : String) :
    splitRequiredDid (didBytes did ++ d) did label = .ok ⟨did, d⟩ := by
  obtain ⟨high, low, hbytes, hread⟩ := u16FromBe_toBe did
  rw [didBytes_eq, hbytes]
  show (if u16FromBe high low ≠ did then _ else Except.ok (⟨u16FromBe high low, d⟩ : UdsDidResponse)) = _
  rw [hread, if_neg fun h => h rfl]

/-- The services that look at the identifier reject a foreign one, unless the bytes after it make
the whole response once more. -/
theorem requestDid_foreign {serviceId : UInt8} (hservice : serviceId < 0xC0) (hnegative : serviceId ≠ 0x3F)
    (hpositive : serviceId + 0x40 ≠ 0x7F) (hecho : echoLen serviceId = 2) (hforeign : [x, y] ≠ didBytes did)
    {data : List UInt8} (label : String)
    (h : IsoTp.Answered config closed serviceId (didBytes did ++ data) stream
      ((serviceId + 0x40) :: x :: y :: d)) :
    (∃ e, ((requestDid (IsoTp.transport config) serviceId did data label).run closed stream).result =
        .error e) ↔
      ¬ ((serviceId + 0x40) :: didBytes did) <+: x :: y :: d := by
  have hrequest := requestService_isoTp hservice hnegative h
  by_cases hfirst : (x :: y :: d).head? = some 0x7F
  · obtain ⟨e, herror⟩ := normalize_negative serviceId (didBytes did ++ data) hfirst
    refine iff_of_true ⟨e, Process.run_bind_error (hrequest.trans herror) _⟩ fun hlooks => ?_
    exact hpositive ((List.cons_prefix_cons.mp hlooks).1.trans (Option.some.inj hfirst))
  by_cases hlooks : ((serviceId + 0x40) :: didBytes did) <+: x :: y :: d
  · have hwhole := normalize_whole hservice hfirst ((looksWhole_identifier hecho did data).mpr hlooks)
    obtain ⟨rest, hrest⟩ := (List.cons_prefix_cons.mp hlooks).2
    refine iff_of_false (fun hrejected => ?_) fun hkept => hkept hlooks
    obtain ⟨e, herror⟩ := hrejected
    have haccepted : splitRequiredDid (x :: y :: d).tail did label = .ok ⟨did, rest⟩ := by
      rw [List.tail_cons, ← hrest]
      exact splitRequiredDid_did did rest label
    rw [requestDid, Process.run_bind_ok (hrequest.trans hwhole), haccepted] at herror
    cases herror
  · have hkept := normalize_kept hservice hfirst (mt (looksWhole_identifier hecho did data).mp hlooks)
    obtain ⟨e, hmismatch⟩ := splitRequiredDid_foreign (d := d) hforeign label
    refine iff_of_true ⟨e, ?_⟩ hlooks
    rw [requestDid, Process.run_bind_ok (hrequest.trans hkept), hmismatch]
    rfl

/-- **A response for another identifier is rejected exactly if that identifier begins with 7F.** The two
services next to it reject every one that is not followed by the right response. -/
theorem foreignDid_rejected_iff (config : IsoTp.IsoTpConfig) (closed : Obd2Error)
    (stream : List IsoTp.CanDataFrame) (d : List UInt8) (hforeign : [x, y] ≠ didBytes did) :
    (IsoTp.Answered config closed 0x22 (didBytes did) stream (0x62 :: x :: y :: d) →
      ((∃ e, ((readDataByIdentifier (IsoTp.transport config) did).run closed stream).result = .error e) ↔
        x = 0x7F)) ∧
    (∀ data, IsoTp.Answered config closed 0x2E (didBytes did ++ data) stream (0x6E :: x :: y :: d) →
      ((∃ e, ((writeDataByIdentifier (IsoTp.transport config) did data).run closed stream).result = .error e) ↔
        ¬ (0x6E :: didBytes did) <+: x :: y :: d)) ∧
    ∀ record, IsoTp.Answered config closed 0x2F (didBytes did ++ record) stream (0x6F :: x :: y :: d) →
      ((∃ e, ((inputOutputControlByIdentifier (IsoTp.transport config) did record).run closed stream).result =
          .error e) ↔
        ¬ (0x6F :: didBytes did) <+: x :: y :: d) := by
  refine ⟨fun hread => ?_, fun data hwrite => ?_, fun record hcontrol => ?_⟩
  · rw [readDataByIdentifier_isoTp hread]
    exact dataOf_error_iff
  · exact requestDid_foreign (by decide) (by decide) (by decide) rfl hforeign _ hwrite
  · exact requestDid_foreign (by decide) (by decide) (by decide) rfl hforeign _ hcontrol

end Foreign

/-- A response for 7F10 to a request for F190, and one for F191 to a request to write F190. -/
theorem foreignDid_rejected_f190 :
    (∃ e, ((readDataByIdentifier (IsoTp.transport ecuConfig) 0xF190).run .timeout
      [ecuFrame [0x05, 0x62, 0x7F, 0x10, 0x12, 0x34]]).result = .error e) ∧
    ∃ e, ((writeDataByIdentifier (IsoTp.transport ecuConfig) 0xF190 [0x12]).run .timeout
      [ecuFrame [0x03, 0x6E, 0xF1, 0x91]]).result = .error e := by
  have hread : IsoTp.Answered ecuConfig .timeout 0x22 (didBytes 0xF190)
      [ecuFrame [0x05, 0x62, 0x7F, 0x10, 0x12, 0x34]] [0x62, 0x7F, 0x10, 0x12, 0x34] :=
    ⟨by decide, rfl, 0, Nat.zero_le _, .cons rfl (.nil _)⟩
  have hwrite : IsoTp.Answered ecuConfig .timeout 0x2E (didBytes 0xF190 ++ [0x12])
      [ecuFrame [0x03, 0x6E, 0xF1, 0x91]] [0x6E, 0xF1, 0x91] :=
    ⟨by decide, rfl, 0, Nat.zero_le _, .cons rfl (.nil _)⟩
  exact ⟨((foreignDid_rejected_iff _ _ _ _ (by decide)).1 hread).mpr rfl,
    ((foreignDid_rejected_iff _ _ _ _ (by decide)).2.1 _ hwrite).mpr (by decide)⟩

/-- The data of F191 are returned for F190, identifier and all. -/
theorem foreignDid_accepted :
    let stream := [ecuFrame [0x05, 0x62, 0xF1, 0x91, 0x12, 0x34, 0x00, 0x00]]
    IsoTp.Answered ecuConfig .timeout 0x22 (didBytes 0xF190) stream [0x62, 0xF1, 0x91, 0x12, 0x34] ∧
      [0xF1, 0x91] ≠ didBytes 0xF190 ∧
      ((readDataByIdentifier (IsoTp.transport ecuConfig) 0xF190).run .timeout stream).result =
        .ok [0xF1, 0x91, 0x12, 0x34] :=
  ⟨⟨by decide, rfl, 0, Nat.zero_le _, .cons rfl (.nil _)⟩, by decide, rfl⟩

end Obd2
