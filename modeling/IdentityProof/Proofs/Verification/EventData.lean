import IdentityProof.Proofs.Rule.Address
import IdentityProof.Proofs.Signal.LeadingZeros
import IdentityProof.Proofs.Signal.Overlong
import IdentityProof.Proofs.Verification.Reports

/-! Event data under a policy. Given bytes are compared with those that a signal has kept, so bytes
that begin with zero are never found. A signal that is no decimal holds no bytes, which is what an
address of zero words asks for. -/

namespace IdentityProof

namespace Policy

variable {p : Policy} {rule : EventData} {signal : String}

theorem eventDataOutcome_eq (hrule : p.eventData = some rule) :
    p.eventDataOutcome signal = Rule.checkAll [.required, .eventData rule] (.text signal) := by
  unfold eventDataOutcome
  rw [hrule]
  rfl

theorem eventDataOutcome_blank (hrule : p.eventData = some rule) :
    p.eventDataOutcome "" = .ok (.failed .blank) := by
  rw [eventDataOutcome_eq hrule]
  rfl

theorem eventDataOutcome_of_ne_blank (hrule : p.eventData = some rule) (hne : signal ≠ "") :
    p.eventDataOutcome signal = Outcome.ofCheck (rule.check signal) := by
  have hrequired := Rule.required_check_eq_ok.mpr hne
  have hloop : [Rule.required, .eventData rule].forM (fun r => r.check (.text signal)) =
      (Rule.required.check (.text signal) >>= fun _ =>
        (Rule.eventData rule).check (.text signal) >>= fun _ => .ok ()) := rfl
  have hsame : (Rule.eventData rule).check (.text signal) = rule.check signal := rfl
  rw [eventDataOutcome_eq hrule, Rule.checkAll, hloop, hrequired, hsame]
  cases rule.check signal <;> rfl

theorem eventDataOutcome_pass_iff (hrule : p.eventData = some rule) :
    p.eventDataOutcome signal = .ok .pass ↔ signal ≠ "" ∧ rule.check signal = .ok () := by
  by_cases hne : signal = ""
  · rw [hne, eventDataOutcome_blank hrule]
    exact iff_of_false nofun fun h => h.1 rfl
  · rw [eventDataOutcome_of_ne_blank hrule hne, Outcome.ofCheck_eq_pass, and_iff_right hne]

theorem eventData_reported_iff (hrule : p.eventData = some rule) {now : Moment}
    {signals : Signal → String} {failures : Failures RuleError}
    (h : p.passportFailures now signals = .ok failures) :
    Signal.eventData.path ∈ failures.fields ↔
      p.eventDataOutcome (signals .eventData) ≠ .ok .pass := by
  obtain ⟨outcomes, -, -, -, -, ho, -⟩ := passportFailures_eq_ok h
  unfold passportOutcomes at ho
  simp only [bind_eq_ok] at ho
  obtain ⟨-, -, -, -, -, -, -, -, outcome, hd, -⟩ := ho
  have hfails : (∃ e, outcome = .failed e) ↔ p.FailsPassport now signals .eventData :=
    eventDataOutcome_failed hd
  have hran : outcome ≠ .skipped := by
    rintro rfl
    rw [eventDataOutcome_eq hrule] at hd
    exact Rule.checkAll_ne_skipped hd
  have hreport : Signal.eventData.path ∈ failures.fields ↔
      p.FailsPassport now signals .eventData := by
    rw [(passport_report h).mem_iff fun s => mem_passportSignals]
    constructor
    · rintro ⟨s, hs, hfail⟩
      rw [Signal.path_injective hs]
      exact hfail
    · intro hfail
      exact ⟨.eventData, rfl, hfail⟩
  rw [hreport, ← hfails, hd, Ne, Except.ok.injEq, ← Ne, Outcome.ne_pass_iff, or_iff_right hran]

/-- What the check of given bytes ends in for every signal. It passes for the number of the bytes
alone, and for no signal if they begin with zero: their own packing is refused as well. -/
theorem givenBytes_pass_iff {data : Bytes} (hdata : data ≠ []) (p : Policy) :
    let asked := (Setting.ofEventData data).apply p
    (∀ signal, asked.eventDataOutcome signal = .ok .pass ↔
      parseDecimal signal = .ok (some (Bytes.toNat data)) ∧ ¬ Bytes.LeadsWithZero data) ∧
    (∀ signal, ¬ Overlong signal → asked.eventDataOutcome signal ≠ .ok .pass →
      asked.eventDataOutcome signal =
        .ok (.failed (if signal = "" then .blank else .eventDataDiffers))) ∧
    (data.length ≤ 32 → ∃ packed, Packing.pack data = .ok packed ∧
      (asked.eventDataOutcome packed = .ok .pass ↔ ¬ Bytes.LeadsWithZero data)) := by
  intro asked
  have hrule : asked.eventData = some (.bytes data) := by
    change (if data.isEmpty then none else some (EventData.bytes data)) = _
    rw [if_neg (mt List.isEmpty_iff.mp hdata)]
  have hpass : ∀ signal, asked.eventDataOutcome signal = .ok .pass ↔
      parseDecimal signal = .ok (some (Bytes.toNat data)) ∧ ¬ Bytes.LeadsWithZero data := by
    intro signal
    rw [eventDataOutcome_pass_iff hrule, EventData.bytes_check_iff, Packing.unpack_eq_ok_iff hdata]
    apply and_iff_right_of_imp
    rintro ⟨hn, -⟩ rfl
    exact nomatch hn
  refine ⟨hpass, ?_, ?_⟩
  · intro signal hshort hno
    by_cases hne : signal = ""
    · rw [if_pos hne, hne]
      exact eventDataOutcome_blank hrule
    · rw [if_neg hne]
      have houtcome := eventDataOutcome_of_ne_blank hrule hne
      rw [houtcome, Ne, Outcome.ofCheck_eq_pass, EventData.bytes_check_iff] at hno
      rw [houtcome, Outcome.ofCheck_eq_failed]
      cases hp : Packing.unpack signal with
      | error f => exact absurd (isError_unpack.mp ⟨f, hp⟩) hshort
      | ok payload =>
        have hdiffers : payload ≠ data := fun he => hno (he ▸ hp)
        simp only [EventData.check, hp]
        exact if_neg hdiffers
  · intro hlen
    have hroom : 3 * data.length ≤ Integer.digitLimit :=
      Nat.le_trans (Nat.mul_le_mul_left 3 hlen) (by decide)
    have hpack := Packing.pack_eq hroom
    refine ⟨_, hpack, ?_⟩
    rw [hpass, and_iff_right (parseDecimal_decimalText hpack)]

theorem givenBytes_found : [1, 2, 3] ≠ ([] : Bytes) ∧
    ((Setting.ofEventData [1, 2, 3]).apply .default).eventDataOutcome "66051" = .ok .pass := by
  have hdata : [1, 2, 3] ≠ ([] : Bytes) := List.cons_ne_nil _ _
  have hnumber : parseDecimal "66051" = .ok (some (Bytes.toNat [1, 2, 3])) := rfl
  exact ⟨hdata, ((givenBytes_pass_iff hdata .default).1 "66051").mpr ⟨hnumber, by decide⟩⟩

/-- The number one is that of the bytes zero and one, and their packing. -/
theorem leadingZero_refused : Packing.pack [0, 1] = .ok "1" ∧
    parseDecimal "1" = .ok (some (Bytes.toNat [0, 1])) ∧
      ((Setting.ofEventData [0, 1]).apply .default).eventDataOutcome "1" =
        .ok (.failed .eventDataDiffers) := by
  have hpack : Packing.pack [0, 1] = .ok (toString (Bytes.toNat [0, 1])) :=
    Packing.pack_eq (by decide)
  exact ⟨hpack, rfl, rfl⟩

end Policy

theorem EventData.checkAddress_nil {address label : Json} {bound : BoundAddress}
    (h : BoundAddress.parse address label = .ok bound) : checkAddress bound [] =
      if ∀ w ∈ bound.words, w = 0 then .ok () else .error (.refused .addressDiffers) := by
  have hwords : bound.wordsOf [] = List.replicate bound.words.length 0 := List.append_nil _
  by_cases hzero : ∀ w ∈ bound.words, w = 0
  · rw [if_pos hzero, BoundAddress.checkAddress_eq_ok h]
    refine .inr ⟨by decide, ?_⟩
    rw [hwords]
    exact (List.eq_replicate_iff.mpr ⟨rfl, hzero⟩).symm
  · rw [if_neg hzero]
    have hsmall : (bound.wordsOf []).any (32 ≤ ·) = false := by
      rw [hwords]
      simp
    have hdiffers : ¬ String.ofList (Bech32.encode bound.label.toList (bound.wordsOf [])) =
        bound.address := by
      have hz : Bech32.AreWords (bound.wordsOf []) := by
        rw [hwords]
        intro w hw
        rw [List.eq_of_mem_replicate hw]
        decide
      rw [BoundAddress.encode_eq_address_iff h hz, hwords, eq_comm, List.eq_replicate_iff]
      exact fun hall => hzero hall.2
    unfold checkAddress
    rw [if_neg (by decide)]
    change (if (bound.wordsOf []).any (32 ≤ ·) then _ else _) = _
    rw [hsmall, if_neg Bool.false_ne_true]
    exact if_neg hdiffers

theorem EventData.address_check_of_unreadable {bound : BoundAddress} {signal : String}
    (hs : parseDecimal signal = .ok none) :
    (EventData.address bound).check signal = checkAddress bound [] := by
  unfold check Packing.unpack
  rw [hs]
  rfl

theorem Setting.ofAddress_of_parse {address label : Json} {bound : BoundAddress}
    (h : BoundAddress.parse address label = .ok bound) :
    ofAddress address label = .ok (.eventData (some (.address bound))) := by
  unfold ofAddress
  rw [h]
  rfl

namespace Policy

/-- A signal that is no decimal is refused by every address but those of zero words, by which it is
accepted, whatever it says. -/
theorem unreadable_signal_outcome {address label : Json} {bound : BoundAddress}
    (h : BoundAddress.parse address label = .ok bound) {signal : String}
    (hs : parseDecimal signal = .ok none) :
    ((Rule.eventData (.address bound)).check (.text signal) =
      if ∀ w ∈ bound.words, w = 0 then .ok () else .error (.refused .addressDiffers)) ∧
    ∃ s, Setting.ofAddress address label = .ok s ∧ ∀ p, (s.apply p).eventDataOutcome signal =
      .ok (if signal = "" then .failed .blank
        else if ∀ w ∈ bound.words, w = 0 then .pass else .failed .addressDiffers) := by
  have hcheck : (EventData.address bound).check signal = _ :=
    (EventData.address_check_of_unreadable hs).trans (EventData.checkAddress_nil h)
  refine ⟨hcheck, _, Setting.ofAddress_of_parse h, fun p => ?_⟩
  have hrule : ((Setting.eventData (some (.address bound))).apply p).eventData =
      some (.address bound) := rfl
  by_cases hne : signal = ""
  · rw [if_pos hne, hne, eventDataOutcome_blank hrule]
  · rw [if_neg hne, eventDataOutcome_of_ne_blank hrule hne, hcheck]
    split <;> rfl

theorem unreadable_signal_refused :
    BoundAddress.parse (.text "a1qy089ch6") (.text "a") = .ok Rule.zeroFour ∧
      parseDecimal "0xff" = .ok none ∧
        (Rule.eventData (.address Rule.zeroFour)).check (.text "0xff") =
          .error (.refused .addressDiffers) := by
  have hparse : BoundAddress.parse (.text "a1qy089ch6") (.text "a") = .ok Rule.zeroFour := rfl
  have hsignal : parseDecimal "0xff" = .ok none := rfl
  have hnonzero : ¬ ∀ w ∈ Rule.zeroFour.words, w = 0 := by decide
  obtain ⟨hcheck, -⟩ := unreadable_signal_outcome hparse hsignal
  exact ⟨hparse, hsignal, hcheck.trans (if_neg hnonzero)⟩

def zeroAddress : BoundAddress where
  address := "rarimo1qqqqqqqqqqqqqqqqqqqqqqqqqqqqqqqq85xjqh"
  label := "rarimo"
  words := List.replicate 32 0
  raw := List.replicate 20 0

theorem unreadable_signal_accepted :
    BoundAddress.parse (.text zeroAddress.address) BoundAddress.defaultLabel = .ok zeroAddress ∧
      parseDecimal "0xff" = .ok none ∧
        (Rule.eventData (.address zeroAddress)).check (.text "0xff") = .ok () :=
  ⟨by decide +kernel, rfl, by decide +kernel⟩

end Policy

end IdentityProof
