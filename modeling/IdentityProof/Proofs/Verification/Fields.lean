import IdentityProof.Proofs.Rule.Refusal
import IdentityProof.Proofs.Signal.Report
import IdentityProof.Verification.Signals

/-! The fields that fail. Each field has a condition of its own, on its own signal and its own part
of the policy, and the fields that are reported are exactly those whose condition holds. -/

namespace IdentityProof

def Json.Differs (option : Json) (value : String) : Prop :=
  option.isUnset = false ∧ option ≠ .text value

namespace Policy

def FailsAge (p : Policy) (now : Moment) (birthDate bound : String) : Prop :=
  p.age.isUnset = false ∧ ∃ years cutoff,
    p.age.toInteger = .ok years ∧ now.yearsAgo years = .ok cutoff ∧
      PackedDate.Fails (cutoff < Moment.midnight ·) birthDate ∧
        PackedDate.Fails (· ≠ cutoff.date) bound

def FailsCounter (p : Policy) (signal : String) : Prop :=
  p.maxIdentities.isUnset = false ∧ (parseDecimal signal = .ok none ∨
    ∃ count : Nat, parseDecimal signal = .ok (some count) ∧
      (Json.int count).greater p.maxIdentities = .ok true)

def FailsTimestamp (p : Policy) (signal : String) : Prop :=
  ∃ limit, p.createdBy = some limit ∧ (parseDecimal signal = .ok none ∨
    ∃ seconds : Nat, parseDecimal signal = .ok (some seconds) ∧
      ∀ moment, Moment.ofUnixSeconds seconds = .ok moment → limit < moment)

/-- The condition under which a signal of a passport fails, that of the root apart. -/
def FailsPassport (p : Policy) (now : Moment) (signal : Signal → String) : Signal → Prop
  | .selector => p.selector.Differs (signal .selector)
  | .eventId => p.eventId.Differs (signal .eventId)
  | .citizenship => p.citizenships ≠ [] ∧ ∃ text,
    Packing.unpackText (signal .citizenship) = .ok text ∧ (text = "" ∨ .text text ∉ p.citizenships)
  | .documentType => ∃ text,
    Packing.unpackText (signal .documentType) = .ok text ∧ p.documentType.Differs text
  | .eventData => ∃ rule, p.eventData = some rule ∧
    (signal .eventData = "" ∨ ∃ e, rule.check (signal .eventData) = .error (.refused e))
  | .currentDate => p.proofType = .georgianPassport ∧ ∃ yesterday tomorrow,
    now.startOfDay.previousDay = .ok yesterday ∧ now.startOfDay.nextDay = .ok tomorrow ∧
      PackedDate.Fails (fun d => Moment.midnight d < yesterday ∨ tomorrow < Moment.midnight d)
        (signal .currentDate)
  | .personalNumberHash =>
    p.proofType = .georgianPassport ∧ signal .personalNumberHash = ""
  | .birthDate | .birthDateUpperBound =>
    p.FailsAge now (signal .birthDate) (signal .birthDateUpperBound)
  | .expirationDateLowerBound =>
    p.skipsExpiration = false ∧ PackedDate.isUnset (signal .expirationDateLowerBound) = false ∧
      PackedDate.Fails (· ≠ now.date) (signal .expirationDateLowerBound)
  | .expirationDate =>
    p.skipsExpiration = false ∧ PackedDate.isUnset (signal .expirationDate) = false ∧
      PackedDate.Fails (Moment.midnight · < now) (signal .expirationDate)
  | .identityCounterUpperBound => p.FailsCounter (signal .identityCounterUpperBound) ∧
    (p.createdBy = none ∨ p.FailsTimestamp (signal .timestampUpperBound))
  | .timestampUpperBound => p.FailsTimestamp (signal .timestampUpperBound) ∧
    (p.maxIdentities.isUnset = true ∨ p.FailsCounter (signal .identityCounterUpperBound))
  | _ => False

def FailsPoll (p : Policy) (signal : Signal → String) : Signal → Prop
  | .participationEventId => p.participationEventId.Differs (signal .participationEventId)
  | .eventId => p.eventId.Differs (signal .eventId)
  | _ => False

def FailsRule (p : Policy) (now : Moment) (signal : Signal → String) : Signal → Prop :=
  match p.proofType with
  | .pollParticipation => p.FailsPoll signal
  | _ => p.FailsPassport now signal

def rootSignal : ProofType → Signal
  | .pollParticipation => .nullifiersTreeRoot
  | _ => .idStateRoot

/-- The condition under which a signal fails. The root does when it is wrong. -/
def Fails (p : Policy) (now : Moment) (wrongRoot : Prop) (signal : Signal → String) (s : Signal) :
    Prop :=
  (s = rootSignal p.proofType ∧ wrongRoot) ∨ p.FailsRule now signal s

/-! What a single check finds. -/

section

variable {p : Policy} {now : Moment} {signal : String} {outcome : Outcome RuleError}

theorem equalOutcome_failed {option : Json} {value : String}
    (h : equalOutcome option value = .ok outcome) :
    (∃ e, outcome = .failed e) ↔ option.Differs value := by
  rw [Rule.checkIfSet_failed h]
  simp only [List.mem_cons, List.not_mem_nil, or_false, exists_eq_or_imp, exists_eq_left,
    Rule.required_refuses, Rule.oneOf_refuses]
  refine and_congr_right fun hset => ?_
  constructor
  · rintro (hblank | hne) he
    · exact Json.ne_blank hset (hblank ▸ he)
    · exact hne he.symm
  · exact fun hne => .inr fun he => hne he.symm

theorem acceptedOutcome_failed {accepted : List Json} {value : String}
    (h : acceptedOutcome accepted value = .ok outcome) :
    (∃ e, outcome = .failed e) ↔ accepted ≠ [] ∧ (value = "" ∨ .text value ∉ accepted) := by
  rw [Rule.checkIfSet_failed h]
  simp only [List.mem_cons, List.not_mem_nil, or_false, exists_eq_or_imp, exists_eq_left,
    Rule.required_refuses, Rule.oneOf_refuses, List.isEmpty_eq_false_iff, ne_eq]

theorem eventDataOutcome_failed (h : p.eventDataOutcome signal = .ok outcome) :
    (∃ e, outcome = .failed e) ↔ ∃ rule, p.eventData = some rule ∧
      (signal = "" ∨ ∃ e, rule.check signal = .error (.refused e)) := by
  unfold eventDataOutcome at h
  cases hr : p.eventData with
  | none =>
    obtain rfl : .skipped = outcome := by simpa [hr] using h
    simp
  | some rule =>
    rw [hr] at h
    rw [Rule.checkIfSet_failed h]
    simp only [List.mem_cons, List.not_mem_nil, or_false, exists_eq_or_imp, exists_eq_left,
      Rule.required_refuses, Rule.eventData_refuses, true_and, Option.some.injEq, exists_eq_left']

theorem requiredDate_failed {mode : DateMode} {point : Moment}
    (h : Rule.checkAll [.required, .date mode point] (.text signal) = .ok outcome) :
    (∃ e, outcome = .failed e) ↔ PackedDate.Fails (mode.Refuses point) signal := by
  rw [Rule.checkAll_failed h]
  simp only [List.mem_cons, List.not_mem_nil, or_false, exists_eq_or_imp, exists_eq_left,
    Rule.required_refuses, Rule.date_refuses, or_iff_right_iff_imp]
  rintro rfl
  exact PackedDate.fails_blank

theorem dateOutcome_failed {mode : DateMode} {point : Moment}
    (h : dateOutcome mode point signal = .ok outcome) :
    (∃ e, outcome = .failed e) ↔ PackedDate.isUnset signal = false ∧
      PackedDate.Fails (mode.Refuses point) signal := by
  unfold dateOutcome at h
  cases hu : PackedDate.isUnset signal with
  | true =>
    obtain rfl : .skipped = outcome := by simpa [hu] using h
    simp
  | false =>
    rw [hu, if_neg Bool.false_ne_true] at h
    rw [Rule.checkAll_failed h]
    simp only [List.mem_singleton, exists_eq_left, Rule.date_refuses, true_and]

theorem atMost_check (limit value : Json) : Rule.check (.atMost limit) value = (do
    if ← Fault.lift (value.greater limit) then refuse (.aboveLimit (← Fault.lift limit.shown))) := rfl

theorem atMost_check_eq_ok {limit value : Json} (h : Rule.check (.atMost limit) value = .ok ()) :
    value.greater limit = .ok false := by
  rw [atMost_check] at h
  obtain ⟨greater, hg, h⟩ := bind_eq_ok.mp h
  cases greater with
  | false => exact Fault.lift_eq_ok.mp hg
  | true =>
    obtain ⟨shown, -, h⟩ := bind_eq_ok.mp h
    exact nomatch h

theorem atMost_failed {limit value : Json}
    (h : Rule.checkAll [.atMost limit] value = .ok outcome) :
    (∃ e, outcome = .failed e) ↔ value.greater limit = .ok true := by
  constructor
  · intro hf
    obtain ⟨rule, hr, e, he⟩ := (Rule.checkAll_failed h).mp hf
    obtain rfl := List.mem_singleton.mp hr
    rw [atMost_check] at he
    rcases bind_eq_error.mp he with he | ⟨greater, hg, he⟩
    · obtain ⟨f, -, hn⟩ := Fault.lift_eq_error.mp he
      exact nomatch hn
    · cases greater with
      | true => exact Fault.lift_eq_ok.mp hg
      | false => exact nomatch he
  · intro hg
    cases outcome with
    | failed e => exact ⟨e, rfl⟩
    | skipped => exact absurd h Rule.checkAll_ne_skipped
    | pass =>
      have hle := atMost_check_eq_ok (Rule.checkAll_pass h _ List.mem_cons_self)
      exact nomatch hg.symm.trans hle

theorem counterOutcome_cases (h : p.counterOutcome signal = .ok outcome) :
    (outcome = .skipped ↔ p.maxIdentities.isUnset = true) ∧
      ((∃ e, outcome = .failed e) ↔ p.FailsCounter signal) := by
  unfold counterOutcome at h
  unfold FailsCounter
  cases hu : p.maxIdentities.isUnset with
  | true =>
    obtain rfl : .skipped = outcome := by simpa [hu, pure_eq_ok] using h
    simp
  | false =>
    simp only [hu, Bool.false_eq_true, if_false, bind_eq_ok] at h
    obtain ⟨count?, hn, h⟩ := h
    cases count? with
    | none =>
      obtain rfl := pure_eq_ok.mp h
      simp [hn]
    | some count =>
      have hran : outcome ≠ .skipped := fun he => Rule.checkAll_ne_skipped (he ▸ h)
      simp [hn, hran, atMost_failed h]

theorem timestampOutcome_cases (h : p.timestampOutcome signal = .ok outcome) :
    (outcome = .skipped ↔ p.createdBy = none) ∧
      ((∃ e, outcome = .failed e) ↔ p.FailsTimestamp signal) := by
  unfold timestampOutcome at h
  unfold FailsTimestamp
  cases hl : p.createdBy with
  | none =>
    obtain rfl : .skipped = outcome := by simpa [hl, pure_eq_ok] using h
    simp
  | some limit =>
    rw [hl] at h
    obtain ⟨seconds?, hn, h⟩ := bind_eq_ok.mp h
    generalize hm : (seconds?.bind fun n => (Moment.ofUnixSeconds (n : Nat)).toOption) = moment? at h
    generalize Moment.ofUnixSeconds = ofUnix at hm ⊢
    cases moment? with
    | none =>
      obtain rfl := pure_eq_ok.mp h
      refine ⟨by simp, fun _ => ⟨limit, rfl, ?_⟩, fun _ => ⟨_, rfl⟩⟩
      cases seconds? with
      | none => exact .inl hn
      | some seconds =>
        refine .inr ⟨seconds, hn, fun moment he => ?_⟩
        have hsome := toOption_eq_some.mpr he
        rw [Option.bind_some, hsome] at hm
        exact nomatch hm
    | some moment =>
      obtain rfl := pure_eq_ok.mp h
      obtain ⟨seconds, rfl, hsome⟩ := Option.bind_eq_some_iff.mp hm
      have hof := toOption_eq_some.mp hsome
      by_cases hlate : limit < moment
      · simp [hn, hof, hlate]
      · simp [hn, hof, hlate]

end

end Policy
end IdentityProof
