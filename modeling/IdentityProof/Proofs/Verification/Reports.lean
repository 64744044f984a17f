import IdentityProof.Proofs.Verification.Fields
import IdentityProof.Proofs.Verification.Phases

/-! The reported fields. Every group of checks reports on its own signals, the groups have no signal
in common, and so nothing is lost where they are merged. -/

namespace IdentityProof

namespace Policy

variable {p : Policy} {now : Moment} {signal : Signal → String}

theorem passportOutcomes_report {outcomes : List (String × Outcome RuleError)}
    (h : p.passportOutcomes signal = .ok outcomes) :
    (Failures.ofOutcomes outcomes).Report
      [.selector, .eventId, .citizenship, .eventData, .documentType]
      (p.FailsPassport now signal) := by
  unfold passportOutcomes at h
  simp only [bind_eq_ok, pure_eq_ok] at h
  obtain ⟨selector, hs, eventId, hi, citizen, hct, citizenship, hc, eventData, hd, code, hkt,
    document, hk, rfl⟩ := h
  refine .ofOutcome (equalOutcome_failed hs) <| .ofOutcome (equalOutcome_failed hi) <|
    .ofOutcome ?_ <| .ofOutcome (eventDataOutcome_failed hd) <| .ofOutcome ?_ <| .nil nofun
  · rw [acceptedOutcome_failed hc]
    simp [FailsPassport, hct]
  · rw [equalOutcome_failed hk]
    simp [FailsPassport, hkt]

theorem georgianOutcomes_report {outcomes : List (String × Outcome RuleError)}
    (h : p.georgianOutcomesOf now signal = .ok outcomes) :
    (Failures.ofOutcomes outcomes).Report [.currentDate, .personalNumberHash]
      (p.FailsPassport now signal) := by
  unfold georgianOutcomesOf at h
  cases ht : p.proofType with
  | georgianPassport =>
    simp only [ht, georgianOutcomes, bind_eq_ok, pure_eq_ok] at h
    obtain ⟨yesterday, hy, tomorrow, hm, currentDate, hd, number, hn, rfl⟩ := h
    refine .ofOutcome ?_ <| .ofOutcome ?_ <| .nil nofun
    · rw [Rule.checkAll_failed hd]
      have hblank : signal .currentDate = "" →
          PackedDate.Fails (DateMode.after.Refuses yesterday) (signal .currentDate) := by
        intro he
        rw [he]
        exact PackedDate.fails_blank
      simp only [List.mem_cons, List.not_mem_nil, or_false, exists_eq_or_imp, exists_eq_left,
        Rule.required_refuses, Rule.date_refuses, FailsPassport, ht, hy, hm, true_and,
        Except.ok.injEq, exists_and_left, exists_eq_left', PackedDate.fails_or]
      exact or_iff_right_of_imp fun he => .inl (hblank he)
    · rw [Rule.checkAll_failed hn]
      simp only [List.mem_singleton, exists_eq_left, Rule.required_refuses, FailsPassport, ht,
        true_and]
  | globalPassport | pollParticipation =>
    obtain rfl : [] = outcomes := by simpa [ht] using h
    exact .nil (by simp [FailsPassport, ht])

theorem birthDate_report {failures : Failures RuleError}
    (h : p.birthDateFailures now signal = .ok failures) :
    failures.Report [.birthDate, .birthDateUpperBound] (p.FailsPassport now signal) := by
  unfold birthDateFailures at h
  cases hu : p.age.isUnset with
  | true =>
    obtain rfl : [] = failures := by simpa [hu, pure_eq_ok] using h
    exact .nil (by simp [FailsPassport, FailsAge, hu])
  | false =>
    simp only [hu, Bool.false_eq_true, if_false, bind_eq_ok, pure_eq_ok] at h
    obtain ⟨years, hy, cutoff, hc, shown, hs, bounded, hb, rfl⟩ := h
    have hran {mode : DateMode} {text : String} {outcome : Outcome RuleError}
        (ho : Rule.checkAll [.required, .date mode cutoff] (.text text) = .ok outcome) :
        outcome ≠ .pass ↔ PackedDate.Fails (mode.Refuses cutoff) text := by
      have hskip : outcome ≠ .skipped := fun he => Rule.checkAll_ne_skipped (he ▸ ho)
      rw [Outcome.ne_pass_iff, requiredDate_failed ho, or_iff_right hskip]
    have hfails : p.FailsAge now (signal .birthDate) (signal .birthDateUpperBound) ↔
        PackedDate.Fails (DateMode.before.Refuses cutoff) (signal .birthDate) ∧
          PackedDate.Fails (DateMode.equal.Refuses cutoff) (signal .birthDateUpperBound) := by
      simp only [FailsAge, hu, hy, hc, true_and, Except.ok.injEq, exists_and_left, exists_eq_left']
      rfl
    refine .ofEither nofun ?_ ?_
    · rw [requiredDate_failed hs, hran hb]
      exact hfails.symm
    · rw [requiredDate_failed hb, hran hs, and_comm]
      exact hfails.symm

theorem expiration_report {failures : Failures RuleError}
    (h : p.expirationFailures now signal = .ok failures) :
    failures.Report [.expirationDateLowerBound, .expirationDate] (p.FailsPassport now signal) := by
  unfold expirationFailures at h
  cases hu : p.skipsExpiration with
  | true =>
    obtain rfl : [] = failures := by simpa [hu, pure_eq_ok] using h
    exact .nil (by simp [FailsPassport, hu])
  | false =>
    simp only [hu, Bool.false_eq_true, if_false, bind_eq_ok, pure_eq_ok] at h
    obtain ⟨bound, hb, expiration, he, rfl⟩ := h
    refine .ofOutcome ?_ <| .ofOutcome ?_ <| .nil nofun
    · rw [dateOutcome_failed hb]
      simp only [FailsPassport, hu, true_and]
      rfl
    · rw [dateOutcome_failed he]
      simp only [FailsPassport, hu, true_and]
      rfl

theorem identity_report {failures : Failures RuleError}
    (h : p.identityFailures signal = .ok failures) :
    failures.Report [.identityCounterUpperBound, .timestampUpperBound]
      (p.FailsPassport now signal) := by
  unfold identityFailures at h
  simp only [bind_eq_ok, pure_eq_ok] at h
  obtain ⟨counter, hc, timestamp, ht, rfl⟩ := h
  obtain ⟨hcskip, hcfail⟩ := counterOutcome_cases hc
  obtain ⟨htskip, htfail⟩ := timestampOutcome_cases ht
  refine .ofEither nofun ?_ ?_
  · rw [Outcome.ne_pass_iff, htskip, htfail, hcfail]
    rfl
  · rw [Outcome.ne_pass_iff, hcskip, hcfail, htfail]
    rfl

def ruledSignals : ProofType → List Signal
  | .pollParticipation => [.participationEventId, .eventId]
  | _ => [
    .selector, .eventId, .citizenship, .eventData, .documentType, .currentDate, .personalNumberHash,
    .birthDate, .birthDateUpperBound, .expirationDateLowerBound, .expirationDate,
    .identityCounterUpperBound, .timestampUpperBound]

theorem passportFailures_eq_ok {failures : Failures RuleError}
    (h : p.passportFailures now signal = .ok failures) :
    ∃ outcomes georgian birthDate expiration identities,
      p.passportOutcomes signal = .ok outcomes ∧ p.georgianOutcomesOf now signal = .ok georgian ∧
        p.birthDateFailures now signal = .ok birthDate ∧
          p.expirationFailures now signal = .ok expiration ∧
            p.identityFailures signal = .ok identities ∧
              failures = (Failures.ofOutcomes outcomes ++ Failures.ofOutcomes georgian) ++
                (birthDate ++ (expiration ++ identities)) := by
  unfold passportFailures at h
  simp only [bind_eq_ok, pure_eq_ok] at h
  obtain ⟨outcomes, ho, georgian, hg, birthDate, hb, expiration, he, identities, hi, rfl⟩ := h
  refine ⟨outcomes, georgian, birthDate, expiration, identities, ho, hg, hb, he, hi, ?_⟩
  -- merging loses nothing because no two groups name the same signal
  have hreport := ((passportOutcomes_report ho).append (georgianOutcomes_report hg)).append
    ((birthDate_report hb).append ((expiration_report he).append (identity_report hi)))
  have hrow : Failures.ofOutcomes (outcomes ++ georgian) ++
      [birthDate, expiration, identities].flatten =
        (Failures.ofOutcomes outcomes ++ Failures.ofOutcomes georgian) ++
          (birthDate ++ (expiration ++ identities)) := by
    simp [Failures.ofOutcomes, List.filterMap_append]
  have hnodup : (Failures.fields (Failures.ofOutcomes (outcomes ++ georgian) ++
      [birthDate, expiration, identities].flatten)).Nodup := by
    rw [hrow]
    exact hreport.nodup (by decide)
  rw [Failures.foldl_union_eq_append hnodup, hrow]

theorem passportFailures_eq_nil (h : p.passportFailures now signal = .ok []) :
    ∃ outcomes georgian, p.passportOutcomes signal = .ok outcomes ∧
      Failures.ofOutcomes outcomes = [] ∧ p.georgianOutcomesOf now signal = .ok georgian ∧
        Failures.ofOutcomes georgian = [] ∧ p.birthDateFailures now signal = .ok [] ∧
          p.expirationFailures now signal = .ok [] ∧ p.identityFailures signal = .ok [] := by
  obtain ⟨outcomes, georgian, birthDate, expiration, identities, ho, hg, hb, he, hi, hrow⟩ :=
    passportFailures_eq_ok h
  obtain ⟨⟨hchecks, hgeorgian⟩, rfl, rfl, rfl⟩ : (Failures.ofOutcomes outcomes = [] ∧
      Failures.ofOutcomes georgian = []) ∧ birthDate = [] ∧ expiration = [] ∧ identities = [] := by
    simpa only [List.nil_eq, List.append_eq_nil_iff] using hrow
  exact ⟨outcomes, georgian, ho, hchecks, hg, hgeorgian, hb, he, hi⟩

theorem passport_report {failures : Failures RuleError}
    (h : p.passportFailures now signal = .ok failures) :
    failures.Report (ruledSignals .globalPassport) (p.FailsPassport now signal) := by
  obtain ⟨outcomes, georgian, birthDate, expiration, identities, ho, hg, hb, he, hi, rfl⟩ :=
    passportFailures_eq_ok h
  exact ((passportOutcomes_report ho).append (georgianOutcomes_report hg)).append
    ((birthDate_report hb).append ((expiration_report he).append (identity_report hi)))

theorem poll_report {failures : Failures RuleError} (h : p.pollFailures signal = .ok failures) :
    failures.Report (ruledSignals .pollParticipation) (p.FailsPoll signal) := by
  unfold pollFailures at h
  simp only [bind_eq_ok, pure_eq_ok] at h
  obtain ⟨participation, hp, eventId, hi, rfl⟩ := h
  exact .ofOutcome (equalOutcome_failed hp) <| .ofOutcome (equalOutcome_failed hi) <| .nil nofun

theorem rule_report {failures : Failures RuleError}
    (h : p.ruleFailures now signal = .ok failures) :
    failures.Report (ruledSignals p.proofType) (p.FailsRule now signal) := by
  unfold ruleFailures at h
  unfold FailsRule
  cases ht : p.proofType <;> rw [ht] at h
  case pollParticipation => exact poll_report h
  all_goals exact passport_report h

theorem mem_passportSignals {s : Signal} (h : p.FailsPassport now signal s) :
    s ∈ ruledSignals .globalPassport := by
  cases s <;> first | exact h.elim | decide

theorem mem_pollSignals {s : Signal} (h : p.FailsPoll signal s) :
    s ∈ ruledSignals .pollParticipation := by
  cases s <;> first | exact h.elim | decide

theorem mem_ruledSignals {s : Signal} (h : p.FailsRule now signal s) :
    s ∈ ruledSignals p.proofType := by
  unfold FailsRule at h
  cases ht : p.proofType <;> rw [ht] at h
  case pollParticipation => exact mem_pollSignals h
  all_goals exact mem_passportSignals h

theorem rootSignal_notMem_ruledSignals (t : ProofType) : rootSignal t ∉ ruledSignals t := by
  cases t <;> decide

theorem rootQuestion_signal (p : Policy) : p.rootQuestion.2 = rootSignal p.proofType := by
  unfold rootQuestion
  cases p.proofType <;> rfl

theorem signal_report {wrongRoot : Option InvalidRoot} {failures : Failures FieldError}
    (h : p.signalFailures now wrongRoot signal = .ok failures) :
    failures.Report (rootSignal p.proofType :: ruledSignals p.proofType)
      (p.Fails now (∃ why, wrongRoot = some why) signal) := by
  unfold signalFailures at h
  obtain ⟨found, hf, h⟩ := bind_eq_ok.mp h
  obtain rfl := pure_eq_ok.mp h
  have hroot : ¬ p.FailsRule now signal (rootSignal p.proofType) := fun hfails =>
    rootSignal_notMem_ruledSignals _ (mem_ruledSignals hfails)
  have hfound : Failures.Report (found.map fun entry => (entry.1, FieldError.rule entry.2))
      (ruledSignals p.proofType) (p.Fails now (∃ why, wrongRoot = some why) signal) := by
    refine ((rule_report hf).ofFields (by simp [Failures.fields])).congr fun s hs => ?_
    have hne : s ≠ rootSignal p.proofType := fun he =>
      rootSignal_notMem_ruledSignals _ (he ▸ hs)
    simp [Fails, hne]
  rw [rootQuestion_signal]
  cases wrongRoot with
  | none => exact (Failures.Report.none (by simp [Fails, hroot])).append hfound
  | some why => exact (Failures.Report.single (.inl ⟨rfl, why, rfl⟩)).append hfound

theorem signalFailures_fields {wrongRoot : Option InvalidRoot} {failures : Failures FieldError}
    (h : p.signalFailures now wrongRoot signal = .ok failures) :
    failures.fields.Nodup ∧ ∀ field, field ∈ failures.fields ↔
      ∃ s, field = s.path ∧ p.Fails now (∃ why, wrongRoot = some why) signal s := by
  have hgroup : (rootSignal p.proofType :: ruledSignals p.proofType).Nodup := by
    cases p.proofType <;> decide
  refine ⟨(signal_report h).nodup hgroup, (signal_report h).mem_iff fun s hfails => ?_⟩
  rcases hfails with ⟨rfl, -⟩ | hfails
  · exact List.mem_cons_self
  · exact List.mem_cons_of_mem _ (mem_ruledSignals hfails)

end Policy

/-- What the phase of the signals reports is what fails: its list names the signals whose own
condition holds, each once, and the proof is checked only when there is none. -/
theorem Verifier.run_signals (b : Behaviour σ) (now : Moment) (v : Verifier)
    (settings : List Setting) (proof : Proof) (s : σ) :
    let p := Policy.merge false v.policy settings
    let run := v.run b now settings proof s
    let fails := p.Fails now
      (∃ why, (p.rootAnswer b proof s).1 = .error (.refused (.invalid why)))
      (proof.signal p.proofType)
    (∀ failures, run.result = .error (.refused (.signals failures)) →
      failures ≠ [] ∧ failures.fields.Nodup ∧
        ∀ field, field ∈ failures.fields ↔ ∃ signal, field = signal.path ∧ fails signal) ∧
    (.proof proof ∈ run.calls → ∀ signal, ¬ fails signal) := by
  intro p run fails
  constructor
  · intro failures h
    obtain ⟨hne, wrong, hw, hf⟩ := Policy.run_eq_signals h
    have hfields := Policy.signalFailures_fields hf
    rw [isWrong_of_rootVerdict hw] at hfields
    exact ⟨hne, hfields⟩
  · intro h signal hfails
    obtain ⟨-, ha, hrules⟩ := Policy.proof_mem_run_calls.mp h
    rcases hfails with ⟨-, why, hwrong⟩ | hfails
    · exact nomatch ha.symm.trans hwrong
    · have hmem := ((Policy.rule_report hrules).mem_iff
        (fun _ => Policy.mem_ruledSignals) signal.path).mpr ⟨signal, rfl, hfails⟩
      exact nomatch hmem

end IdentityProof
