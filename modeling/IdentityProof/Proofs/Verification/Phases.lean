import IdentityProof.Proofs.Verification.Run

/-! The phases of a verification: structure, signals with one check of the root, and the proof
itself. A phase is entered only when the one before it found nothing. -/

namespace IdentityProof

variable {σ : Type}

theorem rootVerdict_eq_ok {answer : Except (Raised RootError) Unit} {wrong : Option InvalidRoot} :
    rootVerdict answer = .ok wrong ↔
      (answer = .ok () ∧ wrong = none) ∨
        ∃ why, answer = .error (.refused (.invalid why)) ∧ wrong = some why := by
  unfold rootVerdict
  split <;> simp [eq_comm]

theorem isWrong_of_rootVerdict {answer : Except (Raised RootError) Unit}
    {wrong : Option InvalidRoot} (h : rootVerdict answer = .ok wrong) :
    (∃ why, wrong = some why) ↔ ∃ why, answer = .error (.refused (.invalid why)) := by
  rcases rootVerdict_eq_ok.mp h with ⟨rfl, rfl⟩ | ⟨why, rfl, rfl⟩ <;> simp

theorem rootVerdict_eq_error {answer : Except (Raised RootError) Unit} {e : Raised VerifyError}
    (h : rootVerdict answer = .error e) :
    (∃ why, answer = .error (.refused (.unchecked why)) ∧ e = .refused (.unchecked why)) ∨
      ∃ f, answer = .error (.fault f) ∧ e = .fault f := by
  unfold rootVerdict at h
  split at h <;> simp_all

namespace Policy

variable {p : Policy} {now : Moment} {proof : Proof} {answer : Except (Raised RootError) Unit}

theorem signalFailures_eq_nil {wrong : Option InvalidRoot} {signal : Signal → String} :
    p.signalFailures now wrong signal = .ok [] ↔
      wrong = none ∧ p.ruleFailures now signal = .ok [] := by
  unfold signalFailures
  rw [bind_eq_ok]
  constructor
  · rintro ⟨failures, hf, h⟩
    rw [pure_eq_ok] at h
    simp at h
    obtain ⟨rfl, rfl⟩ := h
    exact ⟨rfl, hf⟩
  · rintro ⟨rfl, hf⟩
    exact ⟨[], hf, rfl⟩

theorem judgeSignals_eq_ok :
    p.judgeSignals now proof answer = .ok () ↔
      answer = .ok () ∧ p.ruleFailures now (proof.signal p.proofType) = .ok [] := by
  unfold judgeSignals
  simp only [bind_eq_ok, Fault.lift_eq_ok, rootVerdict_eq_ok]
  constructor
  · rintro ⟨wrong, hw, failures, hf, h⟩
    split at h
    · rename_i he
      rw [List.isEmpty_iff.mp he, signalFailures_eq_nil] at hf
      obtain ⟨rfl, hf⟩ := hf
      rcases hw with ⟨ha, -⟩ | ⟨why, -, hn⟩
      · exact ⟨ha, hf⟩
      · exact nomatch hn
    · exact (throw_eq_ok.mp h).elim
  · rintro ⟨ha, hf⟩
    exact ⟨none, .inl ⟨ha, rfl⟩, [], signalFailures_eq_nil.mpr ⟨rfl, hf⟩, rfl⟩

theorem judgeSignals_of_unchecked {why : UncheckedRoot}
    (h : answer = .error (.refused (.unchecked why))) :
    p.judgeSignals now proof answer = .error (.refused (.unchecked why)) := by
  rw [h]
  rfl

theorem judgeSignals_of_verdict {wrong : Option InvalidRoot} (h : rootVerdict answer = .ok wrong) :
    p.judgeSignals now proof answer =
      (Fault.lift (p.signalFailures now wrong (proof.signal p.proofType)) >>= fun failures =>
        if failures.isEmpty then pure () else throw (.refused (.signals failures))) := by
  unfold judgeSignals
  rw [h]
  rfl

theorem judgeSignals_eq_error {e : Raised VerifyError}
    (h : p.judgeSignals now proof answer = .error e) :
    (∃ failures wrong, e = .refused (.signals failures) ∧ failures ≠ [] ∧
      rootVerdict answer = .ok wrong ∧
        p.signalFailures now wrong (proof.signal p.proofType) = .ok failures) ∨
      (∃ why, e = .refused (.unchecked why) ∧ answer = .error (.refused (.unchecked why))) ∨
        ∃ f, e = .fault f := by
  unfold judgeSignals at h
  rcases bind_eq_error.mp h with hv | ⟨wrong, hw, h⟩
  · rcases rootVerdict_eq_error hv with ⟨why, ha, he⟩ | ⟨f, -, he⟩
    · exact .inr (.inl ⟨why, he, ha⟩)
    · exact .inr (.inr ⟨f, he⟩)
  · rcases bind_eq_error.mp h with hl | ⟨failures, hf, h⟩
    · obtain ⟨f, -, he⟩ := Fault.lift_eq_error.mp hl
      exact .inr (.inr ⟨f, he⟩)
    · rw [Fault.lift_eq_ok] at hf
      split at h
      · exact nomatch h
      · rename_i hne
        have he : e = .refused (.signals failures) := (Except.error.inj h).symm
        exact .inl ⟨failures, wrong, he, fun hn => hne (List.isEmpty_iff.mpr hn), hw, hf⟩

/-- A run goes one of three ways: it stops at the structure, at the signals, or it ends with the
check of the proof. -/
theorem run_cases (b : Behaviour σ) (now : Moment) (p : Policy) (proof : Proof) (s : σ) :
    (proof.structuralFailures p.proofType ≠ [] ∧ p.run b now proof s =
      { result := .error (.refused (.structural (proof.structuralFailures p.proofType)))
        state := s
        calls := [] }) ∨
    (proof.structuralFailures p.proofType = [] ∧ ∃ e,
      p.judgeSignals now proof (p.rootAnswer b proof s).1 = .error e ∧ p.run b now proof s =
        { result := .error e
          state := (p.rootAnswer b proof s).2
          calls := [p.rootCall proof] }) ∨
    (proof.structuralFailures p.proofType = [] ∧
      p.judgeSignals now proof (p.rootAnswer b proof s).1 = .ok () ∧ p.run b now proof s =
        { result := (b.checkProof proof (p.rootAnswer b proof s).2).1.mapError
            fun reason => .refused (.proofInvalid reason)
          state := (b.checkProof proof (p.rootAnswer b proof s).2).2
          calls := [p.rootCall proof, .proof proof] }) := by
  by_cases h : proof.structuralFailures p.proofType = []
  · cases hj : p.judgeSignals now proof (p.rootAnswer b proof s).1 with
    | error e => exact .inr (.inl ⟨h, e, rfl, run_of_judged_error h hj⟩)
    | ok u => exact .inr (.inr ⟨h, rfl, run_of_judged_ok h hj⟩)
  · exact .inl ⟨h, run_of_structural h⟩

variable {b : Behaviour σ} {s : σ}

theorem run_eq_structural {failures : Failures RuleError}
    (h : (p.run b now proof s).result = .error (.refused (.structural failures))) :
    failures = proof.structuralFailures p.proofType ∧ failures ≠ [] ∧
      (p.run b now proof s).calls = [] ∧ (p.run b now proof s).state = s := by
  rcases p.run_cases b now proof s with ⟨hs, he⟩ | ⟨-, e, hj, he⟩ | ⟨-, -, he⟩ <;> rw [he] at h ⊢
  · obtain rfl : proof.structuralFailures p.proofType = failures := by simpa using h
    exact ⟨rfl, hs, rfl, rfl⟩
  · obtain rfl : e = .refused (.structural failures) := Except.error.inj h
    rcases judgeSignals_eq_error hj with ⟨_, _, he, _⟩ | ⟨_, he, _⟩ | ⟨_, he⟩ <;> exact nomatch he
  · obtain ⟨reason, -, hn⟩ := mapError_eq_error.mp h
    exact nomatch hn

theorem run_eq_signals {failures : Failures FieldError}
    (h : (p.run b now proof s).result = .error (.refused (.signals failures))) :
    failures ≠ [] ∧ ∃ wrong, rootVerdict (p.rootAnswer b proof s).1 = .ok wrong ∧
      p.signalFailures now wrong (proof.signal p.proofType) = .ok failures := by
  rcases p.run_cases b now proof s with ⟨-, he⟩ | ⟨-, e, hj, he⟩ | ⟨-, -, he⟩ <;> rw [he] at h
  · simp at h
  · obtain rfl : e = .refused (.signals failures) := Except.error.inj h
    rcases judgeSignals_eq_error hj with ⟨found, wrong, he, hne, hw, hf⟩ | ⟨_, he, _⟩ | ⟨_, he⟩
    · obtain rfl : failures = found := by simpa using he
      exact ⟨hne, wrong, hw, hf⟩
    · exact nomatch he
    · exact nomatch he
  · obtain ⟨reason, -, hn⟩ := mapError_eq_error.mp h
    exact nomatch hn

theorem run_calls (h : proof.structuralFailures p.proofType = []) :
    (p.run b now proof s).calls = [p.rootCall proof] ∨
      (p.run b now proof s).calls = [p.rootCall proof, .proof proof] := by
  rcases p.run_cases b now proof s with ⟨hs, -⟩ | ⟨-, e, -, he⟩ | ⟨-, -, he⟩
  · exact absurd h hs
  · exact .inl (congrArg Run.calls he)
  · exact .inr (congrArg Run.calls he)

theorem run_of_unchecked {why : UncheckedRoot} (h : proof.structuralFailures p.proofType = [])
    (ha : (p.rootAnswer b proof s).1 = .error (.refused (.unchecked why))) :
    (p.run b now proof s).result = .error (.refused (.unchecked why)) ∧
      (p.run b now proof s).calls = [p.rootCall proof] := by
  rw [run_of_judged_error h (judgeSignals_of_unchecked ha)]
  exact ⟨rfl, rfl⟩

theorem proof_mem_run_calls :
    .proof proof ∈ (p.run b now proof s).calls ↔ proof.structuralFailures p.proofType = [] ∧
      (p.rootAnswer b proof s).1 = .ok () ∧
        p.ruleFailures now (proof.signal p.proofType) = .ok [] := by
  rw [← judgeSignals_eq_ok]
  rcases p.run_cases b now proof s with ⟨hs, he⟩ | ⟨hs, e, hj, he⟩ | ⟨hs, hj, he⟩ <;>
    simp [he, hs, rootCall] <;> simp [hj]

theorem run_result_of_proof_mem (h : .proof proof ∈ (p.run b now proof s).calls) :
    (p.run b now proof s).result = (b.checkProof proof (p.rootAnswer b proof s).2).1.mapError
      fun reason => .refused (.proofInvalid reason) := by
  obtain ⟨hs, hj⟩ := proof_mem_run_calls.mp h
  rw [run_of_judged_ok hs (judgeSignals_eq_ok.mpr hj)]

theorem proof_mem_of_run_eq_ok (h : (p.run b now proof s).result = .ok ()) :
    .proof proof ∈ (p.run b now proof s).calls := by
  rcases p.run_cases b now proof s with ⟨-, he⟩ | ⟨-, e, -, he⟩ | ⟨-, -, he⟩ <;> rw [he] at h ⊢
  · exact nomatch h
  · exact nomatch h
  · exact List.mem_cons_of_mem _ List.mem_cons_self

end Policy

/-- The structure alone decides about a structural refusal, which names what is broken and comes
before every call. Otherwise the root of the type is checked, once and where the policy says, and
the proof after it only when neither the root nor a signal is refused. -/
theorem Verifier.run_phases (b : Behaviour σ) (now : Moment) (v : Verifier)
    (settings : List Setting) (proof : Proof) (s : σ) :
    let p := Policy.merge false v.policy settings
    let run := v.run b now settings proof s
    let answer := p.rootAnswer b proof s
    ((∃ failures, run.result = .error (.refused (.structural failures))) ↔
      proof.LacksPoints ∨ proof.signals = [] ∨ proof.signals.length ≠ p.proofType.signalCount ∨
        proof.signal p.proofType .nullifier = "") ∧
    (∀ failures, run.result = .error (.refused (.structural failures)) →
      failures.fields.Nodup ∧ (∀ field, field ∈ failures.fields ↔ proof.Broken p.proofType field) ∧
        run.calls = [] ∧ run.state = s) ∧
    ((∀ failures, run.result ≠ .error (.refused (.structural failures))) →
      (run.calls = [p.rootCall proof] ∨ run.calls = [p.rootCall proof, .proof proof]) ∧
        ∀ why, answer.1 = .error (.refused (.unchecked why)) →
          run.result = .error (.refused (.unchecked why)) ∧ run.calls = [p.rootCall proof]) ∧
    (.proof proof ∈ run.calls ↔ (∀ field, ¬ proof.Broken p.proofType field) ∧ answer.1 = .ok () ∧
      p.ruleFailures now (proof.signal p.proofType) = .ok []) ∧
    (.proof proof ∈ run.calls → run.result =
      (b.checkProof proof answer.2).1.mapError fun reason => .refused (.proofInvalid reason)) ∧
    (run.result = .ok () → .proof proof ∈ run.calls) := by
  intro p run answer
  have hbroken : proof.structuralFailures p.proofType = [] ↔
      ∀ field, ¬ proof.Broken p.proofType field := Proof.structuralFailures_eq_nil
  refine ⟨?_, ?_, ?_, ?_, Policy.run_result_of_proof_mem, Policy.proof_mem_of_run_eq_ok⟩
  · rw [← Proof.structuralFailures_ne_nil]
    constructor
    · rintro ⟨failures, h⟩
      obtain ⟨rfl, hne, -⟩ := Policy.run_eq_structural h
      exact hne
    · intro h
      exact ⟨_, congrArg Run.result (Policy.run_of_structural h)⟩
  · intro failures h
    obtain ⟨rfl, -, hcalls, hstate⟩ := Policy.run_eq_structural h
    have hnodup := proof.nodup_structuralFailures p.proofType
    exact ⟨hnodup, fun _ => Proof.mem_structuralFailures, hcalls, hstate⟩
  · intro h
    have hs : proof.structuralFailures p.proofType = [] := by
      by_cases hs : proof.structuralFailures p.proofType = []
      · exact hs
      · exact absurd (congrArg Run.result (Policy.run_of_structural hs)) (h _)
    exact ⟨Policy.run_calls hs, fun why => Policy.run_of_unchecked hs⟩
  · rw [← hbroken]
    exact Policy.proof_mem_run_calls

end IdentityProof
