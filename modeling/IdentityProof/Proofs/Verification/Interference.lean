import IdentityProof.Proofs.Verification.Faults

/-! Signals that a verification does not depend on. A check whose option is not set neither fails
nor passes, so the values of its signals cannot be told apart by what the signals are found to
be. -/

namespace IdentityProof

namespace Policy

/-- The policy has the signal checked, provided that the type of proof has it. -/
def Checks (p : Policy) : Signal → Prop
  | .selector => p.selector.isUnset = false
  | .eventId => p.eventId.isUnset = false
  | .citizenship => p.citizenships ≠ []
  | .documentType => p.documentType.isUnset = false
  | .eventData => p.eventData ≠ none
  | .birthDate | .birthDateUpperBound => p.age.isUnset = false
  | .expirationDate | .expirationDateLowerBound => p.skipsExpiration = false
  | .currentDate | .personalNumberHash => p.proofType = .georgianPassport
  | .identityCounterUpperBound => p.maxIdentities.isUnset = false
  | .timestampUpperBound => p.createdBy ≠ none
  | .participationEventId => p.participationEventId.isUnset = false
  | .nullifier | .idStateRoot | .nullifiersTreeRoot => False

/-- Both signals agree where the policy looks. -/
def Agree (p : Policy) (signal other : Signal → String) : Prop :=
  ∀ s, p.Checks s → signal s = other s

variable {p : Policy} {now : Moment} {signal other : Signal → String}

theorem checkIfSet_congr {isUnset : Bool} {rules : List Rule} {value changed : String}
    (h : isUnset = false → value = changed) :
    Rule.checkIfSet isUnset rules (.text value) = Rule.checkIfSet isUnset rules (.text changed) := by
  cases isUnset with
  | true => rfl
  | false => rw [h rfl]

theorem eventDataOutcome_congr (h : p.Agree signal other) :
    p.eventDataOutcome (signal .eventData) = p.eventDataOutcome (other .eventData) := by
  unfold eventDataOutcome
  cases he : p.eventData with
  | none => rfl
  | some rule =>
    have hset : p.eventData ≠ none := by simp [he]
    rw [h .eventData hset]

theorem unpackedOutcome_congr {isUnset : Bool} {rules : List Rule} {value changed text read : String}
    (hv : Packing.unpackText value = .ok text) (hc : Packing.unpackText changed = .ok read)
    (h : isUnset = false → value = changed) :
    Rule.checkIfSet isUnset rules (.text text) = Rule.checkIfSet isUnset rules (.text read) := by
  refine checkIfSet_congr fun hset => ?_
  rw [h hset, hc] at hv
  exact (Except.ok.inj hv).symm

theorem passportOutcomes_congr (h : p.Agree signal other) {found told : List (String × Outcome RuleError)}
    (hf : p.passportOutcomes signal = .ok found) (ht : p.passportOutcomes other = .ok told) :
    found = told := by
  unfold passportOutcomes at hf ht
  simp only [bind_eq_ok, pure_eq_ok] at hf ht
  obtain ⟨selector, hs, eventId, hi, citizen, hct, citizenship, hc, eventData, hd, code, hkt,
    document, hk, rfl⟩ := hf
  obtain ⟨selector', hs', eventId', hi', citizen', hct', citizenship', hc', eventData', hd', code',
    hkt', document', hk', rfl⟩ := ht
  have hcitizens : p.citizenships.isEmpty = false → signal .citizenship = other .citizenship :=
    fun hset => h .citizenship (List.isEmpty_eq_false_iff.mp hset)
  rw [equalOutcome, checkIfSet_congr (h .selector)] at hs
  rw [equalOutcome, checkIfSet_congr (h .eventId)] at hi
  rw [acceptedOutcome, unpackedOutcome_congr hct hct' hcitizens] at hc
  rw [eventDataOutcome_congr h] at hd
  rw [equalOutcome, unpackedOutcome_congr hkt hkt' (h .documentType)] at hk
  obtain rfl := Except.ok.inj (hs.symm.trans hs')
  obtain rfl := Except.ok.inj (hi.symm.trans hi')
  obtain rfl := Except.ok.inj (hc.symm.trans hc')
  obtain rfl := Except.ok.inj (hd.symm.trans hd')
  obtain rfl := Except.ok.inj (hk.symm.trans hk')
  rfl

theorem georgianOutcomesOf_congr (h : p.Agree signal other) :
    p.georgianOutcomesOf now signal = p.georgianOutcomesOf now other := by
  unfold georgianOutcomesOf
  cases ht : p.proofType with
  | georgianPassport =>
    rw [georgianOutcomes, georgianOutcomes, h .currentDate ht, h .personalNumberHash ht]
  | globalPassport | pollParticipation => rfl

theorem birthDateFailures_congr (h : p.Agree signal other) :
    p.birthDateFailures now signal = p.birthDateFailures now other := by
  unfold birthDateFailures
  cases hu : p.age.isUnset with
  | true => rfl
  | false => rw [h .birthDate hu, h .birthDateUpperBound hu]

theorem expirationFailures_congr (h : p.Agree signal other) :
    p.expirationFailures now signal = p.expirationFailures now other := by
  unfold expirationFailures
  cases hu : p.skipsExpiration with
  | true => rfl
  | false => rw [h .expirationDate hu, h .expirationDateLowerBound hu]

theorem identityFailures_congr (h : p.Agree signal other) :
    p.identityFailures signal = p.identityFailures other := by
  have hcounter : p.counterOutcome (signal .identityCounterUpperBound) =
      p.counterOutcome (other .identityCounterUpperBound) := by
    unfold counterOutcome
    cases hu : p.maxIdentities.isUnset with
    | true => rfl
    | false => rw [h .identityCounterUpperBound hu]
  have htimestamp : p.timestampOutcome (signal .timestampUpperBound) =
      p.timestampOutcome (other .timestampUpperBound) := by
    unfold timestampOutcome
    cases hc : p.createdBy with
    | none => rfl
    | some limit =>
      have hset : p.createdBy ≠ none := by simp [hc]
      rw [h .timestampUpperBound hset]
  rw [identityFailures, identityFailures, hcounter, htimestamp]

theorem passportFailures_congr (h : p.Agree signal other) {found told : Failures RuleError}
    (hf : p.passportFailures now signal = .ok found) (ht : p.passportFailures now other = .ok told) :
    found = told := by
  unfold passportFailures at hf ht
  rw [georgianOutcomesOf_congr h, birthDateFailures_congr h, expirationFailures_congr h,
    identityFailures_congr h] at hf
  obtain ⟨outcomes, ho, hf⟩ := bind_eq_ok.mp hf
  obtain ⟨outcomes', ho', ht⟩ := bind_eq_ok.mp ht
  obtain rfl := passportOutcomes_congr h ho ho'
  exact Except.ok.inj (hf.symm.trans ht)

theorem pollFailures_congr (h : p.Agree signal other) :
    p.pollFailures signal = p.pollFailures other := by
  unfold pollFailures equalOutcome
  rw [checkIfSet_congr (h .participationEventId), checkIfSet_congr (h .eventId)]

theorem ruleFailures_agree (h : p.Agree signal other) {found told : Failures RuleError}
    (hf : p.ruleFailures now signal = .ok found) (ht : p.ruleFailures now other = .ok told) :
    found = told := by
  unfold ruleFailures at hf ht
  split at hf
  · rename_i hp
    rw [if_pos hp] at ht
    exact passportFailures_congr h hf ht
  · rename_i hp
    rw [if_neg hp, ← pollFailures_congr h] at ht
    exact Except.ok.inj (hf.symm.trans ht)

theorem signalFailures_agree (h : p.Agree signal other) {wrong : Option InvalidRoot}
    {found told : Failures FieldError} (hf : p.signalFailures now wrong signal = .ok found)
    (ht : p.signalFailures now wrong other = .ok told) : found = told := by
  unfold signalFailures at hf ht
  obtain ⟨failures, hff, hf⟩ := bind_eq_ok.mp hf
  obtain ⟨failures', htf, ht⟩ := bind_eq_ok.mp ht
  obtain rfl := ruleFailures_agree h hff htf
  exact Except.ok.inj (hf.symm.trans ht)

variable {proof changed : Proof} {answer : Except (Raised RootError) Unit}

theorem judgeSignals_agree
    (h : p.Agree (proof.signal p.proofType) (changed.signal p.proofType))
    (hf : ¬ MeetsFault (p.judgeSignals now proof answer))
    (ht : ¬ MeetsFault (p.judgeSignals now changed answer)) :
    p.judgeSignals now proof answer = p.judgeSignals now changed answer := by
  cases hv : rootVerdict answer with
  | error e =>
    unfold judgeSignals
    rw [hv]
    rfl
  | ok wrong =>
    rw [judgeSignals_of_verdict hv] at hf ht ⊢
    rw [judgeSignals_of_verdict hv]
    cases hs : p.signalFailures now wrong (proof.signal p.proofType) with
    | error f =>
      rw [hs] at hf
      exact absurd ⟨f, rfl⟩ hf
    | ok found =>
      cases hc : p.signalFailures now wrong (changed.signal p.proofType) with
      | error f =>
        rw [hc] at ht
        exact absurd ⟨f, rfl⟩ ht
      | ok told => rw [signalFailures_agree h hs hc]

theorem structuralFailures_congr {t : ProofType} (hpoints : proof.points = changed.points)
    (hlength : proof.signals.length = changed.signals.length)
    (hnullifier : proof.signal t .nullifier = changed.signal t .nullifier) :
    proof.structuralFailures t = changed.structuralFailures t := by
  have hempty : proof.signals.isEmpty = changed.signals.isEmpty := by
    rw [Bool.eq_iff_iff, List.isEmpty_iff_length_eq_zero, List.isEmpty_iff_length_eq_zero, hlength]
  have hp : proof.pointsOutcome = changed.pointsOutcome := by
    rw [Proof.pointsOutcome, Proof.pointsOutcome, Proof.hasPoints, Proof.hasPoints, hpoints]
  have hl : proof.lengthOutcome t = changed.lengthOutcome t := by
    rw [Proof.lengthOutcome, Proof.lengthOutcome, hempty, hlength]
  have hn : proof.nullifierOutcome t = changed.nullifierOutcome t := by
    rw [Proof.nullifierOutcome, Proof.nullifierOutcome, hnullifier]
  rw [Proof.structuralFailures, Proof.structuralFailures, hp, hl, hn]

theorem askedRoot_congr
    (h : proof.signal p.proofType p.rootQuestion.2 = changed.signal p.proofType p.rootQuestion.2) :
    p.askedRoot proof = p.askedRoot changed := by
  rw [askedRoot_eq, askedRoot_eq, h]

variable {σ : Type} {b : Behaviour σ} {s : σ}

theorem not_meetsFault_judgeSignals (hs : proof.structuralFailures p.proofType = [])
    (h : ¬ MeetsFault (p.run b now proof s).result) :
    ¬ MeetsFault (p.judgeSignals now proof (p.rootAnswer b proof s).1) := by
  rintro ⟨f, hf⟩
  exact h ⟨f, congrArg Run.result (run_of_judged_error hs hf)⟩

theorem run_agree (hpoints : proof.points = changed.points)
    (hlength : proof.signals.length = changed.signals.length)
    (hsignals : ∀ signal, signal = .nullifier ∨ signal = p.rootQuestion.2 ∨ p.Checks signal →
      proof.signal p.proofType signal = changed.signal p.proofType signal)
    (hfault : ¬ MeetsFault (p.run b now proof s).result)
    (hfault' : ¬ MeetsFault (p.run b now changed s).result) :
    ((p.run b now proof s).result = (p.run b now changed s).result ∧
      (p.run b now proof s).calls = (p.run b now changed s).calls ∧
        (p.run b now proof s).state = (p.run b now changed s).state ∧
          .proof proof ∉ (p.run b now proof s).calls ∧
            .proof changed ∉ (p.run b now changed s).calls) ∨
      (.proof proof ∈ (p.run b now proof s).calls ∧
        .proof changed ∈ (p.run b now changed s).calls) := by
  have hstructure : proof.structuralFailures p.proofType = changed.structuralFailures p.proofType :=
    structuralFailures_congr hpoints hlength (hsignals _ (.inl rfl))
  have hasked : p.askedRoot proof = p.askedRoot changed :=
    askedRoot_congr (hsignals _ (.inr (.inl rfl)))
  have hagree : p.Agree (proof.signal p.proofType) (changed.signal p.proofType) :=
    fun signal hs => hsignals signal (.inr (.inr hs))
  have hanswer : p.rootAnswer b proof s = p.rootAnswer b changed s := by
    rw [rootAnswer, rootAnswer, hasked]
  have hcall : p.rootCall proof = p.rootCall changed := by
    rw [rootCall, rootCall, hasked]
  by_cases hs : proof.structuralFailures p.proofType = []
  · have hs' : changed.structuralFailures p.proofType = [] := hstructure ▸ hs
    have hjudge := judgeSignals_agree hagree (not_meetsFault_judgeSignals hs hfault)
      (hanswer ▸ not_meetsFault_judgeSignals hs' hfault')
    cases hj : p.judgeSignals now proof (p.rootAnswer b proof s).1 with
    | error e =>
      rw [run_of_judged_error hs hj, run_of_judged_error hs' (hanswer ▸ hjudge ▸ hj), hanswer, hcall]
      exact .inl ⟨rfl, rfl, rfl, by simp [rootCall], by simp [rootCall]⟩
    | ok u =>
      rw [run_of_judged_ok hs hj, run_of_judged_ok hs' (hanswer ▸ hjudge ▸ hj)]
      exact .inr ⟨by simp, by simp⟩
  · rw [run_of_structural hs, run_of_structural (hstructure ▸ hs), hstructure]
    exact .inl ⟨rfl, rfl, rfl, List.not_mem_nil, List.not_mem_nil⟩

end Policy

/-- Two proofs that agree where the policy looks fare alike up to the check of the proof itself:
either both are refused for the same reason after the same calls, or both get to that check. -/
theorem Verifier.run_noninterference {σ : Type} (b : Behaviour σ) (now : Moment) (v : Verifier)
    (settings : List Setting) {p : Policy} (hp : Policy.merge false v.policy settings = p)
    (proof changed : Proof) (s : σ) (hpoints : proof.points = changed.points)
    (hlength : proof.signals.length = changed.signals.length)
    (hsignals : ∀ signal, signal = .nullifier ∨ signal = p.rootQuestion.2 ∨ p.Checks signal →
      proof.signal p.proofType signal = changed.signal p.proofType signal)
    (hfault : ¬ MeetsFault (v.run b now settings proof s).result)
    (hfault' : ¬ MeetsFault (v.run b now settings changed s).result) :
    let run := v.run b now settings proof s
    let run' := v.run b now settings changed s
    (run.result = run'.result ∧ run.calls = run'.calls ∧ run.state = run'.state ∧
      .proof proof ∉ run.calls ∧ .proof changed ∉ run'.calls) ∨
    (.proof proof ∈ run.calls ∧ .proof changed ∈ run'.calls) := by
  subst hp
  exact Policy.run_agree hpoints hlength hsignals hfault hfault'

def Verifier.ofEvent : Verifier := ofPassports [.eventId (.text "7"), .skipExpiration]

def Proof.ofGuest (birthDate unnamed : String) : Proof :=
  { Proof.ofPassport "0" with
    signals := ((Proof.ofPassport "0").signals.set 1 birthDate).set 3 unnamed }

theorem Verifier.run_ofEvent (proof : Proof) (hs : proof.structuralFailures .globalPassport = [])
    (hf : ofEvent.policy.signalFailures passportDate none (proof.signal ofEvent.policy.proofType) =
      .ok [("pub_signals/event_id", .rule .notAccepted)]) :
    (ofEvent.run Behaviour.accepting passportDate [] proof ()).result =
      .error (.refused (.signals [("pub_signals/event_id", .rule .notAccepted)])) := by
  have hj : ofEvent.policy.judgeSignals passportDate proof (.ok ()) =
      .error (.refused (.signals [("pub_signals/event_id", .rule .notAccepted)])) := by
    rw [Policy.judgeSignals_of_verdict rfl, hf]
    rfl
  exact congrArg Run.result (Policy.run_of_judged_error (p := ofEvent.policy) hs hj)

theorem Verifier.unasked_birthDate :
    (ofEvent.run Behaviour.accepting passportDate [] (.ofGuest "x" "y") ()).result =
        .error (.refused (.signals [("pub_signals/event_id", .rule .notAccepted)])) ∧
      (ofEvent.run Behaviour.accepting passportDate [] (.ofGuest "0" "0") ()).result =
        (ofEvent.run Behaviour.accepting passportDate [] (.ofGuest "x" "y") ()).result := by
  have hproof := run_ofEvent (.ofGuest "0" "0") rfl rfl
  have hchanged := run_ofEvent (.ofGuest "x" "y") rfl rfl
  have hsignals : ∀ signal, signal = .nullifier ∨ signal = ofEvent.policy.rootQuestion.2 ∨
      ofEvent.policy.Checks signal → (Proof.ofGuest "0" "0").signal ofEvent.policy.proofType signal =
        (Proof.ofGuest "x" "y").signal ofEvent.policy.proofType signal := by
    rintro signal (rfl | rfl | h)
    · rfl
    · rfl
    · cases signal <;> first | rfl | exact nomatch h
  have hsame := run_noninterference (p := ofEvent.policy) Behaviour.accepting passportDate ofEvent []
    rfl (.ofGuest "0" "0") (.ofGuest "x" "y") () rfl rfl hsignals
    (hproof ▸ not_meetsFault_refused) (hchanged ▸ not_meetsFault_refused)
  refine ⟨hchanged, ?_⟩
  rcases hsame with ⟨h, -⟩ | ⟨-, -⟩
  · exact h
  · exact hproof.trans hchanged.symm

end IdentityProof
