import IdentityProof.Proofs.Groth16.Infinity
import IdentityProof.Proofs.Policy.Made
import IdentityProof.Proofs.Root.Confirm
import IdentityProof.Proofs.Verification.Values
import IdentityProof.Proofs.Verification.Window

/-! Signals without failures. Each check that had something to check has passed, and so what it asks
for holds of the integers. -/

namespace IdentityProof

theorem Json.eq_of_not_differs {option : Json} {value : String} (hset : option.isUnset = false)
    (h : ¬ option.Differs value) : option = .text value :=
  Classical.byContradiction fun hne => h ⟨hset, hne⟩

namespace Policy

variable {p : Policy} {now : Moment} {signal : Signal → String} {value : Signal → Option Int}

theorem eventDataOutcome_accepts {text : String} {rule : EventData} {outcome : Outcome RuleError}
    (h : p.eventDataOutcome text = .ok outcome) (hf : ∀ e, outcome ≠ .failed e)
    (hrule : p.eventData = some rule) : rule.check text = .ok () := by
  unfold eventDataOutcome at h
  rw [hrule] at h
  obtain rfl := Rule.pass_of_not_failed h hf
  exact Rule.checkAll_pass h (.eventData rule) (by simp)

theorem eventData_holds (hr : Reads signal value) (hgiven : EventData.IsGiven p.eventData)
    {outcome : Outcome RuleError} (h : p.eventDataOutcome (signal .eventData) = .ok outcome)
    (hf : ∀ e, outcome ≠ .failed e) {expected : Bytes}
    (hrule : p.eventData = some (.bytes expected)) :
    value .eventData = some (Bytes.toNat expected : Int) := by
  have hne : expected ≠ [] := by
    rw [hrule] at hgiven
    exact hgiven
  have hcheck := eventDataOutcome_accepts h hf hrule
  obtain ⟨n, hn, rfl⟩ := Packing.unpack_eq_ok (EventData.bytes_check_iff.mp hcheck) hne
  exact hr.decimal hn

theorem age_holds (hr : Reads signal value) (h : p.birthDateFailures now signal = .ok [])
    (hset : p.age.isUnset = false) : ∃ years cutoff,
      p.age.toInteger = .ok years ∧ now.yearsAgo years = .ok cutoff ∧
        (PackedDate.Shows (value .birthDate) (Moment.midnight · ≤ cutoff) ∨
          PackedDate.Shows (value .birthDateUpperBound) (· = cutoff.date)) := by
  unfold birthDateFailures at h
  simp only [hset, Bool.false_eq_true, if_false, bind_eq_ok, pure_eq_ok] at h
  obtain ⟨years, hy, cutoff, hc, shown, hs, bounded, hb, hnil⟩ := h
  refine ⟨years, cutoff, hy, hc, ?_⟩
  have hpaths : Signal.birthDate.path ≠ Signal.birthDateUpperBound.path := fun he =>
    nomatch Signal.path_injective he
  rcases (Failures.ofEither_eq_nil hpaths).mp hnil with rfl | rfl | ⟨rfl, -⟩
  · have hcheck := Rule.checkAll_pass hs (.date .before cutoff) (by simp)
    exact .inl ((hr.date hcheck).imp fun _ hgood => Nat.not_lt.mp hgood)
  · have hcheck := Rule.checkAll_pass hb (.date .equal cutoff) (by simp)
    exact .inr ((hr.date hcheck).imp fun _ hgood => Classical.not_not.mp hgood)
  · exact absurd hs Rule.checkAll_ne_skipped

theorem dateOutcome_accepts (hr : Reads signal value) {s : Signal} {mode : DateMode}
    {point : Moment} {outcome : Outcome RuleError} (h : dateOutcome mode point (signal s) = .ok outcome)
    (hf : ∀ e, outcome ≠ .failed e) :
    value s = some 0 ∨ value s = some (PackedDate.unsetValue : Int) ∨
      PackedDate.Shows (value s) fun date => ¬ mode.Refuses point date := by
  cases hu : PackedDate.isUnset (signal s) with
  | true =>
    rcases hr.unset hu with hv | hv
    · exact .inl hv
    · exact .inr (.inl hv)
  | false =>
    obtain ⟨date, hd, hgood⟩ := dateOutcome_shown h hf hu
    exact .inr (.inr (hr.shows hd hgood))

theorem expiration_holds (hr : Reads signal value) (h : p.expirationFailures now signal = .ok [])
    (hset : p.skipsExpiration = false) :
    (value .expirationDateLowerBound = some 0 ∨
      value .expirationDateLowerBound = some (PackedDate.unsetValue : Int) ∨
        PackedDate.Shows (value .expirationDateLowerBound) (· = now.date)) ∧
    (value .expirationDate = some 0 ∨ value .expirationDate = some (PackedDate.unsetValue : Int) ∨
      PackedDate.Shows (value .expirationDate) (now ≤ Moment.midnight ·)) := by
  obtain ⟨bound, expiration, hb, hbound, he, hexpiration⟩ := expirationFailures_eq_nil h hset
  constructor
  · exact (dateOutcome_accepts hr hb hbound).imp_right
      (Or.imp_right (·.imp fun _ hgood => Classical.not_not.mp hgood))
  · exact (dateOutcome_accepts hr he hexpiration).imp_right
      (Or.imp_right (·.imp fun _ hgood => Nat.not_lt.mp hgood))

theorem currentDate_holds (hr : Reads signal value) {outcomes : List (String × Outcome RuleError)}
    (h : p.georgianOutcomesOf now signal = .ok outcomes) (hnil : Failures.ofOutcomes outcomes = [])
    (ht : p.proofType = .georgianPassport) : ∃ yesterday tomorrow,
      now.startOfDay.previousDay = .ok yesterday ∧ now.startOfDay.nextDay = .ok tomorrow ∧
        PackedDate.Shows (value .currentDate)
          fun date => yesterday ≤ Moment.midnight date ∧ Moment.midnight date ≤ tomorrow := by
  obtain ⟨yesterday, tomorrow, date, hy, hm, hd, hwithin⟩ :=
    passesCurrentDate_iff.mp (passesCurrentDate_of_nil h hnil ht)
  exact ⟨yesterday, tomorrow, hy, hm, hr.shows hd hwithin⟩

theorem counterOutcome_accepts {text : String} (h : p.counterOutcome text = .ok .pass) :
    p.maxIdentities.isUnset = false ∧ ∃ count : Nat, parseDecimal text = .ok (some count) ∧
      (Json.int count).greater p.maxIdentities = .ok false := by
  have hset : p.maxIdentities.isUnset = false :=
    Bool.eq_false_iff.mpr fun hu => nomatch (counterOutcome_cases h).1.mpr hu
  unfold counterOutcome at h
  simp only [hset, Bool.false_eq_true, if_false, bind_eq_ok] at h
  obtain ⟨count?, hn, h⟩ := h
  cases count? with
  | none => exact nomatch h
  | some count =>
    exact ⟨hset, count, hn, atMost_check_eq_ok (Rule.checkAll_pass h _ List.mem_cons_self)⟩

theorem timestampOutcome_accepts {text : String} (h : p.timestampOutcome text = .ok .pass) :
    ∃ limit, p.createdBy = some limit ∧ ∃ seconds : Nat, parseDecimal text = .ok (some seconds) ∧
      ∃ moment, Moment.ofUnixSeconds seconds = .ok moment ∧ moment ≤ limit := by
  obtain ⟨hskip, hfail⟩ := timestampOutcome_cases h
  have hpass : ¬ p.FailsTimestamp text := fun hf => by simpa using hfail.mpr hf
  unfold timestampOutcome at h
  cases hl : p.createdBy with
  | none => exact nomatch hskip.mpr hl
  | some limit =>
    rw [hl] at h
    obtain ⟨seconds?, hn, -⟩ := bind_eq_ok.mp h
    refine ⟨limit, rfl, ?_⟩
    cases seconds? with
    | none => exact absurd ⟨limit, hl, .inl hn⟩ hpass
    | some seconds =>
      refine ⟨seconds, hn, Classical.byContradiction fun hno => ?_⟩
      have hlate : ∀ moment, Moment.ofUnixSeconds seconds = .ok moment → limit < moment :=
        fun moment hm => Nat.not_le.mp fun hle => hno ⟨moment, hm, hle⟩
      exact hpass ⟨limit, hl, .inr ⟨seconds, hn, hlate⟩⟩

theorem identities_hold (hr : Reads signal value) (h : p.identityFailures signal = .ok [])
    (hset : p.maxIdentities.isUnset = false ∨ p.createdBy ≠ none) :
    (p.maxIdentities.isUnset = false ∧ ∃ count : Nat,
      value .identityCounterUpperBound = some (count : Int) ∧
        (Json.int count).greater p.maxIdentities = .ok false) ∨
    ∃ limit, p.createdBy = some limit ∧ ∃ seconds : Nat,
      value .timestampUpperBound = some (seconds : Int) ∧
        ∃ moment, Moment.ofUnixSeconds seconds = .ok moment ∧ moment ≤ limit := by
  unfold identityFailures at h
  simp only [bind_eq_ok, pure_eq_ok] at h
  obtain ⟨counter, hc, timestamp, ht, hnil⟩ := h
  have hpaths : Signal.identityCounterUpperBound.path ≠ Signal.timestampUpperBound.path := fun he =>
    nomatch Signal.path_injective he
  rcases (Failures.ofEither_eq_nil hpaths).mp hnil with rfl | rfl | ⟨rfl, rfl⟩
  · obtain ⟨hmax, count, hn, hle⟩ := counterOutcome_accepts hc
    exact .inl ⟨hmax, count, hr.decimal hn, hle⟩
  · obtain ⟨limit, hl, seconds, hn, hmoment⟩ := timestampOutcome_accepts ht
    exact .inr ⟨limit, hl, seconds, hr.decimal hn, hmoment⟩
  · have hmax := (counterOutcome_cases hc).1.mp rfl
    have hlimit := (timestampOutcome_cases ht).1.mp rfl
    rcases hset with hset | hset
    · exact nomatch hmax.symm.trans hset
    · exact absurd hlimit hset

theorem passport_holds (hr : Reads signal value) (hgiven : EventData.IsGiven p.eventData)
    (h : p.passportFailures now signal = .ok []) : p.PassportHolds now value := by
  have hnone : ∀ s, ¬ p.FailsPassport now signal s := fun s hs =>
    nomatch ((passport_report h).mem s.path).mpr ⟨s, mem_passportSignals hs, rfl, hs⟩
  obtain ⟨outcomes, georgian, ho, hchecks, hg, hgeorgian, hb, he, hi⟩ := passportFailures_eq_nil h
  unfold passportOutcomes at ho
  simp only [bind_eq_ok, pure_eq_ok] at ho
  obtain ⟨selector, -, eventId, -, citizen, hcitizen, citizenship, -, eventData, hd, code, hcode,
    documentType, -, rfl⟩ := ho
  refine { citizenship := ?_, documentType := ?_, eventData := ?_, eventId := ?_, selector := ?_,
           age := age_holds hr hb, expirationBound := fun hset => (expiration_holds hr he hset).1,
           expiration := fun hset => (expiration_holds hr he hset).2,
           currentDate := currentDate_holds hr hg hgeorgian, identities := identities_hold hr hi }
  · intro hset
    have hin : citizen ≠ "" ∧ .text citizen ∈ p.citizenships := by
      simpa [FailsPassport, hcitizen, hset] using hnone .citizenship
    exact ⟨citizen, hin.2, hr.text hcitizen hin.1⟩
  · intro hset
    have heq : p.documentType = .text code := Json.eq_of_not_differs hset fun hdiffers =>
      hnone .documentType ⟨code, hcode, hdiffers⟩
    have hne : code ≠ "" := fun he => Json.ne_blank hset (he ▸ heq)
    exact ⟨code, heq, hr.text hcode hne⟩
  · intro expected hrule
    have hfails : ∀ e, eventData ≠ .failed e :=
      Failures.ofOutcomes_eq_nil.mp hchecks (Signal.eventData.path, eventData) (by simp)
    exact eventData_holds hr hgiven hd hfails hrule
  · exact fun hset => hr.option hset (Json.eq_of_not_differs hset (hnone .eventId))
  · exact fun hset => hr.option hset (Json.eq_of_not_differs hset (hnone .selector))

theorem poll_holds (hr : Reads signal value) (h : p.pollFailures signal = .ok []) :
    p.PollHolds value := by
  have hnone : ∀ s, ¬ p.FailsPoll signal s := fun s hs =>
    nomatch ((poll_report h).mem s.path).mpr ⟨s, mem_pollSignals hs, rfl, hs⟩
  exact {
    participationEventId := fun hset =>
      hr.option hset (Json.eq_of_not_differs hset (hnone .participationEventId))
    eventId := fun hset => hr.option hset (Json.eq_of_not_differs hset (hnone .eventId)) }

end Policy

theorem Groth16.reads {G1 G2 : Type} [PairingGroups G1 G2] {points : ProofPoints} {proof : Proof}
    {st : Statement G1 G2} (h : readStatement points proof.signals = .ok st) (t : ProofType) :
    Reads (proof.signal t) (st.value t) := fun _ hne => value_of_ne_empty h hne

def World.behaviour {G1 G2 : Type} [PairingGroups G1 G2] (key : VerifyingKey G1 G2) :
    Behaviour World where
  checkRoot source root w := w.check source (.text root)
  checkProof proof w := (Verifier.checkProof key proof, w)

/-- A source that is in use stands by the root with the value of a number. -/
def World.Confirms (w : World) (source : RootSource) (value : Option Int) : Prop :=
  ∀ name bound ledger, source = .remote name → w.verifiers.lookup name = some bound →
    w.ledgers.lookup bound.ledger = some ledger → ∃ (n : Nat) (root : Root),
      value = some (n : Int) ∧ Root.ofNat? n = some root ∧
        bound.verifier.Confirms ledger.view w.clock root

theorem World.confirms_of_check {w : World} {source : RootSource} {signal : Signal → String}
    {value : Signal → Option Int} {s : Signal} (hr : Reads signal value)
    (h : (w.check source (.text (signal s))).1 = .ok ()) : w.Confirms source (value s) := by
  rintro name bound ledger rfl hb hl
  rw [check_remote hb hl] at h
  obtain ⟨n, root, hn, hroot, hconfirms⟩ := RootVerifier.verify_eq_ok h
  exact ⟨n, root, hr.decimal hn, hroot, hconfirms⟩

theorem Verifier.run_eq_ok {G1 G2 : Type} [PairingGroups G1 G2] {key : VerifyingKey G1 G2}
    {v : Verifier} {called : List Setting} {p : Policy}
    (hp : Policy.merge false v.policy called = p) {now : Moment} {proof : Proof} {w : World} :
    (v.run (World.behaviour key) now called proof w).result = .ok () ↔
      proof.structuralFailures p.proofType = [] ∧
        (w.check (p.askedRoot proof).1 (.text (p.askedRoot proof).2)).1 = .ok () ∧
          p.ruleFailures now (proof.signal p.proofType) = .ok [] ∧
            Groth16.verify key proof = .ok () := by
  subst hp
  constructor
  · intro h
    have hmem := Policy.proof_mem_of_run_eq_ok h
    obtain ⟨hs, hroot, hrules⟩ := Policy.proof_mem_run_calls.mp hmem
    have hresult := (Policy.run_result_of_proof_mem hmem).symm.trans h
    exact ⟨hs, hroot, hrules, mapError_eq_ok.mp (mapError_eq_ok.mp hresult)⟩
  · rintro ⟨hs, hroot, hrules, hproof⟩
    have hmem := Policy.proof_mem_run_calls (b := World.behaviour key) (s := w).mpr
      ⟨hs, hroot, hrules⟩
    exact (Policy.run_result_of_proof_mem hmem).trans
      (mapError_eq_ok.mpr (mapError_eq_ok.mpr hproof))

/-- The policy holds of the numbers that the equation is decided on: an accepted proof cannot show
one value to the rules and another one to the equation. -/
theorem Verifier.accepted_values {G1 G2 : Type} [PairingGroups G1 G2] {files : Files}
    {source : Source} {stored called : List Setting} {v : Verifier}
    (hv : make files source stored = .ok v) (hmade : ∀ s ∈ stored ++ called, s.Made)
    (key : VerifyingKey G1 G2) (now : Moment) (proof : Proof) (w : World)
    (h : (v.run (World.behaviour key) now called proof w).result = .ok ()) :
    let p := Policy.merge false v.policy called
    ∃ points st, proof.points = some points ∧
      Groth16.readStatement points proof.signals = .ok (st : Groth16.Statement G1 G2) ∧
        Groth16.decideStatement key st = .ok () ∧
          (p.proofType.isPassport = true → p.PassportHolds now (st.value p.proofType) ∧
            w.Confirms p.passportRoot (st.value p.proofType .idStateRoot)) ∧
          (p.proofType = .pollParticipation → p.PollHolds (st.value p.proofType) ∧
            w.Confirms p.pollRoot (st.value p.proofType .nullifiersTreeRoot)) := by
  intro p
  obtain ⟨-, hroot, hrules, hproof⟩ := (run_eq_ok rfl).mp h
  obtain ⟨points, st, hp, hst, hd⟩ := Groth16.verify_eq_ok hproof
  have hr := Groth16.reads hst p.proofType
  have hgiven : EventData.IsGiven p.eventData := by
    refine Policy.isGiven_merge (fun s hs => hmade s (List.mem_append_right _ hs)) (.inr ?_)
    rw [make_policy hv]
    exact Policy.isGiven_merge (fun s hs => hmade s (List.mem_append_left _ hs)) (.inl rfl)
  refine ⟨points, st, hp, hst, hd, ?_, ?_⟩
  · intro ht
    have hasked : p.askedRoot proof = (p.passportRoot, proof.signal p.proofType .idStateRoot) := by
      rw [Policy.askedRoot_eq, Policy.rootQuestion, if_pos ht]
    rw [Policy.ruleFailures, if_pos ht] at hrules
    rw [hasked] at hroot
    exact ⟨Policy.passport_holds hr hgiven hrules, World.confirms_of_check hr hroot⟩
  · intro ht
    have hnot : ¬ p.proofType.isPassport = true := by simp [ht, ProofType.isPassport]
    have hasked : p.askedRoot proof =
        (p.pollRoot, proof.signal p.proofType .nullifiersTreeRoot) := by
      rw [Policy.askedRoot_eq, Policy.rootQuestion, if_neg hnot]
    rw [Policy.ruleFailures, if_neg hnot] at hrules
    rw [hasked] at hroot
    exact ⟨Policy.poll_holds hr hrules, World.confirms_of_check hr hroot⟩

def World.withRegistry (root : Nat) : World where
  clock := .int 0
  ledgers := [("chain", {
    currentRoot := .json .null
    validRoots := [.bytes (Bytes.ofNat 32 root)]
    events := []
    error := none
    scanError := none
    isHanging := false
    fixedAnswer := none
    counts := .zero })]
  verifiers := [("registry", { ledger := "chain", verifier := .start .contract none none 4 })]

def Setting.ofCitizens : List Setting := [
  .citizenships [.text "UKR"], .eventId (.text "7"), ofEventData [1], .maxIdentities (.int 3),
  .passportRoot (.remote "registry")]

def Verifier.ofCitizens : Verifier where
  policy := Policy.merge true .default Setting.ofCitizens
  key := [1]

def Proof.ofCitizen : Proof where
  points := some Groth16.infinitePoints
  signals := [
    "5", "0", "0", "0", "0", "0", "5589842", "0", "0", "7", "1", "9", "0", "0", "0", "0", "3", "0",
    "0", "0", "0", "0"]

theorem Verifier.accepted_citizen :
    let key := Groth16.infiniteKey 22
    let now := Moment.midnight ⟨2024, 5, 17, by decide⟩
    make [] (.bytes [1]) Setting.ofCitizens = .ok ofCitizens ∧
      (ofCitizens.run (World.behaviour key) now [] .ofCitizen (.withRegistry 9)).result = .ok () ∧
        ∃ st, Groth16.readStatement Groth16.infinitePoints Proof.ofCitizen.signals = .ok st ∧
          Groth16.decideStatement key st = .ok () ∧
            ofCitizens.policy.PassportHolds now (st.value .globalPassport) ∧
              (World.withRegistry 9).Confirms (.remote "registry")
                (st.value .globalPassport .idStateRoot) := by
  intro key now
  have hmake : make [] (.bytes [1]) Setting.ofCitizens = .ok ofCitizens := rfl
  have hmade : ∀ s ∈ Setting.ofCitizens ++ [], s.Made := by
    simp only [Setting.ofCitizens, List.append_nil, List.forall_mem_cons]
    exact ⟨.citizenships _, .eventId _, .eventData _, .maxIdentities _, .passportRoot _,
      fun _ h => nomatch h⟩
  have hread : Proof.ofCitizen.signals.mapM readInteger =
      .ok [5, 0, 0, 0, 0, 0, 5589842, 0, 0, 7, 1, 9, 0, 0, 0, 0, 3, 0, 0, 0, 0, 0] := rfl
  have hproof : Groth16.verify key .ofCitizen = .ok () :=
    Groth16.verify_infiniteKey rfl hread rfl rfl
  have hrun : (ofCitizens.run (World.behaviour key) now [] .ofCitizen (.withRegistry 9)).result =
      .ok () := (run_eq_ok rfl).mpr ⟨rfl, rfl, rfl, hproof⟩
  obtain ⟨points, st, hp, hst, hd, hpassport, -⟩ :=
    accepted_values hmake hmade key now .ofCitizen (.withRegistry 9) hrun
  obtain rfl : Groth16.infinitePoints = points := Option.some.inj hp
  exact ⟨hmake, hrun, st, hst, hd, hpassport rfl⟩

end IdentityProof
