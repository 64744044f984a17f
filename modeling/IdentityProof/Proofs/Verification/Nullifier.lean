import IdentityProof.Proofs.Verification.Accepted

/-! Spellings of the nullifier. No rule looks at it, and the equation looks at its integer alone, so
that an accepted proof stays accepted under every other text of that integer. -/

namespace IdentityProof

def Proof.withSignal (proof : Proof) (t : ProofType) (s : Signal) (text : String) : Proof :=
  match t.index? s with
  | some i => { proof with signals := proof.signals.set i text }
  | none => proof

namespace Proof

variable {proof : Proof} {t : ProofType} {s other : Signal} {text : String}

theorem points_withSignal : (proof.withSignal t s text).points = proof.points := by
  unfold withSignal
  split <;> rfl

theorem length_withSignal :
    (proof.withSignal t s text).signals.length = proof.signals.length := by
  unfold withSignal
  split
  · exact List.length_set
  · rfl

theorem signal_withSignal_of_ne (h : other ≠ s) :
    (proof.withSignal t s text).signal t other = proof.signal t other := by
  unfold withSignal
  split
  · rename_i i hi
    unfold signal ProofType.signal
    split
    · rename_i j hj
      have hij : i ≠ j := fun he => h (ProofType.index?_injective hj (he ▸ hi))
      simp [List.getElem?_set_ne hij]
    · rfl
  · rfl

theorem signal_withSignal (h : proof.signal t s ≠ "") :
    (proof.withSignal t s text).signal t s = text := by
  obtain ⟨i, hi, hs⟩ := ProofType.index?_of_signal_ne_empty h
  obtain ⟨hlt, -⟩ := List.getElem?_eq_some_iff.mp hs
  simp [withSignal, signal, ProofType.signal, hi, hlt]

theorem mapM_withSignal (h : proof.signal t s ≠ "")
    (hsame : readInteger text = readInteger (proof.signal t s)) :
    (proof.withSignal t s text).signals.mapM readInteger = proof.signals.mapM readInteger := by
  obtain ⟨i, hi, hs⟩ := ProofType.index?_of_signal_ne_empty h
  simp only [withSignal, hi]
  exact mapM_set hs hsame

theorem readInteger_signal {proof other : Proof} {ns : List Int}
    (h : proof.signals.mapM readInteger = .ok ns) (ho : other.signals.mapM readInteger = .ok ns)
    (hne : proof.signal t s ≠ "") (hone : other.signal t s ≠ "") :
    ∃ n ∈ ns, readInteger (proof.signal t s) = .ok n ∧ readInteger (other.signal t s) = .ok n := by
  obtain ⟨i, hi, hs⟩ := ProofType.index?_of_signal_ne_empty hne
  obtain ⟨j, hj, ht⟩ := ProofType.index?_of_signal_ne_empty hone
  obtain rfl : i = j := Option.some.inj (hi.symm.trans hj)
  obtain ⟨n, hn, hv⟩ := mapM_getElem? h hs
  obtain ⟨m, hm, hw⟩ := mapM_getElem? ho ht
  obtain rfl : n = m := Option.some.inj (hv.symm.trans hw)
  exact ⟨n, List.mem_of_getElem? hv, hn, hm⟩

theorem structuralFailures_withSignal (h : proof.structuralFailures t = []) (hne : text ≠ "") :
    (proof.withSignal t .nullifier text).structuralFailures t = [] := by
  have hsound := mt structuralFailures_ne_nil.mpr (not_not_intro h)
  have hgiven : proof.signal t .nullifier ≠ "" := fun hb => hsound (.inr (.inr (.inr hb)))
  refine Classical.byContradiction fun hnew => hsound ?_
  rcases structuralFailures_ne_nil.mp hnew with hl | he | hl | hb
  · unfold LacksPoints at hl
    rw [points_withSignal] at hl
    exact .inl hl
  · rw [← List.length_eq_zero_iff, length_withSignal, List.length_eq_zero_iff] at he
    exact .inr (.inl he)
  · rw [length_withSignal] at hl
    exact .inr (.inr (.inl hl))
  · rw [signal_withSignal hgiven] at hb
    exact absurd hb hne

end Proof

namespace Policy

variable {p : Policy} {now : Moment} {signal changed : Signal → String}

theorem askedRoot_withSignal {proof : Proof} {text : String} :
    p.askedRoot (proof.withSignal p.proofType .nullifier text) = p.askedRoot proof := by
  have hne : p.rootQuestion.2 ≠ .nullifier := by
    unfold rootQuestion
    split <;> simp
  rw [askedRoot_eq, askedRoot_eq, Proof.signal_withSignal_of_ne hne]

theorem ruleFailures_congr (h : ∀ s, s ≠ .nullifier → changed s = signal s) :
    p.ruleFailures now changed = p.ruleFailures now signal := by
  have hgeorgian : georgianOutcomes now changed = georgianOutcomes now signal := by
    simp (disch := decide) only [georgianOutcomes, h]
  have hgeorgianOf : p.georgianOutcomesOf now changed = p.georgianOutcomesOf now signal := by
    unfold georgianOutcomesOf
    rw [hgeorgian]
  have hpassport : p.passportFailures now changed = p.passportFailures now signal := by
    simp (disch := decide) only [passportFailures, passportOutcomes, hgeorgianOf, birthDateFailures,
      expirationFailures, identityFailures, h]
  have hpoll : p.pollFailures changed = p.pollFailures signal := by
    simp (disch := decide) only [pollFailures, h]
  rw [ruleFailures, ruleFailures, hpassport, hpoll]

end Policy

variable {G1 G2 : Type} [PairingGroups G1 G2] {key : VerifyingKey G1 G2} {v : Verifier}
  {called : List Setting} {now : Moment} {proof : Proof} {w : World}

theorem readInteger_ne_empty {s : String} {n : Int} (h : readInteger s = .ok n) : s ≠ "" := by
  rintro rfl
  exact nomatch h

namespace Verifier

theorem nullifier_ne_empty {p : Policy} (hp : Policy.merge false v.policy called = p)
    (h : (v.run (World.behaviour key) now called proof w).result = .ok ()) :
    proof.signal p.proofType .nullifier ≠ "" := by
  obtain ⟨hs, -⟩ := (run_eq_ok hp).mp h
  exact fun hb => Proof.structuralFailures_ne_nil.mpr (.inr (.inr (.inr hb))) hs

theorem run_withSignal {p : Policy} (hp : Policy.merge false v.policy called = p) {text : String}
    (h : (v.run (World.behaviour key) now called proof w).result = .ok ()) {n : Int}
    (hn : readInteger (proof.signal p.proofType .nullifier) = .ok n)
    (htext : readInteger text = .ok n) :
    (v.run (World.behaviour key) now called
      (proof.withSignal p.proofType .nullifier text) w).result = .ok () := by
  obtain ⟨hs, hroot, hrules, hproof⟩ := (run_eq_ok hp).mp h
  have hgiven := nullifier_ne_empty hp h
  refine (run_eq_ok hp).mpr ⟨Proof.structuralFailures_withSignal hs (readInteger_ne_empty htext),
    ?_, ?_, ?_⟩
  · rw [Policy.askedRoot_withSignal]
    exact hroot
  · rw [Policy.ruleFailures_congr fun s hs => Proof.signal_withSignal_of_ne hs]
    exact hrules
  · have hsame := Proof.mapM_withSignal hgiven (htext.trans hn.symm)
    rw [Groth16.verify_congr Proof.points_withSignal hsame]
    exact hproof

theorem respelling_accepted_iff {p : Policy} (hp : Policy.merge false v.policy called = p)
    {text : String} (h : (v.run (World.behaviour key) now called proof w).result = .ok ()) {n : Int}
    (hn : readInteger (proof.signal p.proofType .nullifier) = .ok n) :
    let respelled := proof.withSignal p.proofType .nullifier text
    (v.run (World.behaviour key) now called respelled w).result = .ok () ∧
      respelled.signals.mapM readInteger = proof.signals.mapM readInteger ↔
        readInteger text = .ok n := by
  intro respelled
  have hgiven := nullifier_ne_empty hp h
  constructor
  · rintro ⟨hrun, hsame⟩
    obtain ⟨-, -, -, hproof⟩ := (run_eq_ok hp).mp h
    obtain ⟨ns, hread, -⟩ := Groth16.verify_signals hproof
    obtain ⟨m, -, hm, htext⟩ := Proof.readInteger_signal hread (hsame.trans hread) hgiven
      (nullifier_ne_empty hp hrun)
    rw [Proof.signal_withSignal hgiven] at htext
    obtain rfl : m = n := Except.ok.inj (hm.symm.trans hn)
    exact htext
  · intro htext
    exact ⟨run_withSignal hp h hn htext, Proof.mapM_withSignal hgiven (htext.trans hn.symm)⟩

/-- Accepted proofs with the same integers have nullifiers of one scalar. It has one canonical text,
but every other text of it is accepted as well. -/
theorem accepted_nullifiers {later : Moment} {other : Proof} {w' : World}
    (h : (v.run (World.behaviour key) now called proof w).result = .ok ())
    (hother : (v.run (World.behaviour key) later called other w').result = .ok ())
    (hsame : proof.signals.mapM readInteger = other.signals.mapM readInteger) :
    let t := (Policy.merge false v.policy called).proofType
    ∃ n : Nat, n < PairingGroups.order G1 G2 ∧
      readInteger (proof.signal t .nullifier) = .ok (n : Int) ∧
        readInteger (other.signal t .nullifier) = .ok (n : Int) ∧
          (IsCanonicalDecimal (proof.signal t .nullifier) →
            IsCanonicalDecimal (other.signal t .nullifier) →
              proof.signal t .nullifier = other.signal t .nullifier) ∧
          ∀ text, (v.run (World.behaviour key) now called
              (proof.withSignal t .nullifier text) w).result = .ok () ∧
            (proof.withSignal t .nullifier text).signals.mapM readInteger =
              proof.signals.mapM readInteger ↔ readInteger text = .ok (n : Int) := by
  intro t
  obtain ⟨-, -, -, hproof⟩ := (run_eq_ok rfl).mp h
  obtain ⟨ns, hread, hscalar⟩ := Groth16.verify_signals hproof
  obtain ⟨m, hm, hn, ho⟩ := Proof.readInteger_signal hread (hsame.symm.trans hread)
    (nullifier_ne_empty rfl h) (nullifier_ne_empty rfl hother)
  obtain ⟨n, rfl⟩ := Int.eq_ofNat_of_zero_le (hscalar m hm).1
  refine ⟨n, Int.ofNat_lt.mp (hscalar _ hm).2, hn, ho, ?_, ?_⟩
  · exact fun hc hc' => eq_of_isCanonicalDecimal hc hc' hn ho
  · exact fun text => respelling_accepted_iff rfl h hn

end Verifier

deriving instance DecidableEq for VerifyingKey

def Groth16.pollKeyText : String :=
  "\x7b\"vk_alpha_1\":[0,0],\"vk_beta_2\":[[0,0],[0,0]],\"vk_gamma_2\":[[0,0],[0,0]]," ++
    "\"vk_delta_2\":[[0,0],[0,0]],\"IC\":[[0,0],[0,0],[0,0],[0,0],[0,0]]\x7d"

def Groth16.pollKey : Bytes :=
  pollKeyText.toList.map fun c => UInt8.ofNat c.toNat

def Setting.ofPolls : List Setting := [
  .proofType .pollParticipation, .participationEventId (.text "555"), .eventId (.text "7"),
  .pollRoot (.remote "registry")]

def Verifier.ofPolls : Verifier where
  policy := Policy.merge true .default Setting.ofPolls
  key := Groth16.pollKey

def Proof.ofVoter (nullifier : String) : Proof where
  points := some Groth16.infinitePoints
  signals := [nullifier, "9", "555", "7"]

namespace Verifier

theorem isDay_of_poll : IsDay 2024 5 17 := by decide

def pollDate : Moment := .midnight ⟨2024, 5, 17, isDay_of_poll⟩

theorem make_of_bytes {files : Files} {settings : List Setting} {bytes : Bytes}
    (hfile : (Policy.merge true .default settings).keyFile = "") (hgiven : bytes ≠ []) :
    make files (.bytes bytes) settings =
      .ok { policy := Policy.merge true .default settings, key := bytes } := by
  have hsome : (Source.bytes bytes).isGiven = true := by simpa [Source.isGiven] using hgiven
  simp only [make, readKey, hfile, hsome]
  rfl

theorem make_ofPolls : make [] (.bytes Groth16.pollKey) Setting.ofPolls = .ok ofPolls :=
  make_of_bytes rfl (by decide +kernel)

theorem loadKey_ofPolls : ofPolls.loadKey = .ok (Groth16.infiniteKey 4) := by
  have hload : (VerifyingKey.load (.bytes ofPolls.key)).toOption =
      some (Groth16.infiniteKey 4) := by decide +kernel
  exact mapError_eq_ok.mpr (toOption_eq_some.mp hload)

theorem vote_accepted {text : String}
    (hs : (Proof.ofVoter text).structuralFailures .pollParticipation = [])
    (hread : (Proof.ofVoter text).signals.mapM readInteger = .ok [5, 9, 555, 7]) :
    (ofPolls.run (World.behaviour (Groth16.infiniteKey 4)) pollDate [] (.ofVoter text)
      (.withRegistry 9)).result = .ok () := by
  have hproof : Groth16.verify (Groth16.infiniteKey 4) (.ofVoter text) = .ok () :=
    Groth16.verify_infiniteKey rfl hread rfl rfl
  have hasked : ofPolls.policy.askedRoot (.ofVoter text) = (.remote "registry", "9") := rfl
  have hroot : ((World.withRegistry 9).check (.remote "registry") (.text "9")).1 = .ok () := rfl
  have hrules : ofPolls.policy.ruleFailures pollDate
      ((Proof.ofVoter text).signal .pollParticipation) = .ok [] := rfl
  refine (run_eq_ok (p := ofPolls.policy) rfl).mpr ⟨hs, ?_, hrules, hproof⟩
  rw [hasked]
  exact hroot

/-- One proof is accepted twice, with a zero in front of its nullifier the second time. -/
theorem two_spellings_accepted :
    make [] (.bytes Groth16.pollKey) Setting.ofPolls = .ok ofPolls ∧
      ∃ key : VerifyingKey Bn254.G1 Bn254.G2, ofPolls.loadKey = .ok key ∧
        (ofPolls.run (World.behaviour key) pollDate [] (.ofVoter "5")
          (.withRegistry 9)).result = .ok () ∧
        (ofPolls.run (World.behaviour key) pollDate [] (.ofVoter "05")
          (.withRegistry 9)).result = .ok () ∧
        (Proof.ofVoter "5").points = (Proof.ofVoter "05").points ∧
        (Proof.ofVoter "5").signals.mapM readInteger = .ok [5, 9, 555, 7] ∧
        (Proof.ofVoter "05").signals.mapM readInteger = .ok [5, 9, 555, 7] ∧
        (Proof.ofVoter "5").signal .pollParticipation .nullifier ≠
          (Proof.ofVoter "05").signal .pollParticipation .nullifier := by
  refine ⟨make_ofPolls, Groth16.infiniteKey 4, loadKey_ofPolls, vote_accepted rfl rfl,
    vote_accepted rfl rfl, rfl, rfl, rfl, ?_⟩
  decide

theorem accepted_nullifiers_of_vote :
    let key := Groth16.infiniteKey 4
    (ofPolls.run (World.behaviour key) pollDate [] (.ofVoter "5") (.withRegistry 9)).result =
        .ok () ∧
      (ofPolls.run (World.behaviour key) pollDate [] (.ofVoter "05") (.withRegistry 9)).result =
        .ok () ∧
      (Proof.ofVoter "5").signals.mapM readInteger =
        (Proof.ofVoter "05").signals.mapM readInteger ∧
      ∃ n : Nat, n < Bn254.order ∧ readInteger "5" = .ok (n : Int) ∧
        readInteger "05" = .ok (n : Int) ∧
          ∀ text, (ofPolls.run (World.behaviour key) pollDate [] (.ofVoter text)
              (.withRegistry 9)).result = .ok () ∧
            (Proof.ofVoter text).signals.mapM readInteger =
              (Proof.ofVoter "5").signals.mapM readInteger ↔ readInteger text = .ok (n : Int) := by
  intro key
  have h : (ofPolls.run (World.behaviour key) pollDate [] (.ofVoter "5")
    (.withRegistry 9)).result = .ok () := vote_accepted rfl rfl
  have hother : (ofPolls.run (World.behaviour key) pollDate [] (.ofVoter "05")
    (.withRegistry 9)).result = .ok () := vote_accepted rfl rfl
  obtain ⟨n, hlt, hn, ho, -, htexts⟩ := accepted_nullifiers h hother rfl
  exact ⟨h, hother, rfl, n, hlt, hn, ho, htexts⟩

end Verifier
end IdentityProof
