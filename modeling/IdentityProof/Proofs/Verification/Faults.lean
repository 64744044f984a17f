import IdentityProof.Proofs.Calendar.Shift
import IdentityProof.Proofs.Policy.Made
import IdentityProof.Proofs.Rule.Faults
import IdentityProof.Proofs.Verification.Phases

/-! Verifications that meet a fault. The conditions are exact: a decimal too long to be read, an age
that reaches back before the calendar, and an exceeded limit that is too long to be shown. -/

namespace IdentityProof

namespace Policy

variable {p : Policy} {now : Moment} {signal : Signal → String}

theorem not_isError_checkIfSet_oneOf {isUnset : Bool} {accepted : List Json} {value : Json} :
    ¬ IsError (Rule.checkIfSet isUnset [.oneOf accepted] value) := by
  unfold Rule.checkIfSet
  split
  · exact not_isError_ok
  · refine Rule.not_isError_checkAll fun rule hr => ?_
    simp only [List.mem_cons, List.not_mem_nil, or_false] at hr
    rcases hr with rfl | rfl
    · exact Rule.not_meetsFault_required
    · exact Rule.not_meetsFault_oneOf

theorem isError_eventDataOutcome {text : String} :
    IsError (p.eventDataOutcome text) ↔ p.eventData ≠ none ∧ Overlong text := by
  unfold eventDataOutcome
  cases p.eventData with
  | none => simp [not_isError_ok]
  | some rule =>
    have hrule : ∀ r ∈ [Rule.eventData rule], MeetsFault (r.check (.text text)) ↔ Overlong text := by
      simp [Rule.meetsFault_eventData]
    have hcheck := Rule.isError_checkAll_required (List.cons_ne_nil _ _) hrule
    simpa [Rule.checkIfSet] using hcheck

theorem isError_requiredDates {text : String} (first : DateMode × Moment)
    (rest : List (DateMode × Moment)) :
    IsError (Rule.checkAll (.required :: (first :: rest).map fun d => .date d.1 d.2) (.text text)) ↔
      Overlong text := by
  refine Rule.isError_checkAll_required (by simp) fun rule hr => ?_
  obtain ⟨date, -, rfl⟩ := List.mem_map.mp hr
  exact Rule.meetsFault_date

theorem isError_dateOutcome {mode : DateMode} {point : Moment} {text : String} :
    IsError (dateOutcome mode point text) ↔ Overlong text := by
  have hrule : ∀ r ∈ [Rule.date mode point], MeetsFault (r.check (.text text)) ↔ Overlong text := by
    simp [Rule.meetsFault_date]
  unfold dateOutcome
  cases hu : PackedDate.isUnset text with
  | true =>
    rw [if_pos rfl]
    exact iff_of_false not_isError_ok fun h => nomatch hu.symm.trans h.isUnset_eq_false
  | false =>
    rw [if_neg Bool.false_ne_true]
    exact Rule.isError_checkAll (List.cons_ne_nil _ _) hrule

theorem isError_passportOutcomes : IsError (p.passportOutcomes signal) ↔
    Overlong (signal .citizenship) ∨ (p.eventData ≠ none ∧ Overlong (signal .eventData)) ∨
      Overlong (signal .documentType) := by
  unfold passportOutcomes
  refine isError_bind_of_not not_isError_checkIfSet_oneOf fun _ => ?_
  refine isError_bind_of_not not_isError_checkIfSet_oneOf fun _ => ?_
  refine (isError_bind fun _ _ => ?_).trans (or_congr_left isError_unpackText)
  refine isError_bind_of_not not_isError_checkIfSet_oneOf fun _ => ?_
  refine (isError_bind fun _ _ => ?_).trans (or_congr_left isError_eventDataOutcome)
  refine (isError_bind_of_forall_not fun _ => ?_).trans isError_unpackText
  refine mt (isError_bind_of_forall_not fun _ => not_isError_pure).mp ?_
  exact not_isError_checkIfSet_oneOf

theorem isError_georgianOutcomesOf (h : 1 < now.date.year) (h' : now.date.year < 9999) :
    IsError (p.georgianOutcomesOf now signal) ↔
      p.proofType = .georgianPassport ∧ Overlong (signal .currentDate) := by
  unfold georgianOutcomesOf
  cases p.proofType with
  | globalPassport | pollParticipation => simp [not_isError_ok]
  | georgianPassport =>
    have hnumber : ¬ IsError (Rule.checkAll [.required] (.text (signal .personalNumberHash))) :=
      Rule.not_isError_checkAll (by simp [Rule.not_meetsFault_required])
    rw [and_iff_right rfl]
    unfold georgianOutcomes
    refine isError_bind_of_not (Moment.not_isError_previousDay h) fun yesterday => ?_
    refine isError_bind_of_not (Moment.not_isError_nextDay h') fun tomorrow => ?_
    refine (isError_bind_of_forall_not fun _ => ?_).trans
      (isError_requiredDates (.after, yesterday) [(.before, tomorrow)])
    exact mt (isError_bind_of_forall_not fun _ => not_isError_pure).mp hnumber

theorem isError_birthDateFailures (hp : p.HasIntegers) :
    IsError (p.birthDateFailures now signal) ↔ p.age.isUnset = false ∧
      ((∃ years : Nat, p.age.toInteger = .ok years ∧ now.date.year ≤ years) ∨
        Overlong (signal .birthDate) ∨ Overlong (signal .birthDateUpperBound)) := by
  unfold birthDateFailures
  cases hu : p.age.isUnset with
  | true => simp [not_isError_pure]
  | false =>
    obtain ⟨years, hy⟩ := hp.age hu
    have hyears : (∃ n : Nat, p.age.toInteger = .ok n ∧ now.date.year ≤ n) ↔
        now.date.year ≤ years := by
      simp only [hy, Except.ok.injEq, Int.ofNat_inj, exists_eq_left']
    rw [if_neg Bool.false_ne_true, and_iff_right rfl, hyears]
    refine (isError_bind_of_ok hy).trans ?_
    refine (isError_bind fun cutoff _ => ?_).trans (or_congr_left Moment.isError_yearsAgo)
    refine (isError_bind fun _ _ => ?_).trans
      (or_congr_left (isError_requiredDates (.before, cutoff) []))
    exact (isError_bind_of_forall_not fun _ => not_isError_pure).trans
      (isError_requiredDates (.equal, cutoff) [])

theorem isError_expirationFailures : IsError (p.expirationFailures now signal) ↔
    p.skipsExpiration = false ∧
      (Overlong (signal .expirationDateLowerBound) ∨ Overlong (signal .expirationDate)) := by
  unfold expirationFailures
  cases p.skipsExpiration with
  | true => simp [not_isError_pure]
  | false =>
    rw [if_neg Bool.false_ne_true, and_iff_right rfl]
    refine (isError_bind fun _ _ => ?_).trans (or_congr_left isError_dateOutcome)
    exact (isError_bind_of_forall_not fun _ => not_isError_pure).trans isError_dateOutcome

/-- The counter exceeds the limit, and the limit has no text to report it with. -/
def ExceedsUnwritable (p : Policy) (text : String) : Prop :=
  ∃ limit, p.maxIdentities.toInteger = .ok limit ∧ Integer.IsUnwritable limit ∧
    ∃ count : Nat, parseDecimal text = .ok (some count) ∧ limit < count

theorem isError_counterOutcome (hp : ∃ limit, p.maxIdentities.toInteger = .ok limit)
    {text : String} :
    IsError (p.counterOutcome text) ↔
      p.maxIdentities.isUnset = false ∧ (Overlong text ∨ p.ExceedsUnwritable text) := by
  obtain ⟨limit, hl⟩ := hp
  have hexceeds : p.ExceedsUnwritable text ↔ Integer.IsUnwritable limit ∧
      ∃ count : Nat, parseDecimal text = .ok (some count) ∧ limit < count := by
    simp [ExceedsUnwritable, hl]
  unfold counterOutcome
  cases p.maxIdentities.isUnset with
  | true => simp [not_isError_pure]
  | false =>
    rw [if_neg Bool.false_ne_true, and_iff_right rfl, hexceeds]
    refine (isError_bind fun count? hc => ?_).trans (or_congr_left isError_parseDecimal)
    cases count? with
    | none => simp [hc, not_isError_pure]
    | some count =>
      have hone : ∀ r ∈ [Rule.atMost p.maxIdentities], MeetsFault (r.check (.int count)) ↔
          limit < (count : Int) ∧ Integer.IsUnwritable limit := by
        simp [Rule.meetsFault_atMost hl]
      refine (Rule.isError_checkAll (List.cons_ne_nil _ _) hone).trans ?_
      rw [and_comm]
      simp [hc]

theorem isError_timestampOutcome {text : String} :
    IsError (p.timestampOutcome text) ↔ p.createdBy ≠ none ∧ Overlong text := by
  unfold timestampOutcome
  cases p.createdBy with
  | none => simp [not_isError_pure]
  | some limit =>
    rw [← isError_parseDecimal, and_iff_right (Option.some_ne_none limit)]
    refine isError_bind_of_forall_not fun n? => ?_
    dsimp only
    split
    · exact not_isError_pure
    · exact not_isError_pure

theorem isError_identityFailures (hp : ∃ limit, p.maxIdentities.toInteger = .ok limit) :
    IsError (p.identityFailures signal) ↔
      (p.maxIdentities.isUnset = false ∧ (Overlong (signal .identityCounterUpperBound) ∨
        p.ExceedsUnwritable (signal .identityCounterUpperBound))) ∨
      (p.createdBy ≠ none ∧ Overlong (signal .timestampUpperBound)) := by
  unfold identityFailures
  refine (isError_bind fun _ _ => ?_).trans (or_congr_left (isError_counterOutcome hp))
  exact (isError_bind_of_forall_not fun _ => not_isError_pure).trans isError_timestampOutcome

theorem not_isError_pollFailures : ¬ IsError (p.pollFailures signal) := by
  unfold pollFailures
  refine mt (isError_bind_of_not not_isError_checkIfSet_oneOf fun _ => ?_).mp not_false
  exact iff_false_intro
    (mt (isError_bind_of_forall_not fun _ => not_isError_pure).mp not_isError_checkIfSet_oneOf)

/-- The signals of a passport that bytes or a number are taken out of, whether an option asks for
them or not in the case of the first two. -/
inductive Unpacks (p : Policy) : Signal → Prop where
  | citizenship : Unpacks p .citizenship
  | documentType : Unpacks p .documentType
  | eventData (h : p.eventData ≠ none) : Unpacks p .eventData
  | currentDate (h : p.proofType = .georgianPassport) : Unpacks p .currentDate
  | birthDate (h : p.age.isUnset = false) : Unpacks p .birthDate
  | birthDateUpperBound (h : p.age.isUnset = false) : Unpacks p .birthDateUpperBound
  | expirationDate (h : p.skipsExpiration = false) : Unpacks p .expirationDate
  | expirationDateLowerBound (h : p.skipsExpiration = false) : Unpacks p .expirationDateLowerBound
  | counter (h : p.maxIdentities.isUnset = false) : Unpacks p .identityCounterUpperBound
  | timestamp (h : p.createdBy ≠ none) : Unpacks p .timestampUpperBound

/-- What keeps the signals of a passport from being judged. -/
inductive Stops (p : Policy) (now : Moment) (signal : Signal → String) : Prop where
  | overlong {s : Signal} (h : p.Unpacks s) (hs : Overlong (signal s))
  | age {years : Nat} (hset : p.age.isUnset = false) (h : p.age.toInteger = .ok years)
    (hyear : now.date.year ≤ years)
  | limit (hset : p.maxIdentities.isUnset = false)
    (h : p.ExceedsUnwritable (signal .identityCounterUpperBound))

theorem isError_passportFailures (hp : p.HasIntegers) (h : 1 < now.date.year)
    (h' : now.date.year < 9999) : IsError (p.passportFailures now signal) ↔ p.Stops now signal := by
  have hgroups : IsError (p.passportFailures now signal) ↔
      IsError (p.passportOutcomes signal) ∨ IsError (p.georgianOutcomesOf now signal) ∨
        IsError (p.birthDateFailures now signal) ∨ IsError (p.expirationFailures now signal) ∨
          IsError (p.identityFailures signal) := by
    unfold passportFailures
    refine isError_bind fun _ _ => isError_bind fun _ _ => isError_bind fun _ _ =>
      isError_bind fun _ _ => isError_bind_of_forall_not fun _ => not_isError_pure
  rw [hgroups, isError_passportOutcomes, isError_georgianOutcomesOf h h',
    isError_birthDateFailures hp, isError_expirationFailures, isError_identityFailures hp.maxIdentities]
  constructor
  · rintro ((hs | ⟨he, hs⟩ | hs) | ⟨ht, hs⟩ | ⟨hu, ⟨years, hy, hyear⟩ | hs | hs⟩ |
      ⟨hu, hs | hs⟩ | ⟨hu, hs | hs⟩ | ⟨hc, hs⟩)
    · exact .overlong .citizenship hs
    · exact .overlong (.eventData he) hs
    · exact .overlong .documentType hs
    · exact .overlong (.currentDate ht) hs
    · exact .age hu hy hyear
    · exact .overlong (.birthDate hu) hs
    · exact .overlong (.birthDateUpperBound hu) hs
    · exact .overlong (.expirationDateLowerBound hu) hs
    · exact .overlong (.expirationDate hu) hs
    · exact .overlong (.counter hu) hs
    · exact .limit hu hs
    · exact .overlong (.timestamp hc) hs
  · intro hstop
    cases hstop with
    | overlong hunpacks hs => cases hunpacks <;> simp [*]
    | age hset hy hyear => exact .inr (.inr (.inl ⟨hset, .inl ⟨_, hy, hyear⟩⟩))
    | limit hset hlimit => exact .inr (.inr (.inr (.inr (.inl ⟨hset, .inr hlimit⟩))))

theorem isError_ruleFailures (hp : p.HasIntegers) (h : 1 < now.date.year)
    (h' : now.date.year < 9999) :
    IsError (p.ruleFailures now signal) ↔ p.proofType.isPassport = true ∧ p.Stops now signal := by
  unfold ruleFailures
  cases p.proofType.isPassport with
  | true => simpa using isError_passportFailures hp h h'
  | false => simpa using not_isError_pollFailures

variable {proof : Proof} {answer : Except (Raised RootError) Unit}

theorem isError_signalFailures {wrong : Option InvalidRoot} :
    IsError (p.signalFailures now wrong signal) ↔ IsError (p.ruleFailures now signal) :=
  isError_bind_of_forall_not fun _ => not_isError_pure

theorem meetsFault_judgeVerdict {wrong : Option InvalidRoot} (h : rootVerdict answer = .ok wrong) :
    MeetsFault (p.judgeSignals now proof answer) ↔
      IsError (p.ruleFailures now (proof.signal p.proofType)) := by
  rw [judgeSignals_of_verdict h, meetsFault_bind, Fault.meetsFault_lift, isError_signalFailures]
  refine or_iff_left ?_
  rintro ⟨failures, -, hfault⟩
  split at hfault
  · exact not_meetsFault_ok hfault
  · exact not_meetsFault_refused hfault

theorem meetsFault_judgeSignals (h : ¬ MeetsFault answer) :
    MeetsFault (p.judgeSignals now proof answer) ↔
      (¬ ∃ why, answer = .error (.refused (.unchecked why))) ∧
        IsError (p.ruleFailures now (proof.signal p.proofType)) := by
  match answer with
  | .ok () => simpa using meetsFault_judgeVerdict rfl
  | .error (.refused (.invalid why)) => simpa using meetsFault_judgeVerdict rfl
  | .error (.refused (.unchecked why)) =>
    rw [judgeSignals_of_unchecked rfl]
    exact iff_of_false not_meetsFault_refused fun hboth => hboth.1 ⟨why, rfl⟩
  | .error (.fault f) => exact absurd ⟨f, rfl⟩ h

variable {σ : Type} {b : Behaviour σ} {s : σ}

theorem meetsFault_run (h : ¬ MeetsFault (p.rootAnswer b proof s).1) :
    MeetsFault (p.run b now proof s).result ↔ proof.structuralFailures p.proofType = [] ∧
      (¬ ∃ why, (p.rootAnswer b proof s).1 = .error (.refused (.unchecked why))) ∧
        IsError (p.ruleFailures now (proof.signal p.proofType)) := by
  rw [← meetsFault_judgeSignals h]
  rcases p.run_cases b now proof s with ⟨hs, he⟩ | ⟨hs, e, hj, he⟩ | ⟨hs, hj, he⟩ <;> rw [he]
  · exact iff_of_false not_meetsFault_refused fun hboth => hs hboth.1
  · rw [and_iff_right hs, hj]
  · rw [hj]
    refine iff_of_false (fun ⟨f, hf⟩ => ?_) fun hboth => not_meetsFault_ok hboth.2
    obtain ⟨reason, -, hn⟩ := mapError_eq_error.mp hf
    exact nomatch hn

end Policy

/-- A verification whose root is checked without a fault accepts or refuses the proof unless the
signals of a passport are reached and one of three things keeps them from being judged. -/
theorem Verifier.accepts_or_refuses_iff {σ : Type} {files : Files} {source : Source}
    {stored called : List Setting} {v : Verifier} (hv : make files source stored = .ok v)
    (hmade : ∀ s ∈ stored ++ called, s.Made ∧ s.IsTyped) (b : Behaviour σ)
    (hroot : ∀ source root s, ¬ MeetsFault (b.checkRoot source root s).1) (now : Moment)
    (hyear : 1969 ≤ now.date.year ∧ now.date.year ≤ 2068) (proof : Proof) (s : σ) :
    let p := Policy.merge false v.policy called
    let run := v.run b now called proof s
    (run.result = .ok () ∨ ∃ e, run.result = .error (.refused e)) ↔
      proof.structuralFailures p.proofType ≠ [] ∨
        (∃ why, (p.rootAnswer b proof s).1 = .error (.refused (.unchecked why))) ∨
          p.proofType = .pollParticipation ∨ ¬ p.Stops now (proof.signal p.proofType) := by
  intro p run
  have hintegers : p.HasIntegers := by
    refine Policy.hasIntegers_merge (fun s hs => hmade s (List.mem_append_right _ hs)) (.inr ?_)
    rw [make_policy hv]
    exact Policy.hasIntegers_merge (fun s hs => hmade s (List.mem_append_left _ hs)) (.inl rfl)
  have hfault : MeetsFault (p.run b now proof s).result ↔ _ := Policy.meetsFault_run (hroot _ _ s)
  rw [Policy.isError_ruleFailures hintegers (by omega) (by omega)] at hfault
  have hpoll : p.proofType = .pollParticipation ↔ p.proofType.isPassport ≠ true := by
    cases p.proofType <;> decide
  have hends : (run.result = .ok () ∨ ∃ e, run.result = .error (.refused e)) ↔
      ¬ MeetsFault run.result := by
    rcases run.result with (e | f) | u
    · exact iff_of_true (.inr ⟨e, rfl⟩) not_meetsFault_refused
    · exact iff_of_false (by simp) (not_not_intro ⟨f, rfl⟩)
    · exact iff_of_true (.inl rfl) not_meetsFault_ok
  rw [hends, show run.result = (p.run b now proof s).result from rfl, hfault, hpoll]
  simp only [Classical.not_and_iff_not_or_not, Classical.not_not, ne_eq]

def Behaviour.accepting : Behaviour Unit where
  checkRoot _ _ s := (.ok (), s)
  checkProof _ s := (.ok (), s)

def Proof.ofPassport (citizenship : String) : Proof where
  points := some { a := ["1"], b := [["1"]], c := ["1"], protocol := .text "groth16" }
  signals := [
    "5", "0", "0", "0", "0", "0", citizenship, "0", "0", "0", "0", "0", "0", "0", "0", "0", "0",
    "0", "0", "0", "0", "0"]

def Verifier.ofPassports (settings : List Setting) : Verifier where
  policy := Policy.merge true .default settings
  key := [123, 125]

def Verifier.passportDate : Moment := .midnight ⟨2024, 5, 17, by decide⟩

theorem Verifier.aged_passport_stops :
    let v := ofPassports [.age (.int 2024), .skipExpiration]
    make [] (.bytes [123, 125]) [.age (.int 2024), .skipExpiration] = .ok v ∧
      Setting.ofAge (.int 2024) = .ok (.age (.int 2024)) ∧
        ¬ ((v.run Behaviour.accepting passportDate [] (.ofPassport "0") ()).result = .ok () ∨
          ∃ e, (v.run Behaviour.accepting passportDate [] (.ofPassport "0") ()).result =
            .error (.refused e)) := by
  intro v
  have hmake : make [] (.bytes [123, 125]) [.age (.int 2024), .skipExpiration] = .ok v := rfl
  have hage : Setting.ofAge (.int 2024) = .ok (.age (.int 2024)) := rfl
  have hmade : ∀ s ∈ [Setting.age (.int 2024), .skipExpiration] ++ [], s.Made ∧ s.IsTyped := by
    simp only [List.append_nil, List.forall_mem_cons]
    exact ⟨⟨.age hage, 2024, rfl⟩, ⟨.skipExpiration, trivial⟩, fun _ h => nomatch h⟩
  have hends := accepts_or_refuses_iff hmake hmade Behaviour.accepting
    (fun _ _ _ => not_meetsFault_ok) passportDate (by decide) (.ofPassport "0") ()
  refine ⟨hmake, hage, fun h => ?_⟩
  rcases hends.mp h with hs | ⟨why, hw⟩ | ht | hstop
  · exact hs rfl
  · exact nomatch hw
  · exact nomatch ht
  · exact hstop (@Policy.Stops.age _ _ _ 2024 rfl rfl (Nat.le_refl _))

/-- A decimal of 4301 digits in the place of a citizenship that no option asks for. -/
theorem Verifier.overlong_citizenship_faults :
    let v := ofPassports [.skipExpiration]
    let proof := Proof.ofPassport (String.ofList (List.replicate 4301 '1'))
    make [] (.bytes [123, 125]) [.skipExpiration] = .ok v ∧
      proof.signals.length = ProofType.globalPassport.signalCount ∧
        ∃ f, (v.run Behaviour.accepting passportDate [] proof ()).result = .error (.fault f) := by
  intro v proof
  have hlong : Overlong (proof.signal v.policy.proofType .citizenship) :=
    overlong_replicate (by decide)
  have hintegers : v.policy.HasIntegers := ⟨nofun, -1, rfl⟩
  have hrules : IsError (v.policy.ruleFailures passportDate (proof.signal v.policy.proofType)) :=
    (Policy.isError_ruleFailures hintegers (by decide) (by decide)).mpr
      ⟨rfl, .overlong .citizenship hlong⟩
  have hroot : ¬ MeetsFault (v.policy.rootAnswer Behaviour.accepting proof ()).1 :=
    not_meetsFault_ok
  exact ⟨rfl, rfl, (Policy.meetsFault_run hroot).mpr ⟨rfl, nofun, hrules⟩⟩

end IdentityProof
