import IdentityProof.Proofs.Calendar.DayNumber
import IdentityProof.Proofs.Signal.DateText
import IdentityProof.Proofs.Verification.Faults
import IdentityProof.Proofs.Verification.Reports

/-! The days on which a proof can be accepted. The dates that are compared with the clock are read of
the proof, which is the same whenever it is shown, so that two verifications that accept it cannot be
far apart. An option can leave out the expiration, none the current date of a Georgian passport. -/

namespace IdentityProof

namespace Moment

theorem midnight_le_midnight {d e : Date} : midnight d ≤ midnight e ↔ d.dayNumber ≤ e.dayNumber :=
  (midnight_le_iff (m := midnight e)).trans Date.dayNumber_le_iff.symm

variable {m other : Moment}

theorem previousDay_startOfDay_eq_ok : m.startOfDay.previousDay = .ok other ↔
    ∃ date, m.date.previous? = some date ∧ midnight date = other := by
  unfold previousDay startOfDay midnight
  simp only
  cases m.date.previous? <;> simp

theorem nextDay_startOfDay_eq_ok : m.startOfDay.nextDay = .ok other ↔
    ∃ date, m.date.next? = some date ∧ midnight date = other := by
  unfold nextDay startOfDay midnight
  simp only
  cases m.date.next? <;> simp

end Moment

namespace Policy

variable {p : Policy} {now : Moment} {signal : Signal → String}

/-- Of the checks of a Georgian passport that of the current date has passed. -/
def PassesCurrentDate (now : Moment) (signal : Signal → String) : Prop :=
  ∃ outcomes, georgianOutcomes now signal = .ok outcomes ∧
    (Signal.currentDate.path, .pass) ∈ outcomes

theorem betweenDates_pass_iff {first last : Moment} {s : String} :
    Rule.checkAll [.required, .date .after first, .date .before last] (.text s) = .ok .pass ↔
      ∃ date, PackedDate.unpack s = .ok date ∧ first ≤ Moment.midnight date ∧
        Moment.midnight date ≤ last := by
  rw [Rule.checkAll_eq_pass_iff]
  simp only [List.forall_mem_cons, Rule.required_check_eq_ok, Rule.date_check_eq_ok]
  constructor
  · rintro ⟨-, ⟨date, hd, hafter⟩, ⟨same, hs, hbefore⟩, -⟩
    obtain rfl : date = same := Except.ok.inj (hd.symm.trans hs)
    exact ⟨date, hd, Nat.not_lt.mp hafter, Nat.not_lt.mp hbefore⟩
  · rintro ⟨date, hd, hafter, hbefore⟩
    have hne : s ≠ "" := by
      rintro rfl
      exact nomatch hd
    exact ⟨hne, ⟨date, hd, Nat.not_lt.mpr hafter⟩, ⟨date, hd, Nat.not_lt.mpr hbefore⟩, nofun⟩

theorem passesCurrentDate_iff : PassesCurrentDate now signal ↔
    ∃ yesterday tomorrow date, now.startOfDay.previousDay = .ok yesterday ∧
      now.startOfDay.nextDay = .ok tomorrow ∧
        PackedDate.unpack (signal .currentDate) = .ok date ∧
          yesterday ≤ Moment.midnight date ∧ Moment.midnight date ≤ tomorrow := by
  unfold PassesCurrentDate georgianOutcomes
  simp only [bind_eq_ok, pure_eq_ok]
  constructor
  · rintro ⟨outcomes, ⟨yesterday, hy, tomorrow, ht, currentDate, hc, number, -, rfl⟩, hpass⟩
    have hpaths : Signal.currentDate.path ≠ Signal.personalNumberHash.path := fun he =>
      nomatch Signal.path_injective he
    obtain rfl : .pass = currentDate := by simpa [hpaths] using hpass
    obtain ⟨date, hdate⟩ := betweenDates_pass_iff.mp hc
    exact ⟨yesterday, tomorrow, date, hy, ht, hdate⟩
  · rintro ⟨yesterday, tomorrow, date, hy, ht, hdate⟩
    have hc := betweenDates_pass_iff.mpr ⟨date, hdate⟩
    obtain ⟨number, hn⟩ : ∃ number, Rule.checkAll [.required]
        (.text (signal .personalNumberHash)) = .ok number :=
      not_isError_iff.mp (Rule.not_isError_checkAll (by simp [Rule.not_meetsFault_required]))
    exact ⟨_, ⟨yesterday, hy, tomorrow, ht, _, hc, number, hn, rfl⟩, List.mem_cons_self⟩

theorem passesCurrentDate_iff_near {d : Date}
    (hd : PackedDate.unpack (signal .currentDate) = .ok d) :
    PassesCurrentDate now signal ↔
      now.date.dayNumber ≤ d.dayNumber + 1 ∧ d.dayNumber ≤ now.date.dayNumber + 1 := by
  rw [passesCurrentDate_iff]
  constructor
  · rintro ⟨yesterday, tomorrow, date, hy, ht, hdate, hafter, hbefore⟩
    obtain rfl : d = date := Except.ok.inj (hd.symm.trans hdate)
    obtain ⟨before, hprevious, rfl⟩ := Moment.previousDay_startOfDay_eq_ok.mp hy
    obtain ⟨after, hnext, rfl⟩ := Moment.nextDay_startOfDay_eq_ok.mp ht
    rw [Moment.midnight_le_midnight] at hafter hbefore
    have hbelow := Date.dayNumber_previous hprevious
    have habove := Date.dayNumber_next hnext
    omega
  · rintro ⟨hearly, hlate⟩
    -- the years that a signal can hold lie well within the calendar, so the neighbours are there
    obtain ⟨-, -, hyear, hyear', -⟩ := PackedDate.unpack_eq_ok_iff.mp hd
    have hfirst := Date.year_le_of_dayNumber hlate
    have hlast := Date.year_le_of_dayNumber hearly
    obtain ⟨before, hprevious⟩ : ∃ before, now.date.previous? = some before :=
      Date.exists_previous (by omega)
    obtain ⟨after, hnext⟩ : ∃ after, now.date.next? = some after := Date.exists_next (by omega)
    have hbelow := Date.dayNumber_previous hprevious
    have habove := Date.dayNumber_next hnext
    exact ⟨_, _, d, Moment.previousDay_startOfDay_eq_ok.mpr ⟨before, hprevious, rfl⟩,
      Moment.nextDay_startOfDay_eq_ok.mpr ⟨after, hnext, rfl⟩, hd,
      Moment.midnight_le_midnight.mpr (by omega), Moment.midnight_le_midnight.mpr (by omega)⟩

theorem passesCurrentDate_of_nil {outcomes : List (String × Outcome RuleError)}
    (h : p.georgianOutcomesOf now signal = .ok outcomes) (hnil : Failures.ofOutcomes outcomes = [])
    (ht : p.proofType = .georgianPassport) : PassesCurrentDate now signal := by
  unfold georgianOutcomesOf at h
  rw [ht] at h
  refine ⟨outcomes, h, ?_⟩
  unfold georgianOutcomes at h
  simp only [bind_eq_ok, pure_eq_ok] at h
  obtain ⟨yesterday, -, tomorrow, -, currentDate, hc, number, -, rfl⟩ := h
  obtain rfl := Rule.pass_of_not_failed hc (Failures.ofOutcomes_eq_nil.mp hnil _ List.mem_cons_self)
  exact List.mem_cons_self

theorem dateOutcome_shown {mode : DateMode} {point : Moment} {s : String}
    {outcome : Outcome RuleError} (h : dateOutcome mode point s = .ok outcome)
    (hf : ∀ e, outcome ≠ .failed e) (hset : PackedDate.isUnset s = false) :
    ∃ date, PackedDate.unpack s = .ok date ∧ ¬ mode.Refuses point date := by
  unfold dateOutcome at h
  rw [hset, if_neg Bool.false_ne_true] at h
  obtain rfl := Rule.pass_of_not_failed h hf
  exact Rule.date_check_eq_ok.mp (Rule.checkAll_pass h _ List.mem_cons_self)

theorem expirationFailures_eq_nil (h : p.expirationFailures now signal = .ok [])
    (hset : p.skipsExpiration = false) : ∃ bound expiration,
      dateOutcome .equal now (signal .expirationDateLowerBound) = .ok bound ∧
        (∀ e, bound ≠ .failed e) ∧ dateOutcome .after now (signal .expirationDate) = .ok expiration ∧
          ∀ e, expiration ≠ .failed e := by
  unfold expirationFailures at h
  simp only [hset, Bool.false_eq_true, if_false, bind_eq_ok, pure_eq_ok] at h
  obtain ⟨bound, hb, expiration, he, hnil⟩ := h
  have hfails := Failures.ofOutcomes_eq_nil.mp hnil
  exact ⟨bound, expiration, hb, hfails _ List.mem_cons_self, he,
    hfails _ (List.mem_cons_of_mem _ List.mem_cons_self)⟩

theorem expirationBound_of_accepted (ht : p.proofType.isPassport = true)
    (h : p.ruleFailures now signal = .ok []) (hskip : p.skipsExpiration = false)
    (hset : PackedDate.isUnset (signal .expirationDateLowerBound) = false) :
    PackedDate.unpack (signal .expirationDateLowerBound) = .ok now.date := by
  rw [ruleFailures, if_pos ht] at h
  obtain ⟨-, -, -, -, -, -, -, hexpiration, -⟩ := passportFailures_eq_nil h
  obtain ⟨bound, -, hb, hbound, -⟩ := expirationFailures_eq_nil hexpiration hskip
  obtain ⟨date, hd, hgood⟩ := dateOutcome_shown hb hbound hset
  rwa [← Classical.not_not.mp hgood]

theorem currentDate_of_accepted (ht : p.proofType = .georgianPassport)
    (h : p.ruleFailures now signal = .ok []) : PassesCurrentDate now signal := by
  have hpassport : p.proofType.isPassport = true := by rw [ht]; rfl
  rw [ruleFailures, if_pos hpassport] at h
  obtain ⟨-, georgian, -, -, hg, hnil, -⟩ := passportFailures_eq_nil h
  exact passesCurrentDate_of_nil hg hnil ht

end Policy

namespace Proof

variable {proof : Proof} {p q : Policy} {now later : Moment}

/-- The proof is accepted at a moment by some verifier, settings and services, which come to the
policy together. -/
def AcceptedAt (proof : Proof) (now : Moment) (p : Policy) : Prop :=
  ∃ (σ : Type) (b : Behaviour σ) (v : Verifier) (called : List Setting) (s : σ),
    Policy.merge false v.policy called = p ∧ (v.run b now called proof s).result = .ok ()

/-- Services that have nothing against a proof let it pass, so structure and signals decide. -/
theorem acceptedAt_iff : proof.AcceptedAt now p ↔ proof.structuralFailures p.proofType = [] ∧
    p.ruleFailures now (proof.signal p.proofType) = .ok [] := by
  constructor
  · rintro ⟨σ, b, v, called, s, rfl, hrun⟩
    obtain ⟨hs, -, hrules⟩ := Policy.proof_mem_run_calls.mp (Policy.proof_mem_of_run_eq_ok hrun)
    exact ⟨hs, hrules⟩
  · rintro ⟨hs, hrules⟩
    have hjudged : p.judgeSignals now proof (p.rootAnswer .accepting proof ()).1 = .ok () :=
      Policy.judgeSignals_eq_ok.mpr ⟨rfl, hrules⟩
    have hresult := congrArg Run.result (Policy.run_of_judged_ok hs hjudged)
    exact ⟨Unit, .accepting, { policy := p, key := [] }, [], (), rfl, hresult⟩

theorem AcceptedAt.length_eq (h : proof.AcceptedAt now p) :
    proof.signals.length = p.proofType.signalCount := by
  have hbroken := mt structuralFailures_ne_nil.mpr (not_not_intro (acceptedAt_iff.mp h).1)
  push Not at hbroken
  exact hbroken.2.2.1

theorem AcceptedAt.proofType_eq (h : proof.AcceptedAt now p) (h' : proof.AcceptedAt later q) :
    p.proofType = q.proofType := by
  have hcount : p.proofType.signalCount = q.proofType.signalCount :=
    h.length_eq.symm.trans h'.length_eq
  revert hcount
  cases p.proofType <;> cases q.proofType <;> decide

/-- Two verifications that accept a proof are close in time, whatever their policies and services. A
lower bound of the expiration holds them to one day, and the current date of a Georgian passport to
the three days around it. -/
theorem accepted_window (proof : Proof) :
    (∀ p q now later, proof.AcceptedAt now p → proof.AcceptedAt later q →
      p.proofType.isPassport = true → q.proofType.isPassport = true →
        p.skipsExpiration = false → q.skipsExpiration = false →
          PackedDate.isUnset (proof.signal p.proofType .expirationDateLowerBound) = false →
            now.date = later.date) ∧
    (∀ p q now later, proof.AcceptedAt now p → proof.AcceptedAt later q →
      p.proofType = .georgianPassport → q.proofType = .georgianPassport →
        now.date.dayNumber ≤ later.date.dayNumber + 2 ∧
          later.date.dayNumber ≤ now.date.dayNumber + 2) ∧
    ∀ d, PackedDate.unpack (proof.signal .georgianPassport .currentDate) = .ok d → ∀ now,
      Policy.PassesCurrentDate now (proof.signal .georgianPassport) ↔
        now.date.dayNumber + 1 = d.dayNumber ∨ now.date = d ∨
          now.date.dayNumber = d.dayNumber + 1 := by
  refine ⟨?_, ?_, ?_⟩
  · intro p q now later h h' ht ht' hskip hskip' hset
    have hbound := Policy.expirationBound_of_accepted ht (acceptedAt_iff.mp h).2 hskip hset
    rw [h.proofType_eq h'] at hset hbound
    have hbound' := Policy.expirationBound_of_accepted ht' (acceptedAt_iff.mp h').2 hskip' hset
    exact Except.ok.inj (hbound.symm.trans hbound')
  · intro p q now later h h' ht ht'
    have hpass := Policy.currentDate_of_accepted ht (acceptedAt_iff.mp h).2
    have hpass' := Policy.currentDate_of_accepted ht' (acceptedAt_iff.mp h').2
    rw [ht] at hpass
    rw [ht'] at hpass'
    obtain ⟨-, -, d, -, -, hd, -⟩ := Policy.passesCurrentDate_iff.mp hpass
    have hnear := (Policy.passesCurrentDate_iff_near hd).mp hpass
    have hnear' := (Policy.passesCurrentDate_iff_near hd).mp hpass'
    omega
  · intro d hd now
    rw [Policy.passesCurrentDate_iff_near hd]
    constructor
    · rintro ⟨hearly, hlate⟩
      by_cases hsame : now.date.dayNumber = d.dayNumber
      · exact .inr (.inl (Date.eq_of_dayNumber hsame))
      · omega
    · rintro (hbefore | rfl | hafter) <;> omega

def ofGeorgian : Proof where
  points := some { a := ["1"], b := [["1"]], c := ["1"], protocol := .text "groth16" }
  signals := [
    "5", "0", "0", "0", "0", "0", "0", "0", "1", "0", "0", "0", "0", "0", "55199728480567", "0",
    "0", "0", "0", "0", "0", "55199728480567", "0", "0"]

theorem ofGeorgian_window :
    let policy := Policy.merge true .default [.proofType .georgianPassport]
    let skipping := Setting.skipExpiration.apply policy
    let before : Moment := .midnight ⟨2024, 5, 16, by decide⟩
    let day : Moment := .midnight ⟨2024, 5, 17, by decide⟩
    let noon : Moment := { day with micros := 43200000000, micros_lt := by decide }
    let after : Moment := .midnight ⟨2024, 5, 18, by decide⟩
    (ofGeorgian.AcceptedAt day policy ∧ ofGeorgian.AcceptedAt noon policy ∧ day.date = noon.date) ∧
      (ofGeorgian.AcceptedAt before skipping ∧ ofGeorgian.AcceptedAt after skipping ∧
        after.date.dayNumber ≤ before.date.dayNumber + 2) ∧
          Policy.PassesCurrentDate day (ofGeorgian.signal .georgianPassport) := by
  intro policy skipping before day noon after
  have hday : ofGeorgian.AcceptedAt day policy := acceptedAt_iff.mpr ⟨rfl, by decide +kernel⟩
  have hnoon : ofGeorgian.AcceptedAt noon policy := acceptedAt_iff.mpr ⟨rfl, by decide +kernel⟩
  have hbefore : ofGeorgian.AcceptedAt before skipping := acceptedAt_iff.mpr ⟨rfl, by decide +kernel⟩
  have hafter : ofGeorgian.AcceptedAt after skipping := acceptedAt_iff.mpr ⟨rfl, by decide +kernel⟩
  have hdate : PackedDate.unpack (ofGeorgian.signal .georgianPassport .currentDate) =
      .ok day.date := rfl
  obtain ⟨hsame, hwithin, hthree⟩ := accepted_window ofGeorgian
  exact ⟨⟨hday, hnoon, hsame _ _ _ _ hday hnoon rfl rfl rfl rfl rfl⟩,
    ⟨hbefore, hafter, (hwithin _ _ _ _ hbefore hafter rfl rfl).2⟩,
    (hthree _ hdate day).mpr (.inr (.inl rfl))⟩

end Proof
end IdentityProof
