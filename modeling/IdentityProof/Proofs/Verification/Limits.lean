import IdentityProof.Proofs.Calendar.Timestamp
import IdentityProof.Proofs.Verification.Faults
import IdentityProof.Proofs.Verification.Fields

/-! The limits of identities. A policy limits their number, the time of the last one, both or
neither, and what it asks for is a comparison of numbers, even where a number is a moment. -/

namespace IdentityProof

inductive IsMost : Json → Option Int → Prop where
  | unset : IsMost Policy.unsetNumber none
  | set {limit : Int} (hset : limit ≠ -1) (hshown : ¬ Integer.IsUnwritable limit) :
    IsMost (.int limit) (some limit)

inductive IsLatest : Option Moment → Option Int → Prop where
  | unset : IsLatest none none
  | set {limit : Int} {moment : Moment}
    (h : Setting.ofTimestamp (.int limit) = .ok (.createdBy moment)) :
    IsLatest (some moment) (some limit)

structure Policy.HasLimits (p : Policy) (most latest : Option Int) : Prop where
  most : IsMost p.maxIdentities most
  latest : IsLatest p.createdBy latest

theorem Policy.hasLimits_unset (t : ProofType) : (unset t).HasLimits none none := ⟨.unset, .unset⟩

theorem Policy.HasLimits.apply_maxIdentities {p : Policy} {most latest : Option Int} {limit : Int}
    (h : p.HasLimits most latest) (hset : limit ≠ -1) (hshown : ¬ Integer.IsUnwritable limit) :
    ((Setting.maxIdentities (.int limit)).apply p).HasLimits (some limit) latest :=
  ⟨.set hset hshown, h.latest⟩

theorem Policy.HasLimits.apply_timestamp {p : Policy} {s : Setting} {most latest : Option Int}
    {limit : Int} (h : p.HasLimits most latest) (hs : Setting.ofTimestamp (.int limit) = .ok s) :
    (s.apply p).HasLimits most (some limit) := by
  obtain ⟨moment, rfl⟩ := Setting.ofTimestamp_eq_ok hs
  exact ⟨h.most, .set hs⟩

theorem Setting.ofUnixSeconds_of_ofTimestamp {limit : Int} {moment : Moment}
    (h : ofTimestamp (.int limit) = .ok (.createdBy moment)) :
    Moment.ofUnixSeconds limit = .ok moment := by
  have hsame : Moment.ofTimestamp (.int limit) = Moment.ofUnixSeconds limit := rfl
  unfold ofTimestamp at h
  rw [hsame] at h
  -- the conversion stays abstract, since unfolding it would compute with dates
  generalize Moment.ofUnixSeconds limit = result at h ⊢
  cases result with
  | error why =>
    obtain ⟨shown, -, h⟩ := bind_eq_ok.mp h
    exact nomatch h
  | ok same =>
    obtain rfl : same = moment := by simpa using h
    rfl

def Within (limit? : Option Int) (signal : String) : Prop :=
  ∃ limit ∈ limit?, ∃ n : Nat, parseDecimal signal = .ok (some n) ∧ (n : Int) ≤ limit

/-- A check against a limit is skipped if there is none, and passes within it alone. -/
structure Outcome.Compares (outcome : Outcome RuleError) (limit? : Option Int) (signal : String) :
    Prop where
  skipped : outcome = .skipped ↔ limit? = none
  pass : outcome = .pass ↔ Within limit? signal

theorem Outcome.compares_skipped {signal : String} : Outcome.skipped.Compares none signal :=
  ⟨iff_of_true rfl rfl, iff_of_false nofun fun ⟨_, h, _⟩ => nomatch h⟩

theorem Outcome.compares_of_failed_iff {outcome : Outcome RuleError} {limit : Int} {signal : String}
    (hran : outcome ≠ .skipped)
    (hfailed : (∃ e, outcome = .failed e) ↔ ¬ Within (some limit) signal) :
    outcome.Compares (some limit) signal := by
  refine ⟨iff_of_false hran nofun, ?_⟩
  have hpass : ¬ outcome = .pass ↔ ¬ Within (some limit) signal :=
    (ne_pass_iff.trans (or_iff_right hran)).trans hfailed
  have hnot := not_congr hpass
  rwa [Classical.not_not, Classical.not_not] at hnot

namespace Policy

variable {p : Policy} {most latest : Option Int}

theorem counterOutcome_compares (h : p.HasLimits most latest) {signal : String}
    (hshort : ¬ Overlong signal) :
    ∃ outcome, p.counterOutcome signal = .ok outcome ∧ outcome.Compares most signal := by
  have hmost := h.most
  generalize hpart : p.maxIdentities = part at hmost
  cases hmost with
  | unset =>
    refine ⟨.skipped, ?_, Outcome.compares_skipped⟩
    rw [counterOutcome, hpart]
    rfl
  | @set limit hset hshown =>
    have hinteger : p.maxIdentities.toInteger = .ok limit := by
      rw [hpart]
      rfl
    have hends : ¬ IsError (p.counterOutcome signal) := by
      rw [isError_counterOutcome ⟨limit, hinteger⟩]
      rintro ⟨-, hlong | ⟨same, hsame, hunwritable, -⟩⟩
      · exact hshort hlong
      · obtain rfl := Except.ok.inj (hinteger.symm.trans hsame)
        exact hshown hunwritable
    obtain ⟨outcome, ho⟩ := not_isError_iff.mp hends
    obtain ⟨n?, hn⟩ := not_overlong_iff.mp hshort
    obtain ⟨hskipped, hfailed⟩ := counterOutcome_cases ho
    have hunset : p.maxIdentities.isUnset = false := by
      rw [hpart]
      exact beq_eq_false_iff_ne.mpr hset
    refine ⟨outcome, ho, Outcome.compares_of_failed_iff ?_ (hfailed.trans ?_)⟩
    · rw [Ne, hskipped, hunset]
      exact Bool.false_ne_true
    · unfold FailsCounter Within
      rw [hunset, hn]
      cases n? with
      | none => simp
      | some n => simp [Json.int_greater hinteger]

theorem timestampOutcome_compares (h : p.HasLimits most latest) {signal : String}
    (hshort : ¬ Overlong signal) :
    ∃ outcome, p.timestampOutcome signal = .ok outcome ∧ outcome.Compares latest signal := by
  have hlatest := h.latest
  generalize hpart : p.createdBy = part at hlatest
  cases hlatest with
  | unset =>
    refine ⟨.skipped, ?_, Outcome.compares_skipped⟩
    rw [timestampOutcome, hpart]
    rfl
  | @set limit moment htime =>
    have hmoment := Setting.ofUnixSeconds_of_ofTimestamp htime
    have hends : ¬ IsError (p.timestampOutcome signal) := by
      rw [isError_timestampOutcome]
      exact fun hlong => hshort hlong.2
    obtain ⟨outcome, ho⟩ := not_isError_iff.mp hends
    obtain ⟨n?, hn⟩ := not_overlong_iff.mp hshort
    obtain ⟨hskipped, hfailed⟩ := timestampOutcome_cases ho
    refine ⟨outcome, ho, Outcome.compares_of_failed_iff ?_ (hfailed.trans ?_)⟩
    · rw [Ne, hskipped, hpart]
      exact Option.some_ne_none moment
    · unfold FailsTimestamp Within
      rw [hpart, hn]
      cases n? with
      | none => simp
      | some n =>
        have hlate := Moment.late_iff hmoment n
        generalize Moment.ofUnixSeconds = ofUnix at hlate ⊢
        simp [hlate]

def limitedFields (most latest : Option Int) : List String :=
  (most.map fun _ => Signal.identityCounterUpperBound.path).toList ++
    (latest.map fun _ => Signal.timestampUpperBound.path).toList

end Policy

theorem Outcome.Compares.fields_of_ne_pass {outcome : Outcome RuleError} {limit? : Option Int}
    {signal : String} (h : outcome.Compares limit? signal) (hne : outcome ≠ .pass) (field : String) :
    (Failures.ofOutcomes [(field, outcome)]).fields = (limit?.map fun _ => field).toList := by
  cases outcome with
  | pass => exact absurd rfl hne
  | skipped =>
    rw [h.skipped.mp rfl]
    rfl
  | failed e =>
    cases limit? with
    | none => exact nomatch h.skipped.mpr rfl
    | some limit => rfl

namespace Policy

variable {p : Policy} {most latest : Option Int} {signal : Signal → String}

/-- Identities are accepted if there is no limit of them or one of the limits is kept, and otherwise
every limit is reported. A timestamp beyond the calendar exceeds every limit. -/
theorem identityFailures_iff (h : p.HasLimits most latest)
    (hcounter : ¬ Overlong (signal .identityCounterUpperBound))
    (htimestamp : ¬ Overlong (signal .timestampUpperBound)) :
    (∃ failures, p.identityFailures signal = .ok failures ∧
      (failures = [] ↔ (most = none ∧ latest = none) ∨
        Within most (signal .identityCounterUpperBound) ∨
          Within latest (signal .timestampUpperBound)) ∧
      (failures ≠ [] → failures.fields = limitedFields most latest)) ∧
    ∀ t : Nat, IsError (Moment.ofUnixSeconds t) → ∀ limit ∈ latest, limit < t := by
  obtain ⟨counter, hc, hcompares⟩ := counterOutcome_compares h hcounter
  obtain ⟨timestamp, ht, hcompares'⟩ := timestampOutcome_compares h htimestamp
  have hpaths : Signal.identityCounterUpperBound.path ≠ Signal.timestampUpperBound.path := fun he =>
    nomatch Signal.path_injective he
  have hresult : p.identityFailures signal = .ok (Failures.ofEither
      (Signal.identityCounterUpperBound.path, counter)
      (Signal.timestampUpperBound.path, timestamp)) := by
    unfold identityFailures
    rw [hc, ht]
    rfl
  refine ⟨⟨_, hresult, ?_, ?_⟩, ?_⟩
  · rw [Failures.ofEither_eq_nil hpaths, hcompares.pass, hcompares'.pass, hcompares.skipped,
      hcompares'.skipped]
    exact or_assoc.symm.trans or_comm
  · intro hne
    obtain ⟨hfirst, hsecond⟩ := not_or.mp (mt (Failures.ofEither_of_pass hpaths) hne)
    have hfields := hcompares.fields_of_ne_pass hfirst Signal.identityCounterUpperBound.path
    have hfields' := hcompares'.fields_of_ne_pass hsecond Signal.timestampUpperBound.path
    rw [Failures.ofEither_of_ne_pass hpaths hfirst hsecond, Failures.ofOutcomes_cons, Failures.fields_append,
      hfields, hfields']
    rfl
  · rintro t ⟨e, he⟩ limit hlimit
    have hlatest := h.latest
    generalize p.createdBy = part at hlatest
    cases hlatest with
    | unset => exact nomatch hlimit
    | set htime =>
      obtain rfl := Option.some.inj hlimit
      rw [← Moment.late_iff (Setting.ofUnixSeconds_of_ofTimestamp htime) t, he]
      exact nofun

def identitySignals (count timestamp : String) : Signal → String
  | .identityCounterUpperBound => count
  | .timestampUpperBound => timestamp
  | _ => ""

def latestMoment : Moment := ⟨⟨2023, 11, 14, by decide⟩, 80000000000, by decide⟩

theorem early_identities_accepted :
    Setting.ofTimestamp (.int 1700000000) = .ok (.createdBy latestMoment) ∧
    ((Setting.createdBy latestMoment).apply
      ((Setting.maxIdentities (.int 1)).apply .default)).HasLimits (some 1) (some 1700000000) ∧
    ¬ Overlong "2" ∧ ¬ Overlong "1699999999" ∧
      ((Setting.createdBy latestMoment).apply
        ((Setting.maxIdentities (.int 1)).apply .default)).identityFailures
          (identitySignals "2" "1699999999") = .ok [] := by
  have hmost : ¬ Integer.IsUnwritable 1 :=
    Integer.natAbs_lt_pow (by decide : Integer.digitLimit ≠ 0) (Nat.le_refl 1)
  have htime : Setting.ofTimestamp (.int 1700000000) = .ok (.createdBy latestMoment) := rfl
  have hlimits := ((hasLimits_unset .globalPassport).apply_maxIdentities (by decide)
    hmost).apply_timestamp htime
  have hcount : parseDecimal "2" = .ok (some 2) := rfl
  have htimestamp : parseDecimal "1699999999" = .ok (some 1699999999) := rfl
  have hcounter := not_overlong_iff.mpr ⟨_, hcount⟩
  have hshort := not_overlong_iff.mpr ⟨_, htimestamp⟩
  obtain ⟨⟨failures, hf, hnil, -⟩, -⟩ :=
    @identityFailures_iff _ _ _ (identitySignals "2" "1699999999") hlimits hcounter hshort
  obtain rfl := hnil.mpr (.inr (.inr ⟨1700000000, rfl, 1699999999, htimestamp, by decide⟩))
  exact ⟨htime, hlimits, hcounter, hshort, hf⟩

end Policy
end IdentityProof
