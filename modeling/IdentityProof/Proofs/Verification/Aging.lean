import IdentityProof.Proofs.Verification.Age

/-! Growing older. The moment some years before can move back overnight, since on a 29th of February
it may lie on a first of March at the time of day. The day of it does not, so that whoever is old
enough stays so, and is old enough for every lower age. -/

namespace IdentityProof

theorem Rule.before_check_mono {point other : Moment} {signal : String}
    (h : (Rule.date .before point).check (.text signal) = .ok ())
    (hle : point.date.key ≤ other.date.key) :
    (Rule.date .before other).check (.text signal) = .ok () := by
  obtain ⟨birth, hbirth, hearly⟩ := before_check_eq_ok.mp h
  exact before_check_eq_ok.mpr ⟨birth, hbirth, Nat.le_trans hearly hle⟩

namespace Policy

variable {p : Policy} {now later : Moment} {signal : Signal → String}

theorem not_overlong_of_birthDateFailures {failures : Failures RuleError}
    (hset : p.age.isUnset = false) (h : p.birthDateFailures now signal = .ok failures) :
    ¬ Overlong (signal .birthDate) ∧ ¬ Overlong (signal .birthDateUpperBound) := by
  unfold birthDateFailures at h
  rw [if_neg (by rw [hset]; exact Bool.false_ne_true)] at h
  obtain ⟨years, -, h⟩ := bind_eq_ok.mp h
  obtain ⟨cutoff, -, h⟩ := bind_eq_ok.mp h
  obtain ⟨shown, hshown, h⟩ := bind_eq_ok.mp h
  obtain ⟨bounded, hbounded, -⟩ := bind_eq_ok.mp h
  have hread (mode : DateMode) {s : String} {outcome : Outcome RuleError}
      (hs : Rule.checkAll [.required, .date mode cutoff] (.text s) = .ok outcome) :
      ¬ Overlong s :=
    mt (isError_requiredDates (mode, cutoff) []).mpr (not_isError_iff.mpr ⟨outcome, hs⟩)
  exact ⟨hread .before hshown, hread .equal hbounded⟩

/-- A birth date that is early enough for an age stays early enough at every later moment and for
every lower age, so that a policy that asks for the age goes on accepting it. -/
theorem oldEnough_mono {years fewer : Nat} (htime : now ≤ later) (hage : fewer ≤ years)
    (hcalendar : years < now.date.year) :
    ∃ cutoff laterCutoff, now.yearsAgo years = .ok cutoff ∧
      later.yearsAgo fewer = .ok laterCutoff ∧
        (∀ signal, (Rule.date .before cutoff).check (.text signal) = .ok () →
          (Rule.date .before laterCutoff).check (.text signal) = .ok ()) ∧
        ∀ (p q : Policy) (signal : Signal → String),
          ((Setting.age (.int years)).apply p).birthDateFailures now signal = .ok [] →
            (Rule.date .before cutoff).check (.text (signal .birthDate)) = .ok () →
              ((Setting.age (.int fewer)).apply q).birthDateFailures later signal = .ok [] := by
  have hkey := Moment.date_key_le htime
  have hyear : now.date.year ≤ later.date.year := by
    have hfields := Date.key_le_key.mp hkey
    omega
  obtain ⟨cutoff, hcutoff, hbefore⟩ := Moment.yearsAgo_of_lt hcalendar
  have hreaches : fewer < later.date.year := by omega
  obtain ⟨laterCutoff, hlater, hbefore'⟩ := Moment.yearsAgo_of_lt hreaches
  have hmoves : cutoff.date.key ≤ laterCutoff.date.key := hbefore.key_le_key hbefore' hkey hage
  refine ⟨cutoff, laterCutoff, hcutoff, hlater, fun signal h => Rule.before_check_mono h hmoves, ?_⟩
  intro p q signal haccepted hshown
  have hset : ((Setting.age (.int years)).apply p).age.isUnset = false :=
    Bool.eq_false_iff.mpr fun hu => nomatch (age_isUnset_iff rfl).mp hu
  obtain ⟨hread, hread'⟩ := not_overlong_of_birthDateFailures hset haccepted
  have hfewer : (Json.int fewer).toInteger = .ok (fewer : Int) := rfl
  obtain ⟨failures, hfailures, hnil⟩ := birthDateFailures_age q hfewer hlater hread hread'
  rw [hfailures, hnil.mpr (.inr (.inl (Rule.before_check_mono hshown hmoves)))]

def leapNoon : Moment :=
  { date := Rule.leapDay.date, micros := 43200000000, micros_lt := by decide }

def nextMidnight : Moment := .midnight ⟨2024, 3, 1, by decide⟩

theorem oldEnough_after_leapDay :
    leapNoon ≤ nextMidnight ∧ 18 < leapNoon.date.year ∧
      ∃ cutoff laterCutoff, leapNoon.yearsAgo 18 = .ok cutoff ∧
        nextMidnight.yearsAgo 18 = .ok laterCutoff ∧ laterCutoff < cutoff ∧
          (Rule.date .before cutoff).check (.text "53009295028273") = .ok () ∧
            (Rule.date .before laterCutoff).check (.text "53009295028273") = .ok () ∧
              ((Setting.age (.int 18)).apply .default).birthDateFailures nextMidnight
                (twoDates "53009295028273" "0") = .ok [] := by
  have htime : leapNoon ≤ nextMidnight := by decide
  have hcalendar : 18 < leapNoon.date.year := by decide
  obtain ⟨cutoff, laterCutoff, hcutoff, hlater, hkept, hpolicy⟩ :=
    oldEnough_mono htime (Nat.le_refl 18) hcalendar
  let birth : Date := ⟨2006, 3, 1, by decide⟩
  have hfirst : leapNoon.yearsAgo 18 = .ok { leapNoon with date := birth } := rfl
  have hsecond : nextMidnight.yearsAgo 18 = .ok (.midnight birth) := rfl
  obtain rfl := Except.ok.inj (hcutoff.symm.trans hfirst)
  obtain rfl := Except.ok.inj (hlater.symm.trans hsecond)
  have hbirth : PackedDate.unpack "53009295028273" = .ok birth := rfl
  have hborn : (Rule.date .before { leapNoon with date := birth }).check
      (.text "53009295028273") = .ok () :=
    Rule.before_check_eq_ok.mpr ⟨birth, hbirth, Nat.le_refl birth.key⟩
  have haccepted : ((Setting.age (.int 18)).apply .default).birthDateFailures leapNoon
      (twoDates "53009295028273" "0") = .ok [] := by decide +kernel
  exact ⟨htime, hcalendar, _, _, hfirst, hsecond, by decide, hborn, hkept _ hborn,
    hpolicy .default .default _ haccepted hborn⟩

end Policy
end IdentityProof
