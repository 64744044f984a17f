import IdentityProof.Proofs.Rule.Age
import IdentityProof.Proofs.Signal.RoundTrip
import IdentityProof.Proofs.Verification.Faults

/-! Ages of honest holders. A packed date keeps two digits of its year, so the check is right about
everyone born from 1969 on, and takes who was born before for a hundred years younger. -/

namespace IdentityProof

theorem Overlong.lt_length {signal : String} (h : Overlong signal) :
    Integer.digitLimit < signal.length := by
  obtain ⟨digits, hdigits, hlong⟩ := h
  obtain ⟨-, -, hshape⟩ := decimalDigits?_eq_some hdigits
  have hle : digits.length ≤ signal.toList.length := by
    rcases hshape with hall | hall <;> rw [hall]
    rw [List.length_append]
    exact Nat.le_add_right _ _
  rw [String.length_toList] at hle
  exact Nat.lt_of_lt_of_le hlong hle

namespace PackedDate

variable {signal : String} {d : Date}

theorem not_overlong_of_pack (h : pack d = .ok signal) : ¬ Overlong signal := by
  intro hlong
  obtain ⟨f, hf⟩ := meetsFault_unpack.mpr hlong
  exact nomatch (unpack_of_pack h).symm.trans hf

theorem before_check_pack {point : Moment} (h : pack d = .ok signal) :
    (Rule.date .before point).check (.text signal) = .ok () ↔
      (readBack d).key ≤ point.date.key := by
  rw [Rule.before_check_eq_ok, unpack_of_pack h]
  simp only [Except.ok.injEq, exists_eq_left']

theorem equal_check_pack {point : Moment} (h : pack d = .ok signal) :
    (Rule.date .equal point).check (.text signal) = .ok () ↔ readBack d = point.date := by
  rw [Rule.date_check_eq_ok, unpack_of_pack h]
  simp only [Except.ok.injEq, exists_eq_left', DateMode.Refuses, Classical.not_not]

/-- Who was born in the last 120 years and before 1969 is taken for a hundred years younger, and
for not yet born if that was before 1869. -/
theorem readBack_key_le_iff {birth cutoff : Date} {year : Nat} (hle : birth.key ≤ cutoff.key)
    (hcutoff : cutoff.year ≤ year) (hyear : year ≤ 2068) (hlast : year ≤ birth.year + 120)
    (hfrom : 1969 ≤ year) :
    (readBack birth).key ≤ cutoff.key ↔
      1969 ≤ birth.year ∨ (1869 ≤ birth.year ∧ birth.Completed 100 cutoff) := by
  have hfields := Date.key_le_key.mp hle
  rcases Nat.lt_or_ge birth.year 1969 with hearly | hlate
  · have hfound : (1869 ≤ birth.year ∧ (readBack birth).year = birth.year + 100) ∨
        (birth.year < 1869 ∧ (readBack birth).year = birth.year + 200) := by
      change _ ∧ fullYear (birth.year % 100) = _ ∨ _ ∧ fullYear (birth.year % 100) = _
      unfold fullYear
      split <;> omega
    have hmonth : (readBack birth).month = birth.month := rfl
    have hday : (readBack birth).day = birth.day := rfl
    rw [Date.key_le_key, hmonth, hday]
    unfold Date.Completed
    omega
  · have hsame : readBack birth = birth := readBack_eq_self.mpr (by omega)
    rw [hsame]
    exact iff_of_true hle (.inl hlate)

end PackedDate

theorem Rule.requiredDate_pass {mode : DateMode} {point : Moment} {s : String} :
    checkAll [.required, .date mode point] (.text s) = .ok .pass ↔
      (Rule.date mode point).check (.text s) = .ok () := by
  have hblank : (Rule.date mode point).check (.text s) = .ok () →
      Rule.required.check (.text s) = .ok () := by
    intro hdate
    obtain ⟨date, hd, -⟩ := date_check_eq_ok.mp hdate
    have hne : s ≠ "" := by
      rintro rfl
      exact nomatch hd
    simp [check, hne]
  refine (Outcome.ofCheck_eq_pass.trans forM_eq_ok).trans ?_
  simp only [List.forall_mem_cons, List.not_mem_nil, false_imp_iff, implies_true, and_true,
    and_iff_right_iff_imp]
  exact hblank

namespace Policy

variable {p : Policy} {now : Moment} {signal : Signal → String}

theorem birthDateFailures_eq_nil {years : Int} {cutoff : Moment} (hset : p.age.isUnset = false)
    (hy : p.age.toInteger = .ok years) (hc : now.yearsAgo years = .ok cutoff)
    (hshown : ¬ Overlong (signal .birthDate)) (hbound : ¬ Overlong (signal .birthDateUpperBound)) :
    ∃ failures, p.birthDateFailures now signal = .ok failures ∧
      (failures = [] ↔ (Rule.date .before cutoff).check (.text (signal .birthDate)) = .ok () ∨
        (Rule.date .equal cutoff).check (.text (signal .birthDateUpperBound)) = .ok ()) := by
  have hpaths : Signal.birthDate.path ≠ Signal.birthDateUpperBound.path := fun he =>
    nomatch Signal.path_injective he
  have hends (mode : DateMode) {text : String} (h : ¬ Overlong text) :
      ∃ outcome, Rule.checkAll [.required, .date mode cutoff] (.text text) = .ok outcome := by
    cases ho : Rule.checkAll [.required, .date mode cutoff] (.text text) with
    | ok outcome => exact ⟨outcome, rfl⟩
    | error f => exact absurd ((isError_requiredDates (mode, cutoff) []).mp ⟨f, ho⟩) h
  obtain ⟨shown, hs⟩ := hends .before hshown
  obtain ⟨bounded, hb⟩ := hends .equal hbound
  refine ⟨Failures.ofEither (Signal.birthDate.path, shown)
    (Signal.birthDateUpperBound.path, bounded), ?_, ?_⟩
  · unfold birthDateFailures
    simp only [hset, hy, hc, hs, hb, bind, Except.bind, Bool.false_eq_true, if_false]
    rfl
  · rw [Failures.ofEither_eq_nil hpaths, ← Rule.requiredDate_pass, ← Rule.requiredDate_pass, hs, hb]
    have hskip : shown ≠ .skipped := fun he => Rule.checkAll_ne_skipped (he ▸ hs)
    simp only [Except.ok.injEq, hskip, false_and, or_false]

theorem age_isUnset_iff {years : Json} {k : Nat} (h : years.toInteger = .ok (k : Int)) :
    years.isUnset = true ↔ years = .bool false := by
  rcases Json.toInteger_cases h with rfl | ⟨b, rfl, -⟩
  · have hset : ((k : Int) == -1) = false := beq_eq_false_iff_ne.mpr (by omega)
    change ((k : Int) == -1) = true ↔ _
    rw [hset]
    exact iff_of_false Bool.false_ne_true nofun
  · cases b with
    | false => exact iff_of_true rfl rfl
    | true => exact iff_of_false nofun nofun

theorem birthDateFailures_age (p : Policy) {years : Json} {k : Nat} {cutoff : Moment}
    (hn : years.toInteger = .ok (k : Int)) (hc : now.yearsAgo k = .ok cutoff)
    (hshown : ¬ Overlong (signal .birthDate)) (hbound : ¬ Overlong (signal .birthDateUpperBound)) :
    ∃ failures, ((Setting.age years).apply p).birthDateFailures now signal = .ok failures ∧
      (failures = [] ↔ years = .bool false ∨
        (Rule.date .before cutoff).check (.text (signal .birthDate)) = .ok () ∨
          (Rule.date .equal cutoff).check (.text (signal .birthDateUpperBound)) = .ok ()) := by
  cases hu : years.isUnset with
  | true =>
    have hfalse := (age_isUnset_iff hn).mp hu
    refine ⟨[], ?_, iff_of_true rfl (.inl hfalse)⟩
    unfold birthDateFailures
    exact if_pos hu
  | false =>
    have hage : years ≠ .bool false := mt (age_isUnset_iff hn).mpr (Bool.eq_false_iff.mp hu)
    rw [or_iff_right hage]
    exact birthDateFailures_eq_nil hu hn hc hshown hbound

/-- For a holder of the age asked for, the check ends in a verdict whatever the other signal holds.
The exact day is told from 1969 on and a birth date from that year on is early enough. An earlier
day or date does not count as itself: the other signal has to pass, or the birth date lies so far
back that it would do a hundred years later. -/
theorem honest_age_iff {years : Json} {n : Int} {s : Setting} {now : Moment}
    (hset : Setting.ofAge years = .ok s) (hn : years.toInteger = .ok n) (hmost : n ≤ 120)
    (hfrom : 1969 ≤ now.date.year) (hto : now.date.year ≤ 2068) (p : Policy) :
    ∃ cutoff, now.yearsAgo n = .ok cutoff ∧
      (∃ packed, PackedDate.pack cutoff.date = .ok packed ∧
        ∀ signal : Signal → String, signal .birthDateUpperBound = packed →
          (signal .birthDate).length ≤ Integer.digitLimit →
            ∃ failures, (s.apply p).birthDateFailures now signal = .ok failures ∧
              (failures = [] ↔ years = .bool false ∨ 1969 ≤ cutoff.date.year ∨
                (Rule.date .before cutoff).check (.text (signal .birthDate)) = .ok ())) ∧
      (∀ birth : Date, birth.key ≤ cutoff.date.key → now.date.year ≤ birth.year + 120 →
        ∃ packed, PackedDate.pack birth = .ok packed ∧
          ∀ signal : Signal → String, signal .birthDate = packed →
            (signal .birthDateUpperBound).length ≤ Integer.digitLimit →
              ∃ failures, (s.apply p).birthDateFailures now signal = .ok failures ∧
                (failures = [] ↔ years = .bool false ∨ 1969 ≤ birth.year ∨
                  (1869 ≤ birth.year ∧ birth.Completed 100 cutoff.date) ∨
                    (Rule.date .equal cutoff).check (.text (signal .birthDateUpperBound)) =
                      .ok ())) := by
  obtain rfl := Setting.ofAge_eq_ok hset
  obtain ⟨k, rfl⟩ := Int.eq_ofNat_of_zero_le (Setting.nonneg_of_ofAge hset hn)
  have hcalendar : k < now.date.year := by omega
  obtain ⟨cutoff, hcutoff, hbefore⟩ := Moment.yearsAgo_of_lt hcalendar
  have hyear := hbefore.year
  refine ⟨cutoff, hcutoff, ?_, ?_⟩
  · refine ⟨_, PackedDate.pack_eq cutoff.date, fun signal hbound hlen => ?_⟩
    have hpack : PackedDate.pack cutoff.date = .ok (signal .birthDateUpperBound) := by
      rw [hbound, PackedDate.pack_eq]
    have hshown : ¬ Overlong (signal .birthDate) := mt Overlong.lt_length (Nat.not_lt.mpr hlen)
    obtain ⟨failures, hf, hnil⟩ :=
      birthDateFailures_age p hn hcutoff hshown (PackedDate.not_overlong_of_pack hpack)
    have hpasses : PackedDate.readBack cutoff.date = cutoff.date ↔ 1969 ≤ cutoff.date.year := by
      rw [PackedDate.readBack_eq_self]
      omega
    refine ⟨failures, hf, hnil.trans (or_congr_right ?_)⟩
    rw [PackedDate.equal_check_pack hpack, hpasses, or_comm]
  · intro birth hle hlast
    refine ⟨_, PackedDate.pack_eq birth, fun signal hshown hlen => ?_⟩
    have hpack : PackedDate.pack birth = .ok (signal .birthDate) := by
      rw [hshown, PackedDate.pack_eq]
    have hbound : ¬ Overlong (signal .birthDateUpperBound) :=
      mt Overlong.lt_length (Nat.not_lt.mpr hlen)
    obtain ⟨failures, hf, hnil⟩ :=
      birthDateFailures_age p hn hcutoff (PackedDate.not_overlong_of_pack hpack) hbound
    have hpasses := PackedDate.readBack_key_le_iff hle (by omega) hto hlast hfrom
    refine ⟨failures, hf, hnil.trans (or_congr_right ?_)⟩
    rw [PackedDate.before_check_pack hpack, hpasses, or_assoc]

def twoDates (birthDate bound : String) : Signal → String
  | .birthDate => birthDate
  | .birthDateUpperBound => bound
  | _ => "0"

def summerDay : Moment := .midnight ⟨2024, 6, 15, by decide⟩

theorem exactly_eighteen_accepted :
    Setting.ofAge (.int 18) = .ok (.age (.int 18)) ∧ 1969 ≤ summerDay.date.year ∧
      summerDay.date.year ≤ 2068 ∧
        ((Setting.age (.int 18)).apply .default).birthDateFailures summerDay
          (twoDates "0" "53009295225141") = .ok [] ∧
        ((Setting.age (.int 18)).apply .default).birthDateFailures summerDay
          (twoDates "53009295225141" "0") = .ok [] := by
  have hset : Setting.ofAge (.int 18) = .ok (.age (.int 18)) := rfl
  have hage : (Json.int 18).toInteger = .ok 18 := rfl
  have hmost : (18 : Int) ≤ 120 := by decide
  have hfrom : 1969 ≤ summerDay.date.year := by decide
  have hto : summerDay.date.year ≤ 2068 := by decide
  have hday : summerDay.yearsAgo 18 = .ok (.midnight ⟨2006, 6, 15, by decide⟩) := rfl
  have hpack : PackedDate.pack ⟨2006, 6, 15, by decide⟩ = .ok "53009295225141" := by
    rw [PackedDate.pack_eq]
    rfl
  have hshort : "0".length ≤ Integer.digitLimit := by decide
  have hlate : 1969 ≤ 2006 := by decide
  have hlast : 2024 ≤ 2006 + 120 := by decide
  obtain ⟨cutoff, hcutoff, ⟨packed, hpacked, hbound⟩, hshown⟩ :=
    honest_age_iff hset hage hmost hfrom hto .default
  obtain rfl := Except.ok.inj (hcutoff.symm.trans hday)
  obtain rfl := Except.ok.inj (hpacked.symm.trans hpack)
  obtain ⟨failures, hf, hnil⟩ := hbound (twoDates "0" "53009295225141") rfl hshort
  obtain rfl := hnil.mpr (.inr (.inl hlate))
  obtain ⟨packed, hpacked', hbirth⟩ := hshown _ (Nat.le_refl _) hlast
  obtain rfl := Except.ok.inj (hpacked'.symm.trans hpack)
  obtain ⟨failures, hf', hnil'⟩ := hbirth (twoDates "53009295225141" "0") rfl hshort
  obtain rfl := hnil'.mpr (.inr (.inl hlate))
  exact ⟨hset, hfrom, hto, hf, hf'⟩

def sixtyYearsBefore : Moment := .midnight ⟨1964, 6, 15, by decide⟩

/-- The day sixty years before is found as a day of 2064. -/
theorem exactly_sixty_refused :
    Setting.ofAge (.int 60) = .ok (.age (.int 60)) ∧
      summerDay.yearsAgo 60 = .ok sixtyYearsBefore ∧
        PackedDate.pack sixtyYearsBefore.date = .ok "59597775057205" ∧
          ∃ failures, ((Setting.age (.int 60)).apply .default).birthDateFailures summerDay
            (twoDates "0" "59597775057205") = .ok failures ∧ failures ≠ [] := by
  have hset : Setting.ofAge (.int 60) = .ok (.age (.int 60)) := rfl
  have hage : (Json.int 60).toInteger = .ok 60 := rfl
  have hday : summerDay.yearsAgo 60 = .ok sixtyYearsBefore := rfl
  have hpack : PackedDate.pack sixtyYearsBefore.date = .ok "59597775057205" := by
    rw [PackedDate.pack_eq]
    rfl
  have hzero : PackedDate.unpack "0" = .error (.refused (.badDate (.noMatch ""))) := rfl
  have hshown : ¬ Overlong "0" := by
    intro hlong
    have hlength : Integer.digitLimit < 1 := hlong.lt_length
    exact absurd hlength (by decide)
  have hearly : PackedDate.readBack sixtyYearsBefore.date ≠ sixtyYearsBefore.date := by decide
  let signal : Signal → String := twoDates "0" "59597775057205"
  have hbound : ¬ Overlong (signal .birthDateUpperBound) := PackedDate.not_overlong_of_pack hpack
  obtain ⟨failures, hf, hnil⟩ := birthDateFailures_age .default hage hday hshown hbound
  refine ⟨hset, hday, hpack, failures, hf, mt hnil.mp ?_⟩
  rintro (hfalse | hdate | hdate)
  · exact nomatch hfalse
  · obtain ⟨date, hd, -⟩ := Rule.before_check_eq_ok.mp hdate
    exact nomatch hzero.symm.trans hd
  · exact hearly ((PackedDate.equal_check_pack hpack).mp hdate)

end Policy
end IdentityProof
