import IdentityProof.Proofs.Signal.LeadingZeros
import IdentityProof.Proofs.Signal.Numeral

/-! The texts that spell a date. Beside six digits the reader takes months and days of one digit, so
that a signal of four to six characters may hold a date that packs into another number. -/

namespace IdentityProof.PackedDate

variable {a b c : Char} {cs rest left : List Char} {month day : Nat}

theorem isDecimalDigit_of_isBetween {low high : Char} (hlow : '0' ≤ low) (hhigh : high ≤ '9')
    (h : isBetween low high c = true) : isDecimalDigit c = true := by
  obtain ⟨hfrom, hto⟩ := Bool.and_eq_true_iff.mp h
  exact Bool.and_eq_true_iff.mpr ⟨decide_eq_true (Char.le_trans hlow (of_decide_eq_true hfrom)),
    decide_eq_true (Char.le_trans (of_decide_eq_true hto) hhigh)⟩

theorem exists_tens_ones (ha : isDecimalDigit a = true) (hb : isDecimalDigit b = true) :
    ∃ n < 100, a = tens n ∧ b = ones n := by
  obtain ⟨i, hi, rfl⟩ := exists_digitChar ha
  obtain ⟨j, hj, rfl⟩ := exists_digitChar hb
  refine ⟨i * 10 + j, by omega, congrArg Nat.digitChar ?_, congrArg Nat.digitChar ?_⟩ <;> omega

theorem of_mem_single {n : Nat} {more : List Char}
    (h : (n, rest) ∈ if isBetween '1' '9' a then [(twoDigits '0' a, more)] else []) :
    1 ≤ n ∧ n < 10 ∧ a = ones n ∧ more = rest := by
  have hone : ∀ n < 10, isBetween '1' '9' (ones n) = true → 1 ≤ n ∧ twoDigits '0' (ones n) = n := by
    decide
  split at h
  · rename_i ha
    obtain ⟨rfl, rfl⟩ := Prod.mk.inj (List.mem_singleton.mp h)
    obtain ⟨d, hd, hc⟩ := exists_digitChar (isDecimalDigit_of_isBetween (by decide) (by decide) ha)
    obtain rfl : a = ones d := by rw [hc, ones, Nat.mod_eq_of_lt hd]
    obtain ⟨hfrom, hvalue⟩ := hone d hd ha
    rw [hvalue]
    exact ⟨hfrom, hd, rfl, rfl⟩
  · exact nomatch h

theorem monthPair_iff : ∀ n < 100, (tens n == '1' && isBetween '0' '2' (ones n) ||
    tens n == '0' && isBetween '1' '9' (ones n)) = true ↔ 1 ≤ n ∧ n ≤ 12 := by decide

theorem dayPair_iff : ∀ n < 100, (tens n == '3' && isBetween '0' '1' (ones n) ||
    isBetween '1' '2' (tens n) && isBetween '0' '9' (ones n) ||
      tens n == '0' && isBetween '1' '9' (ones n)) = true ↔ 1 ≤ n ∧ n ≤ 31 := by decide

theorem exists_monthPair (h : (a == '1' && isBetween '0' '2' b ||
    a == '0' && isBetween '1' '9' b) = true) :
    ∃ n, 1 ≤ n ∧ n ≤ 12 ∧ a = tens n ∧ b = ones n ∧ twoDigits a b = n := by
  have hdigits : isDecimalDigit a = true ∧ isDecimalDigit b = true := by
    simp only [Bool.or_eq_true, Bool.and_eq_true, beq_iff_eq] at h
    rcases h with ⟨rfl, hb⟩ | ⟨rfl, hb⟩
    · exact ⟨rfl, isDecimalDigit_of_isBetween (by decide) (by decide) hb⟩
    · exact ⟨rfl, isDecimalDigit_of_isBetween (by decide) (by decide) hb⟩
  obtain ⟨n, hn, rfl, rfl⟩ := exists_tens_ones hdigits.1 hdigits.2
  obtain ⟨hfrom, hto⟩ := (monthPair_iff n hn).mp h
  exact ⟨n, hfrom, hto, rfl, rfl, twoDigits_of_lt n hn⟩

theorem exists_dayPair (h : (a == '3' && isBetween '0' '1' b ||
    isBetween '1' '2' a && isBetween '0' '9' b || a == '0' && isBetween '1' '9' b) = true) :
    ∃ n, 1 ≤ n ∧ n ≤ 31 ∧ a = tens n ∧ b = ones n ∧ twoDigits a b = n := by
  have hdigits : isDecimalDigit a = true ∧ isDecimalDigit b = true := by
    simp only [Bool.or_eq_true, Bool.and_eq_true, beq_iff_eq] at h
    rcases h with (⟨rfl, hb⟩ | ⟨ha, hb⟩) | ⟨rfl, hb⟩
    · exact ⟨rfl, isDecimalDigit_of_isBetween (by decide) (by decide) hb⟩
    · exact ⟨isDecimalDigit_of_isBetween (by decide) (by decide) ha, hb⟩
    · exact ⟨rfl, isDecimalDigit_of_isBetween (by decide) (by decide) hb⟩
  obtain ⟨n, hn, rfl, rfl⟩ := exists_tens_ones hdigits.1 hdigits.2
  obtain ⟨hfrom, hto⟩ := (dayPair_iff n hn).mp h
  exact ⟨n, hfrom, hto, rfl, rfl, twoDigits_of_lt n hn⟩

theorem of_mem_monthReadings (h : (month, rest) ∈ monthReadings cs) :
    1 ≤ month ∧ month ≤ 12 ∧
      (cs = tens month :: ones month :: rest ∨ month < 10 ∧ cs = ones month :: rest) := by
  match cs, h with
  | [a], h =>
    obtain ⟨hfrom, hten, rfl, rfl⟩ := of_mem_single h
    exact ⟨hfrom, by omega, .inr ⟨hten, rfl⟩⟩
  | a :: b :: more, h =>
    have hread : (month, rest) = (twoDigits a b, more) ∧ (a == '1' && isBetween '0' '2' b ||
        a == '0' && isBetween '1' '9' b) = true ∨
        (month, rest) ∈ if isBetween '1' '9' a then [(twoDigits '0' a, b :: more)] else [] := by
      unfold monthReadings at h
      simp only at h
      split at h
      · rename_i hpair
        exact (List.mem_cons.mp h).imp_left fun h => ⟨h, hpair⟩
      · exact .inr h
    rcases hread with ⟨h, hpair⟩ | h
    · obtain ⟨n, hfrom, hto, rfl, rfl, hvalue⟩ := exists_monthPair hpair
      obtain ⟨rfl, rfl⟩ := Prod.mk.inj h
      rw [hvalue]
      exact ⟨hfrom, hto, .inl rfl⟩
    · obtain ⟨hfrom, hten, rfl, rfl⟩ := of_mem_single h
      exact ⟨hfrom, by omega, .inr ⟨hten, rfl⟩⟩

theorem of_mem_dayReadings (h : (day, rest) ∈ dayReadings cs) :
    1 ≤ day ∧ day ≤ 31 ∧ (cs = tens day :: ones day :: rest ∨
      day < 10 ∧ (cs = ones day :: rest ∨ cs = ' ' :: ones day :: rest)) := by
  match cs, h with
  | [a], h =>
    obtain ⟨hfrom, hten, rfl, rfl⟩ := of_mem_single h
    exact ⟨hfrom, by omega, .inr ⟨hten, .inl rfl⟩⟩
  | a :: b :: more, h =>
    unfold dayReadings at h
    simp only at h
    rcases List.mem_append.mp h with h | h
    · rcases List.mem_append.mp h with h | h
      · split at h
        · rename_i hpair
          obtain ⟨n, hfrom, hto, rfl, rfl, hvalue⟩ := exists_dayPair hpair
          obtain ⟨rfl, rfl⟩ := Prod.mk.inj (List.mem_singleton.mp h)
          rw [hvalue]
          exact ⟨hfrom, hto, .inl rfl⟩
        · exact nomatch h
      · obtain ⟨hfrom, hten, rfl, rfl⟩ := of_mem_single h
        exact ⟨hfrom, by omega, .inr ⟨hten, .inl rfl⟩⟩
    · by_cases hspace : a = ' '
      · subst hspace
        obtain ⟨hfrom, hten, rfl, rfl⟩ := of_mem_single h
        exact ⟨hfrom, by omega, .inr ⟨hten, .inr rfl⟩⟩
      · rw [if_neg (by simp [hspace])] at h
        exact nomatch h

/-- The ways to write a month and a day so that they are read back. A month of one digit takes a
day of two digits unless it is January, which gives its 1 to the later months if it can. -/
inductive MonthDayText (month day : Nat) : List Char → Prop where
  | full : MonthDayText month day [tens month, ones month, tens day, ones day]
  | dayDigit (hd : day < 10) : MonthDayText month day [tens month, ones month, ones day]
  | daySpaced (hd : day < 10) : MonthDayText month day [tens month, ones month, ' ', ones day]
  | monthDigit (hm : month < 10) (hjanuary : month = 1 → day % 10 = 0 ∨ day = 31) :
    MonthDayText month day [ones month, tens day, ones day]
  | digits (hm : month < 10) (hd : day < 10) : MonthDayText month day [ones month, ones day]
  | digitSpaced (hm : month < 10) (hd : day < 10) :
    MonthDayText month day [ones month, ' ', ones day]

theorem monthAndDay?_of_first {months days : List (Nat × List Char)}
    (hm : monthReadings cs = (month, rest) :: months)
    (hd : dayReadings rest = (day, left) :: days) : monthAndDay? cs = some (month, day, left) := by
  unfold monthAndDay?
  rw [hm, List.findSome?_cons]
  simp only [hd, List.head?_cons, Option.map_some]

theorem dayReadings_digit (hfrom : 1 ≤ day) (hten : day < 10) :
    dayReadings [ones day] = [(day, [])] ∧ dayReadings [' ', ones day] = [(day, [])] := by
  have hall : ∀ d < 10, 1 ≤ d → dayReadings [ones d] = [(d, [])] ∧
      dayReadings [' ', ones d] = [(d, [])] := by decide
  exact hall day hten hfrom

theorem monthAndDay?_of_digit {days : List (Nat × List Char)} (hfrom : 1 ≤ month)
    (hten : month < 10) (hday : dayReadings (c :: rest) = (day, left) :: days)
    (hskip : month = 1 → isBetween '0' '2' c = true → dayReadings rest = []) :
    monthAndDay? (ones month :: c :: rest) = some (month, day, left) := by
  have hall : ∀ m < 10, 1 ≤ m → isBetween '1' '9' (ones m) = true ∧ twoDigits '0' (ones m) = m ∧
      ones m ≠ '0' ∧ (ones m = '1' → m = 1) := by decide
  obtain ⟨hone, hvalue, hzero, hjanuary⟩ := hall month hten hfrom
  by_cases hpair : ones month = '1' ∧ isBetween '0' '2' c = true
  · obtain ⟨hmonth, hc⟩ := hpair
    have hnone := hskip (hjanuary hmonth) hc
    have hm : monthReadings (ones month :: c :: rest) =
        [(twoDigits (ones month) c, rest), (month, c :: rest)] := by
      simp [monthReadings, hone, hvalue, hc, beq_iff_eq.mpr hmonth]
    simp [monthAndDay?, hm, hnone, hday]
  · have hm : monthReadings (ones month :: c :: rest) = [(month, c :: rest)] := by
      simp [monthReadings, hone, hvalue, hzero, hpair]
    exact monthAndDay?_of_first hm hday

theorem of_january : ∀ d < 32, (monthAndDay? [ones 1, tens d, ones d]).map Prod.fst = some 1 →
    d % 10 = 0 ∨ d = 31 := by
  decide

theorem not_later_of_day (h : day % 10 = 0 ∨ day = 31) (hc : isBetween '0' '2' (tens day) = true) :
    dayReadings [ones day] = [] := by
  rcases h with h | rfl
  · rw [ones, h]
    rfl
  · exact absurd hc (by decide)

theorem monthDayText_of_eq (h : monthAndDay? cs = some (month, day, [])) :
    1 ≤ month ∧ month ≤ 12 ∧ 1 ≤ day ∧ day ≤ 31 ∧ MonthDayText month day cs := by
  obtain ⟨⟨m, rest⟩, hm, hday⟩ := List.exists_of_findSome?_eq_some h
  obtain ⟨⟨d, left⟩, hd, heq⟩ := Option.map_eq_some_iff.mp hday
  simp only [Prod.mk.injEq] at heq
  obtain ⟨rfl, rfl, rfl⟩ := heq
  obtain ⟨hm1, hm12, hmonth⟩ := of_mem_monthReadings hm
  obtain ⟨hd1, hd31, hday⟩ := of_mem_dayReadings (List.mem_of_mem_head? hd)
  refine ⟨hm1, hm12, hd1, hd31, ?_⟩
  rcases hmonth with rfl | ⟨hmten, rfl⟩
  · rcases hday with rfl | ⟨hdten, rfl | rfl⟩
    · exact .full
    · exact .dayDigit hdten
    · exact .daySpaced hdten
  · rcases hday with rfl | ⟨hdten, rfl | rfl⟩
    · refine .monthDigit hmten ?_
      rintro rfl
      exact of_january d (by omega) (by rw [h]; rfl)
    · exact .digits hmten hdten
    · exact .digitSpaced hmten hdten

theorem MonthDayText.read (h : MonthDayText month day cs) (hm : 1 ≤ month) (hm' : month ≤ 12)
    (hd : 1 ≤ day) (hd' : day ≤ 31) : monthAndDay? cs = some (month, day, []) := by
  have htwo : ∀ rest, ∃ months, monthReadings (tens month :: ones month :: rest) =
      (month, rest) :: months := monthReadings_two hm hm'
  cases h with
  | full => exact monthAndDay?_two hm hm' hd hd'
  | dayDigit hten =>
    obtain ⟨months, hmonths⟩ := htwo [ones day]
    exact monthAndDay?_of_first hmonths (dayReadings_digit hd hten).1
  | daySpaced hten =>
    obtain ⟨months, hmonths⟩ := htwo [' ', ones day]
    exact monthAndDay?_of_first hmonths (dayReadings_digit hd hten).2
  | monthDigit hmten hjanuary =>
    obtain ⟨days, hdays⟩ := dayReadings_two hd hd' []
    exact monthAndDay?_of_digit hm hmten hdays fun h => not_later_of_day (hjanuary h)
  | digits hmten hten =>
    exact monthAndDay?_of_digit hm hmten (dayReadings_digit hd hten).1 fun _ _ => rfl
  | digitSpaced hmten hten =>
    exact monthAndDay?_of_digit hm hmten (dayReadings_digit hd hten).2 fun _ h => nomatch h

/-- The text spells the date: two digits for a year of 1969 to 2068, and its month and day. -/
def SpellsDate (cs : List Char) (d : Date) : Prop :=
  1969 ≤ d.year ∧ d.year ≤ 2068 ∧ ∃ rest,
    cs = tens (d.year % 100) :: ones (d.year % 100) :: rest ∧ MonthDayText d.month d.day rest

theorem parse_eq_ok {text : String} {d : Date} (h : parse text = .ok d) :
    ∃ yy < 100, ∃ rest, text.toList = tens yy :: ones yy :: rest ∧ d.year = fullYear yy ∧
      monthAndDay? rest = some (d.month, d.day, []) := by
  unfold parse at h
  split at h
  · rename_i a b rest htext
    by_cases hdigits : (isBetween '0' '9' a && isBetween '0' '9' b) = true
    · rw [if_pos hdigits] at h
      obtain ⟨ha, hb⟩ := Bool.and_eq_true_iff.mp hdigits
      obtain ⟨yy, hlt, rfl, rfl⟩ := exists_tens_ones ha hb
      rw [twoDigits_of_lt yy hlt] at h
      cases hread : monthAndDay? rest with
      | none =>
        rw [hread] at h
        exact nomatch h
      | some found =>
        obtain ⟨month, day, left⟩ := found
        rw [hread] at h
        cases left with
        | cons c left => exact nomatch h
        | nil =>
          by_cases hday : IsDay (fullYear yy) month day
          · obtain rfl := Except.ok.inj ((dif_pos hday).symm.trans h)
            exact ⟨yy, hlt, rest, htext, rfl, hread⟩
          · exact nomatch (dif_neg hday).symm.trans h
    · rw [if_neg hdigits] at h
      exact nomatch h
  · exact nomatch h

theorem parse_eq_ok_iff {text : String} {d : Date} :
    parse text = .ok d ↔ SpellsDate text.toList d := by
  constructor
  · intro h
    obtain ⟨yy, hlt, rest, htext, hyear, hread⟩ := parse_eq_ok h
    obtain ⟨-, -, -, -, hrest⟩ := monthDayText_of_eq hread
    obtain ⟨hfrom, hto⟩ := fullYear_range yy
    rw [Nat.mod_eq_of_lt hlt, ← hyear] at hfrom hto
    have hmod : d.year % 100 = yy := hyear ▸ fullYear_mod hlt
    exact ⟨hfrom, hto, rest, hmod.symm ▸ htext, hrest⟩
  · rintro ⟨hfrom, hto, rest, htext, hrest⟩
    obtain ⟨hm, hm', hd, hd'⟩ := d.month_day_le
    have hlt : d.year % 100 < 100 := Nat.mod_lt _ (by decide)
    obtain ⟨hten, hone⟩ := isBetween_of_lt _ hlt
    have hvalid : IsDay (fullYear (d.year % 100)) d.month d.day :=
      (fullYear_of_range hfrom hto).symm ▸ d.valid
    unfold parse
    simp only [htext, hten, hone, Bool.and_self, if_true, hrest.read hm hm' hd hd',
      List.isEmpty_nil, Bool.not_true, Bool.false_eq_true, if_false, twoDigits_of_lt _ hlt,
      dif_pos hvalid]
    exact congrArg Except.ok (Date.eq_of_fields (fullYear_of_range hfrom hto) rfl rfl)

variable {signal : String} {n : Nat} {d : Date}

def textOf (n : Nat) : List Char := Text.latin1 (Bytes.ofNatMinimal n)

theorem unpack_of_none (h : parseDecimal signal = .ok none) :
    unpack signal = refuse (.notDecimal (Text.quoted signal)) := by
  unfold unpack
  rw [h]
  rfl

theorem unpack_of_fault {f : Fault} (h : parseDecimal signal = .error f) :
    unpack signal = .error (.fault f) := by
  unfold unpack
  rw [h]
  rfl

theorem unpack_of_number (h : parseDecimal signal = .ok (some n)) : unpack signal =
    (parse (String.ofList (textOf n))).mapError fun why => .refused (.badDate why) := by
  have htext : Packing.unpackText signal = .ok (String.ofList (textOf n)) := by
    unfold Packing.unpackText
    rw [Packing.unpack_of_decimal h]
    rfl
  unfold unpack
  rw [h, htext]
  simp only [Fault.lift, Except.mapError, bind, Except.bind]
  cases parse (String.ofList (textOf n)) <;> rfl

theorem unpack_eq_ok_iff : unpack signal = .ok d ↔
    ∃ n, parseDecimal signal = .ok (some n) ∧ SpellsDate (textOf n) d := by
  cases h : parseDecimal signal with
  | error f => simp [unpack_of_fault h]
  | ok n? =>
    cases n? with
    | none => simp [unpack_of_none h, refuse]
    | some n =>
      rw [unpack_of_number h, mapError_eq_ok, parse_eq_ok_iff, String.toList_ofList]
      simp

theorem unpack_fault_iff {f : Fault} :
    unpack signal = .error (.fault f) ↔ parseDecimal signal = .error f := by
  cases h : parseDecimal signal with
  | error g => simp [unpack_of_fault h]
  | ok n? =>
    cases n? with
    | none => simp [unpack_of_none h, refuse]
    | some n =>
      rw [unpack_of_number h]
      cases parse (String.ofList (textOf n)) <;> simp [Except.mapError]

theorem unpack_refused_iff : (∃ e, unpack signal = .error (.refused e)) ↔
    (∃ n?, parseDecimal signal = .ok n?) ∧ ∀ d, unpack signal ≠ .ok d := by
  cases h : unpack signal with
  | ok d => simp
  | error raised =>
    cases raised with
    | fault f => simp [unpack_fault_iff.mp h]
    | refused e =>
      cases hn : parseDecimal signal with
      | error f => exact nomatch (unpack_of_fault hn).symm.trans h
      | ok n? => simp

theorem textOf_eq_digits_iff : textOf n = digits d ↔
    Bytes.toNat ((digits d).map fun c => UInt8.ofNat c.toNat) = n := by
  have hfits : ∀ c ∈ digits d, c.toNat < 256 := fun c hc => (toNat_digits hc).2
  constructor
  · intro h
    have hbytes : Except.ok (Bytes.ofNatMinimal n) = Text.encodeLatin1 (digits d) := by
      rw [← h, textOf, Text.encodeLatin1_latin1]
    rw [Text.encodeLatin1_of_forall hfits] at hbytes
    rw [← Except.ok.inj hbytes, Bytes.toNat_ofNatMinimal]
  · rintro rfl
    -- the first digit of the year keeps the bytes from beginning with zero
    have hlead : ¬ Bytes.LeadsWithZero ((digits d).map fun c => UInt8.ofNat c.toNat) := by
      obtain ⟨hzero, hlt⟩ := toNat_digits (List.mem_cons_self : _ ∈ digits d)
      exact fun h => Text.byte_ne_zero hzero hlt (Option.some.inj h)
    rw [textOf, Bytes.ofNatMinimal_eq_iff.mpr ⟨rfl, hlead⟩, Text.latin1_encoded hfits]

theorem pack_eq_toString_iff : pack d = .ok (toString n) ↔ textOf n = digits d := by
  rw [pack_eq, textOf_eq_digits_iff, Except.ok.injEq, toString_inj]

theorem spellsDate_digits : SpellsDate (digits d) d ↔ 1969 ≤ d.year ∧ d.year ≤ 2068 :=
  ⟨fun ⟨hfrom, hto, _⟩ => ⟨hfrom, hto⟩, fun ⟨hfrom, hto⟩ => ⟨hfrom, hto, _, rfl, .full⟩⟩

/-- What is read of a signal as a date, for every signal: the date that the text of its number
spells, a refusal where it spells none, and a fault only where the number has one. The number is the
one that its date packs into just where its text is the six digits of the date. -/
theorem unpack_outcomes (signal : String) :
    (∀ d, unpack signal = .ok d ↔
      ∃ n, parseDecimal signal = .ok (some n) ∧ SpellsDate (textOf n) d) ∧
    ((∃ e, unpack signal = .error (.refused e)) ↔
      (∃ n?, parseDecimal signal = .ok n?) ∧ ∀ d, unpack signal ≠ .ok d) ∧
    (∀ f, unpack signal = .error (.fault f) ↔ parseDecimal signal = .error f) ∧
    (∀ d, (∃ n, unpack signal = .ok d ∧ parseDecimal signal = .ok (some n) ∧
        pack d = .ok (toString n)) ↔
      ∃ n, parseDecimal signal = .ok (some n) ∧ textOf n = digits d ∧
        1969 ≤ d.year ∧ d.year ≤ 2068) := by
  refine ⟨fun d => unpack_eq_ok_iff, unpack_refused_iff, fun f => unpack_fault_iff, fun d => ?_⟩
  constructor
  · rintro ⟨n, hread, hn, hpack⟩
    obtain ⟨-, -, hfrom, hto, -⟩ := unpack_eq_ok_iff.mp hread
    exact ⟨n, hn, pack_eq_toString_iff.mp hpack, hfrom, hto⟩
  · rintro ⟨n, hn, htext, hrange⟩
    have hspells : SpellsDate (textOf n) d := htext.symm ▸ spellsDate_digits.mpr hrange
    exact ⟨n, unpack_eq_ok_iff.mpr ⟨n, hn, hspells⟩, hn, pack_eq_toString_iff.mpr htext⟩

/-- Five characters that spell a day of June 2024, with one digit for the month. -/
theorem monthDigit_read : ∃ d : Date, d.year = 2024 ∧ d.month = 6 ∧ d.day = 15 ∧
    unpack "215624331573" = .ok d ∧ textOf 215624331573 = ['2', '4', '6', '1', '5'] ∧
      pack d ≠ .ok "215624331573" := by
  have hpack : ∀ d, pack d ≠ .ok "215624331573" := by
    intro d h
    have hdigits : textOf 215624331573 = digits d := pack_eq_toString_iff.mp h
    exact nomatch (congrArg List.length hdigits : 5 = 6)
  exact ⟨⟨2024, 6, 15, by decide⟩, rfl, rfl, rfl, rfl, rfl, hpack _⟩

end IdentityProof.PackedDate
