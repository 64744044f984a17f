import IdentityProof.Proofs.Root.Spelling
import IdentityProof.Proofs.Signal.RoundTrip

/-! Numerals and what is read of them. The reader takes the numerals of up to 4300 digits and, beyond
the grammar, one line feed behind a numeral. A longer one is a fault, and all else is no decimal. -/

namespace IdentityProof

/-- A row of digits and the number that it spells in base ten. -/
inductive Numeral : List Char → Nat → Prop where
  | digit {d : Nat} (hd : d < 10) : Numeral [Nat.digitChar d] d
  | concat {cs : List Char} {n d : Nat} (hcs : Numeral cs n) (hd : d < 10) :
    Numeral (cs ++ [Nat.digitChar d]) (n * 10 + d)

theorem isDecimalDigit_digitChar : ∀ d < 10, isDecimalDigit (Nat.digitChar d) = true := by decide

theorem exists_digitChar {c : Char} (h : isDecimalDigit c = true) :
    ∃ d < 10, c = Nat.digitChar d :=
  forall_digit (P := fun c => ∃ d < 10, c = Nat.digitChar d) (by decide) h

namespace Integer

theorem digit?_digitChar : ∀ d < 10, (Radix.ten.digit? (Nat.digitChar d)).getD 0 = d := by decide

theorem valueOf_concat (cs : List Char) {d : Nat} (hd : d < 10) :
    valueOf .ten (cs ++ [Nat.digitChar d]) = valueOf .ten cs * 10 + d := by
  unfold valueOf
  rw [List.foldl_append, List.foldl_cons, List.foldl_nil, digit?_digitChar d hd]
  rfl

theorem valueOf_digitChar {d : Nat} (hd : d < 10) : valueOf .ten [Nat.digitChar d] = d :=
  (valueOf_concat [] hd).trans (Nat.zero_add d)

end Integer

namespace Numeral

variable {cs : List Char} {n : Nat}

theorem areDigits (h : Numeral cs n) : AreDigits cs := by
  induction h with
  | digit hd => exact List.forall_mem_singleton.mpr (isDecimalDigit_digitChar _ hd)
  | concat hcs hd ih =>
    exact List.forall_mem_append.mpr
      ⟨ih, List.forall_mem_singleton.mpr (isDecimalDigit_digitChar _ hd)⟩

theorem ne_nil (h : Numeral cs n) : cs ≠ [] := by
  cases h with
  | digit hd => exact List.cons_ne_nil _ _
  | concat hcs hd => exact List.append_ne_nil_of_right_ne_nil _ (List.cons_ne_nil _ _)

theorem valueOf_eq (h : Numeral cs n) : Integer.valueOf .ten cs = n := by
  induction h with
  | digit hd => exact Integer.valueOf_digitChar hd
  | concat hcs hd ih => rw [Integer.valueOf_concat _ hd, ih]

theorem of_areDigits (hd : AreDigits cs) (hne : cs ≠ []) :
    Numeral cs (Integer.valueOf .ten cs) := by
  induction cs using List.reverseRecOn with
  | nil => exact absurd rfl hne
  | append_singleton cs c ih =>
    obtain ⟨hcs, hc⟩ := List.forall_mem_append.mp hd
    obtain ⟨d, hten, rfl⟩ := exists_digitChar (hc c List.mem_cons_self)
    by_cases hnil : cs = []
    · rw [hnil, List.nil_append, Integer.valueOf_digitChar hten]
      exact digit hten
    · rw [Integer.valueOf_concat cs hten]
      exact concat (ih hcs hnil) hten

end Numeral

/-- The text is the row of digits, or that row with a line feed behind it. -/
def IsLineOf (s : String) (digits : List Char) : Prop :=
  s.toList = digits ∨ s.toList = digits ++ ['\n']

theorem decimalDigits?_eq_some_iff {s : String} {digits : List Char} :
    decimalDigits? s.toList = some digits ↔ (∃ n, Numeral digits n) ∧ IsLineOf s digits := by
  constructor
  · intro h
    obtain ⟨hd, hne, hshape⟩ := decimalDigits?_eq_some h
    exact ⟨⟨_, .of_areDigits hd hne⟩, hshape⟩
  · rintro ⟨⟨n, hn⟩, hline⟩
    have hd := hn.areDigits
    have hfeed : isDecimalDigit '\n' = false := rfl
    rcases hline with hs | hs
    · rw [hs]
      exact decimalDigits?_digits hd hn.ne_nil
    · unfold decimalDigits?
      rw [hs, List.takeWhile_append_of_pos hd, List.dropWhile_append_of_pos hd]
      simp [hfeed, hn.ne_nil]

variable {s : String} {digits : List Char} {n : Nat}

theorem parseDecimal_of_numeral (hn : Numeral digits n) (hs : IsLineOf s digits) :
    parseDecimal s = if Integer.digitLimit < digits.length then
        .error (.integer (.tooLong digits.length))
      else .ok (some n) := by
  unfold parseDecimal
  rw [decimalDigits?_eq_some_iff.mpr ⟨⟨n, hn⟩, hs⟩]
  simp only [hn.valueOf_eq]

theorem parseDecimal_eq_none_iff :
    parseDecimal s = .ok none ↔ ∀ digits n, Numeral digits n → ¬ IsLineOf s digits := by
  unfold parseDecimal
  cases hd : decimalDigits? s.toList with
  | none =>
    refine iff_of_true rfl fun digits n hn hs => ?_
    exact nomatch hd.symm.trans (decimalDigits?_eq_some_iff.mpr ⟨⟨n, hn⟩, hs⟩)
  | some digits =>
    obtain ⟨⟨n, hn⟩, hs⟩ := decimalDigits?_eq_some_iff.mp hd
    refine iff_of_false ?_ fun hno => hno digits n hn hs
    simp only
    split <;> exact nofun

theorem numeral_cases (s : String) :
    parseDecimal s = .ok none ∨ ∃ digits n, Numeral digits n ∧ IsLineOf s digits := by
  by_cases h : parseDecimal s = .ok none
  · exact .inl h
  · rw [parseDecimal_eq_none_iff] at h
    push Not at h
    exact .inr h

theorem parseDecimal_eq_some_iff : parseDecimal s = .ok (some n) ↔
    ∃ digits, Numeral digits n ∧ IsLineOf s digits ∧ digits.length ≤ Integer.digitLimit := by
  constructor
  · intro h
    rcases numeral_cases s with hno | ⟨digits, m, hm, hs⟩
    · exact nomatch h.symm.trans hno
    · rw [parseDecimal_of_numeral hm hs] at h
      split at h
      · exact nomatch h
      · rename_i hshort
        obtain rfl := Option.some.inj (Except.ok.inj h)
        exact ⟨digits, hm, hs, Nat.not_lt.mp hshort⟩
  · rintro ⟨digits, hn, hs, hshort⟩
    rw [parseDecimal_of_numeral hn hs, if_neg (Nat.not_lt.mpr hshort)]

theorem parseDecimal_eq_error_iff {f : Fault} : parseDecimal s = .error f ↔
    ∃ digits n, Numeral digits n ∧ IsLineOf s digits ∧ Integer.digitLimit < digits.length ∧
      f = .integer (.tooLong digits.length) := by
  constructor
  · intro h
    rcases numeral_cases s with hno | ⟨digits, n, hn, hs⟩
    · exact nomatch h.symm.trans hno
    · rw [parseDecimal_of_numeral hn hs] at h
      split at h
      · rename_i hlong
        exact ⟨digits, n, hn, hs, hlong, (Except.error.inj h).symm⟩
      · exact nomatch h
  · rintro ⟨digits, n, hn, hs, hlong, rfl⟩
    rw [parseDecimal_of_numeral hn hs, if_pos hlong]

namespace Root

theorem ofNat?_eq_some_iff {root : Root} :
    ofNat? n = some root ↔ n < Nat.pow 2 256 ∧ Bytes.toNat root.bytes = n := by
  constructor
  · intro h
    have hlt : n < Nat.pow 2 256 := by
      refine Nat.not_le.mp fun hlarge => ?_
      rw [← capacity_eq] at hlarge
      exact nomatch h.symm.trans (if_neg (Nat.not_lt.mpr hlarge))
    obtain ⟨other, hother, hvalue⟩ := ofNat?_of_lt hlt
    obtain rfl := Option.some.inj (h.symm.trans hother)
    exact ⟨hlt, hvalue⟩
  · rintro ⟨-, rfl⟩
    exact ofNat?_toNat root

theorem ofNat?_eq_none_iff : ofNat? n = none ↔ Nat.pow 2 256 ≤ n := by
  rw [← capacity_eq]
  unfold ofNat?
  split
  · rename_i hlt
    exact iff_of_false nofun (Nat.not_le.mpr hlt)
  · rename_i hlarge
    exact iff_of_true rfl (Nat.not_lt.mp hlarge)

theorem ofSignal?_eq_ok {root? : Option Root} :
    ofSignal? s = .ok root? ↔ ∃ n?, parseDecimal s = .ok n? ∧ n?.bind ofNat? = root? := by
  unfold ofSignal?
  simp only [bind_eq_ok, pure_eq_ok]

theorem ofSignal?_eq_error {f : Fault} : ofSignal? s = .error f ↔ parseDecimal s = .error f := by
  unfold ofSignal?
  rw [bind_eq_error]
  exact or_iff_left fun ⟨n?, _, h⟩ => nomatch h

end Root

/-- What is read of a text as a decimal and as a root, for every text. A number is read of the
numerals that are not too long and of those with a line feed behind them, and it makes a root of
its value if 32 bytes have room for it. -/
theorem numeral_outcomes (s : String) :
    (∀ n, parseDecimal s = .ok (some n) ↔
      ∃ digits, Numeral digits n ∧ IsLineOf s digits ∧ digits.length ≤ Integer.digitLimit) ∧
    (parseDecimal s = .ok none ↔ ∀ digits n, Numeral digits n → ¬ IsLineOf s digits) ∧
    (∀ f, parseDecimal s = .error f ↔
      ∃ digits n, Numeral digits n ∧ IsLineOf s digits ∧ Integer.digitLimit < digits.length ∧
        f = .integer (.tooLong digits.length)) ∧
    (∀ root, Root.ofSignal? s = .ok (some root) ↔
      ∃ digits n, Numeral digits n ∧ IsLineOf s digits ∧ digits.length ≤ Integer.digitLimit ∧
        n < Nat.pow 2 256 ∧ Bytes.toNat root.bytes = n) ∧
    (Root.ofSignal? s = .ok none ↔ (∀ digits n, Numeral digits n → ¬ IsLineOf s digits) ∨
      ∃ digits n, Numeral digits n ∧ IsLineOf s digits ∧ digits.length ≤ Integer.digitLimit ∧
        Nat.pow 2 256 ≤ n) ∧
    (∀ f, Root.ofSignal? s = .error f ↔ parseDecimal s = .error f) := by
  refine ⟨fun n => parseDecimal_eq_some_iff, parseDecimal_eq_none_iff,
    fun f => parseDecimal_eq_error_iff, fun root => ?_, ?_, fun f => Root.ofSignal?_eq_error⟩
  · rw [Root.ofSignal?_eq_ok]
    constructor
    · rintro ⟨n?, hn, hroot⟩
      obtain ⟨n, rfl, hroot⟩ := Option.bind_eq_some_iff.mp hroot
      obtain ⟨digits, hnumeral, hs, hshort⟩ := parseDecimal_eq_some_iff.mp hn
      exact ⟨digits, n, hnumeral, hs, hshort, Root.ofNat?_eq_some_iff.mp hroot⟩
    · rintro ⟨digits, n, hnumeral, hs, hshort, hroot⟩
      exact ⟨some n, parseDecimal_eq_some_iff.mpr ⟨digits, hnumeral, hs, hshort⟩,
        Root.ofNat?_eq_some_iff.mpr hroot⟩
  · rw [Root.ofSignal?_eq_ok, ← parseDecimal_eq_none_iff]
    constructor
    · rintro ⟨n?, hn, hroot⟩
      cases n? with
      | none => exact .inl hn
      | some n =>
        obtain ⟨digits, hnumeral, hs, hshort⟩ := parseDecimal_eq_some_iff.mp hn
        exact .inr ⟨digits, n, hnumeral, hs, hshort, Root.ofNat?_eq_none_iff.mp hroot⟩
    · rintro (hno | ⟨digits, n, hnumeral, hs, hshort, hlarge⟩)
      · exact ⟨none, hno, rfl⟩
      · exact ⟨some n, parseDecimal_eq_some_iff.mpr ⟨digits, hnumeral, hs, hshort⟩,
          Root.ofNat?_eq_none_iff.mpr hlarge⟩

/-- A line feed is no digit, and a row of 4301 digits is a numeral like any other. -/
theorem lineFeed_read :
    (∀ n, ¬ Numeral "5\n".toList n) ∧ parseDecimal "5\n" = .ok (some 5) ∧
      (∃ root, Root.ofSignal? "5\n" = .ok (some root)) ∧
        (∃ n, Numeral (List.replicate 4301 '1') n) ∧
          ∃ f, parseDecimal (String.ofList (List.replicate 4301 '1')) = .error f := by
  have hfeed : ∀ n, ¬ Numeral "5\n".toList n := by
    intro n hn
    have hdigit := hn.areDigits '\n' (by decide)
    exact nomatch hdigit
  have hones : AreDigits (List.replicate 4301 '1') := by
    intro c hc
    obtain rfl := List.eq_of_mem_replicate hc
    rfl
  have hne : List.replicate 4301 '1' ≠ [] := List.cons_ne_nil _ _
  have hlong : Overlong (String.ofList (List.replicate 4301 '1')) :=
    overlong_replicate (by decide)
  exact ⟨hfeed, rfl, ⟨_, rfl⟩, ⟨_, .of_areDigits hones hne⟩, isError_parseDecimal.mpr hlong⟩

end IdentityProof
