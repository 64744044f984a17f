import IdentityProof.Groth16.Coordinate
import IdentityProof.Proofs.Fault
import IdentityProof.Signal.Packing

/-! Decimal signals. The strict reader of signals and the lenient reader of coordinates agree on
every text that the strict one takes. -/

namespace IdentityProof

theorem toNat_of_isDecimalDigit {c : Char} (h : isDecimalDigit c = true) :
    0x30 ≤ c.toNat ∧ c.toNat ≤ 0x39 := by
  obtain ⟨hlow, hhigh⟩ := Bool.and_eq_true_iff.mp h
  exact ⟨UInt32.le_iff_toNat_le.mp (of_decide_eq_true hlow),
    UInt32.le_iff_toNat_le.mp (of_decide_eq_true hhigh)⟩

theorem forall_digit {P : Char → Prop} (h : ∀ d < 10, P (Char.ofNat (0x30 + d))) {c : Char}
    (hc : isDecimalDigit c = true) : P c := by
  obtain ⟨hlow, hhigh⟩ := toNat_of_isDecimalDigit hc
  have hd := h (c.toNat - 0x30) (by omega)
  rw [Nat.add_sub_of_le hlow, Char.ofNat_toNat] at hd
  exact hd

def AreDigits (cs : List Char) : Prop := ∀ c ∈ cs, isDecimalDigit c = true

theorem decimalDigits?_eq_some {cs digits : List Char} (h : decimalDigits? cs = some digits) :
    AreDigits digits ∧ digits ≠ [] ∧ (cs = digits ∨ cs = digits ++ ['\n']) := by
  simp only [decimalDigits?] at h
  split at h
  · exact nomatch h
  · rename_i hshape
    obtain rfl := Option.some.inj h
    obtain ⟨hne, hrest⟩ : cs.takeWhile isDecimalDigit ≠ [] ∧
        (cs.dropWhile isDecimalDigit ≠ [] → cs.dropWhile isDecimalDigit = ['\n']) := by
      simpa using hshape
    have hwhole := List.takeWhile_append_dropWhile (p := isDecimalDigit) (l := cs)
    refine ⟨fun c hc => ?_, hne, ?_⟩
    · exact List.all_eq_true.mp List.all_takeWhile c hc
    · by_cases hnil : cs.dropWhile isDecimalDigit = []
      · rw [hnil, List.append_nil] at hwhole
        exact .inl hwhole.symm
      · rw [hrest hnil] at hwhole
        exact .inr hwhole.symm

namespace Text

theorem dropWhile_of_head {p : Char → Bool} {c : Char} {cs : List Char} (hc : p c = false) :
    (c :: cs).dropWhile p = c :: cs := List.dropWhile_cons_of_neg (by simp [hc])

theorem trim_append {p : Char → Bool} {cs rest : List Char} (hcs : ∀ c ∈ cs, p c = false)
    (hrest : ∀ c ∈ rest, p c = true) (hne : cs ≠ []) : trim p (cs ++ rest) = cs := by
  have hfront : (cs ++ rest).dropWhile p = cs ++ rest := by
    obtain ⟨c, more, rfl⟩ := List.exists_cons_of_ne_nil hne
    exact dropWhile_of_head (hcs c List.mem_cons_self)
  have hback : cs.reverse.dropWhile p = cs.reverse := by
    obtain ⟨c, more, hr⟩ := List.exists_cons_of_ne_nil (List.reverse_ne_nil_iff.mpr hne)
    rw [hr]
    exact dropWhile_of_head (hcs c (List.mem_reverse.mp (hr ▸ List.mem_cons_self)))
  rw [trim, hfront, List.reverse_append, List.dropWhile_append_of_pos (by simpa using hrest),
    hback, List.reverse_reverse]

theorem isBlank_digit {c : Char} (h : isDecimalDigit c = true) : isBlank c = false :=
  forall_digit (P := fun c => isBlank c = false) (by decide) h

theorem strip_digits {cs digits : List Char} (hd : AreDigits digits) (hne : digits ≠ [])
    (h : cs = digits ∨ cs = digits ++ ['\n']) : strip cs = digits := by
  have hblank : ∀ c ∈ digits, isBlank c = false := fun c hc => isBlank_digit (hd c hc)
  rcases h with rfl | rfl
  · have htrim := trim_append hblank (List.forall_mem_nil (isBlank · = true)) hne
    rwa [List.append_nil] at htrim
  · exact trim_append hblank (List.forall_mem_singleton.mpr rfl) hne

theorem lowerAfter_digits {before cs : List Char} (hd : AreDigits cs) :
    lowerAfter before cs = cs := by
  induction cs generalizing before with
  | nil => rfl
  | cons c cs ih =>
    have hc := hd c List.mem_cons_self
    have hsigma : c ≠ capitalSigma := forall_digit (P := (· ≠ capitalSigma)) (by decide) hc
    have hlower : lower c = [c] := forall_digit (P := fun c => lower c = [c]) (by decide) hc
    rw [lowerAfter, if_neg hsigma, hlower, ih fun c h => hd c (List.mem_cons_of_mem _ h)]
    rfl

end Text

namespace Integer

theorem underscoresFit_digits {afterDigit : Bool} {cs : List Char} (hd : AreDigits cs)
    (h : afterDigit = true ∨ cs ≠ []) : underscoresFit afterDigit cs = true := by
  induction cs generalizing afterDigit with
  | nil =>
    obtain rfl : afterDigit = true := by simpa using h
    rfl
  | cons c cs ih =>
    have hc : isUnderscore c = false :=
      forall_digit (P := fun c => isUnderscore c = false) (by decide) (hd c List.mem_cons_self)
    simp only [underscoresFit, hc, Bool.false_eq_true, if_false]
    exact ih (fun c h => hd c (List.mem_cons_of_mem _ h)) (.inl rfl)

theorem splitSign_digits {cs : List Char} (hd : AreDigits cs) : splitSign cs = (false, cs) := by
  unfold splitSign
  split
  · exact absurd (hd '+' List.mem_cons_self) (by decide)
  · exact absurd (hd '-' List.mem_cons_self) (by decide)
  · rfl

theorem read_of_splitSign {text cs : List Char} {negative : Bool}
    (hascii : text.all Text.isAscii = true) (hblank : text.dropWhile Text.isPlainBlank = text)
    (hsign : splitSign text = (negative, cs)) (hd : AreDigits cs) (hne : cs ≠ []) :
    read .ten text = if digitLimit < cs.length then .error (.tooLong cs.length)
      else .ok (if negative then -(valueOf .ten cs : Int) else valueOf .ten cs) := by
  have hpart : ∀ c ∈ cs, ((Radix.digit? .ten c).isSome || isUnderscore c) = true := fun c hc =>
    forall_digit (P := fun c => ((Radix.digit? .ten c).isSome || isUnderscore c) = true)
      (by decide) (hd c hc)
  have htake : (cs ++ []).takeWhile _ = cs ++ [] := List.takeWhile_append_of_pos hpart
  have hdrop : (cs ++ []).dropWhile _ = [] := List.dropWhile_append_of_pos hpart
  have hfilter : cs.filter (fun c => !isUnderscore c) = cs := List.filter_eq_self.mpr fun c hc =>
    forall_digit (P := fun c => (!isUnderscore c) = true) (by decide) (hd c hc)
  have hfit : underscoresFit false cs = true := underscoresFit_digits hd (.inr hne)
  have hempty : cs.isEmpty = false := List.isEmpty_eq_false_iff.mpr hne
  rw [List.append_nil] at htake hdrop
  simp only [read, hascii, if_true, hblank, hsign, dropRadixMark, htake, hdrop,
    hfilter, hfit, hempty]
  simp

theorem all_isAscii_digits {cs : List Char} (hd : AreDigits cs) : cs.all Text.isAscii = true :=
  List.all_eq_true.mpr fun c hc =>
    forall_digit (P := fun c => Text.isAscii c = true) (by decide) (hd c hc)

theorem read_digits {cs : List Char} (hd : AreDigits cs) (hne : cs ≠ []) :
    read .ten cs = if digitLimit < cs.length then .error (.tooLong cs.length)
      else .ok (valueOf .ten cs : Int) := by
  have hblank : cs.dropWhile Text.isPlainBlank = cs := by
    obtain ⟨c, more, rfl⟩ := List.exists_cons_of_ne_nil hne
    exact Text.dropWhile_of_head (forall_digit (P := fun c => Text.isPlainBlank c = false)
      (by decide) (hd c List.mem_cons_self))
  exact read_of_splitSign (all_isAscii_digits hd) hblank (splitSign_digits hd) hd hne

theorem read_minus {cs : List Char} (hd : AreDigits cs) (hne : cs ≠ []) :
    read .ten ('-' :: cs) = if digitLimit < cs.length then .error (.tooLong cs.length)
      else .ok (-(valueOf .ten cs : Int)) :=
  read_of_splitSign (by rw [List.all_cons, all_isAscii_digits hd]; rfl)
    (Text.dropWhile_of_head rfl) rfl hd hne

end Integer

theorem readInteger_of_plain {s : String} {body : List Char} (hstrip : Text.strip s.toList = body)
    (hlower : Text.lowercase body = body) (hx : 'x' ∉ body) :
    readInteger s = (Integer.read .ten body).mapError .integer := by
  have hmark : ['0', 'x'].isPrefixOf body = false := by
    cases hp : ['0', 'x'].isPrefixOf body with
    | false => rfl
    | true => exact absurd ((List.isPrefixOf_iff_prefix.mp hp).subset (by decide)) hx
  simp only [readInteger, hstrip, hlower, hmark, Bool.false_eq_true, if_false]

theorem AreDigits.not_mem_x {cs : List Char} (hd : AreDigits cs) : 'x' ∉ cs :=
  fun hx => absurd (hd 'x' hx) (by decide)

theorem readInteger_digits {s : String} {digits : List Char} (hd : AreDigits digits)
    (hne : digits ≠ []) (h : s.toList = digits ∨ s.toList = digits ++ ['\n']) :
    readInteger s = if Integer.digitLimit < digits.length then
        .error (.integer (.tooLong digits.length))
      else .ok (Integer.valueOf .ten digits : Int) := by
  rw [readInteger_of_plain (Text.strip_digits hd hne h) (Text.lowerAfter_digits hd) hd.not_mem_x,
    Integer.read_digits hd hne]
  split <;> rfl

theorem readInteger_minus {s : String} {digits : List Char} (hd : AreDigits digits)
    (hne : digits ≠ []) (h : s.toList = '-' :: digits) :
    readInteger s = if Integer.digitLimit < digits.length then
        .error (.integer (.tooLong digits.length))
      else .ok (-(Integer.valueOf .ten digits : Int)) := by
  have hstrip : Text.strip s.toList = '-' :: digits := by
    have hblank : ∀ c ∈ '-' :: digits, Text.isBlank c = false :=
      List.forall_mem_cons.mpr ⟨rfl, fun c hc => Text.isBlank_digit (hd c hc)⟩
    have htrim := Text.trim_append hblank (List.forall_mem_nil (Text.isBlank · = true))
      (List.cons_ne_nil _ _)
    rw [List.append_nil] at htrim
    rw [h]
    exact htrim
  have hlower : Text.lowercase ('-' :: digits) = '-' :: digits := by
    rw [Text.lowercase, Text.lowerAfter, Text.lowerAfter_digits hd]
    rfl
  have hx : 'x' ∉ '-' :: digits := by
    rw [List.mem_cons, not_or]
    exact ⟨by decide, hd.not_mem_x⟩
  rw [readInteger_of_plain hstrip hlower hx, Integer.read_minus hd hne]
  split <;> rfl

theorem readInteger_of_parseDecimal {s : String} {n : Nat} (h : parseDecimal s = .ok (some n)) :
    readInteger s = .ok (n : Int) := by
  unfold parseDecimal at h
  split at h
  · exact nomatch h
  · rename_i digits hdigits
    obtain ⟨hd, hne, hshape⟩ := decimalDigits?_eq_some hdigits
    rw [readInteger_digits hd hne hshape]
    split at h
    · exact nomatch h
    · rename_i hlen
      obtain rfl : Integer.valueOf .ten digits = n := by simpa using h
      rw [if_neg hlen]

/-- The one spelling of a number that is written out: digits alone, no zero before others. -/
def IsCanonicalDecimal (text : String) : Prop := ∃ n : Nat, text = toString n

theorem areDigits_toDigits (n : Nat) : AreDigits (Nat.toDigits 10 n) := by
  intro c hc
  have hdigit := Nat.isDigit_of_mem_toDigits (by decide) (by decide) hc
  simpa [isDecimalDigit, Char.isDigit, Char.le_def] using hdigit

theorem foldl_digits {cs : List Char} (hd : AreDigits cs) (n : Nat) :
    cs.foldl (fun n c => n * Integer.Radix.ten.size + (Integer.Radix.ten.digit? c).getD 0) n =
      Nat.ofDigitChars 10 cs n := by
  induction cs generalizing n with
  | nil => rfl
  | cons c cs ih =>
    have hc : (Integer.Radix.digit? .ten c).getD 0 = c.toNat - '0'.toNat :=
      forall_digit (P := fun c => (Integer.Radix.digit? .ten c).getD 0 = c.toNat - '0'.toNat)
        (by decide) (hd c List.mem_cons_self)
    rw [List.foldl_cons, Nat.ofDigitChars_cons, hc, Nat.mul_comm n]
    exact ih (fun c h => hd c (List.mem_cons_of_mem _ h)) _

theorem valueOf_toDigits (n : Nat) : Integer.valueOf .ten (Nat.toDigits 10 n) = n :=
  (foldl_digits (areDigits_toDigits n) 0).trans Nat.ofDigitChars_ten_toDigits

theorem toList_toString (n : Nat) : (toString n).toList = Nat.toDigits 10 n := by
  rw [Nat.toString_eq_ofList_toDigits, String.toList_ofList]

theorem toString_inj {m n : Nat} : toString m = toString n ↔ m = n := by
  constructor
  · intro h
    have hdigits : Nat.toDigits 10 m = Nat.toDigits 10 n := by
      rw [← toList_toString, ← toList_toString, h]
    rw [← valueOf_toDigits m, ← valueOf_toDigits n, hdigits]
  · exact congrArg toString

theorem readInteger_natText (n : Nat) :
    readInteger (toString n) = if Integer.digitLimit < (Nat.toDigits 10 n).length then
        .error (.integer (.tooLong (Nat.toDigits 10 n).length))
      else .ok (n : Int) := by
  rw [readInteger_digits (areDigits_toDigits n) Nat.toDigits_ne_nil (.inl (toList_toString n)),
    valueOf_toDigits]

theorem readInteger_toString {n : Nat} {m : Int} (h : readInteger (toString n) = .ok m) :
    m = n := by
  rw [readInteger_natText] at h
  split at h
  · exact nomatch h
  · exact (Except.ok.inj h).symm

theorem readInteger_text (n : Int) :
    readInteger (toString n) = if Integer.digitLimit < (Nat.toDigits 10 n.natAbs).length then
        .error (.integer (.tooLong (Nat.toDigits 10 n.natAbs).length))
      else .ok n := by
  cases n with
  | ofNat n => exact readInteger_natText n
  | negSucc n =>
    have hlist : (toString (Int.negSucc n)).toList = '-' :: Nat.toDigits 10 (n + 1) := by
      rw [← toList_toString]
      exact String.toList_append
    rw [readInteger_minus (areDigits_toDigits _) Nat.toDigits_ne_nil hlist, valueOf_toDigits]
    rfl

theorem eq_of_isCanonicalDecimal {a b : String} {m : Int} (ha : IsCanonicalDecimal a)
    (hb : IsCanonicalDecimal b) (hra : readInteger a = .ok m) (hrb : readInteger b = .ok m) :
    a = b := by
  obtain ⟨n, rfl⟩ := ha
  obtain ⟨k, rfl⟩ := hb
  have hn := readInteger_toString hra
  have hk := readInteger_toString hrb
  rw [Int.ofNat_inj.mp (hn.symm.trans hk)]

end IdentityProof
