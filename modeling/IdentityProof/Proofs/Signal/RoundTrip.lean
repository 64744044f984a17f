import Mathlib.Data.List.Induction
import Mathlib.Data.List.TakeWhile
import Mathlib.Data.Nat.Digits.Defs
import IdentityProof.Proofs.Calendar.Anniversary
import IdentityProof.Proofs.Json.Integer
import IdentityProof.Proofs.Signal.Packing

/-! Packed and read again. Bytes that do not begin with zero come back as they were. A date loses
its century on the way, and comes back in the one from 1969 to 2068. -/

namespace IdentityProof

namespace Bytes

theorem capacity_eq_pow (width : Nat) : capacity width = 2 ^ (8 * width) := by
  rw [Nat.pow_mul]
  rfl

theorem toNat_lt_pow {bytes : Bytes} {digits : Nat} (h : 3 * bytes.length ≤ digits) :
    toNat bytes < Nat.pow 10 digits :=
  calc toNat bytes < 256 ^ bytes.length := toNat_lt_capacity bytes
    _ ≤ (10 ^ 3) ^ bytes.length := Nat.pow_le_pow_left (by decide) _
    _ = 10 ^ (3 * bytes.length) := (Nat.pow_mul 10 3 _).symm
    _ ≤ 10 ^ digits := Nat.pow_le_pow_right (by decide) h

theorem widthOf_toNat {b : UInt8} (hb : b ≠ 0) (bytes : Bytes) :
    widthOf (toNat (b :: bytes)) = bytes.length + 1 := by
  have hpos : 1 ≤ b.toNat := Nat.pos_of_ne_zero fun h => hb (UInt8.toNat_inj.mp h)
  have hlow : 2 ^ (8 * bytes.length) ≤ toNat (b :: bytes) := by
    rw [← capacity_eq_pow, toNat_cons]
    exact Nat.le_trans (Nat.le_mul_of_pos_left _ hpos) (Nat.le_add_right _ _)
  have hhigh : toNat (b :: bytes) < 2 ^ (8 * (bytes.length + 1)) := by
    rw [← capacity_eq_pow]
    exact toNat_lt_capacity (b :: bytes)
  have hne : toNat (b :: bytes) ≠ 0 := Nat.ne_of_gt (Nat.lt_of_lt_of_le (Nat.two_pow_pos _) hlow)
  have hfrom := (Nat.le_log2 hne).mpr hlow
  have hto := (Nat.log2_lt hne).mpr hhigh
  unfold widthOf
  rw [if_neg hne]
  omega

theorem toNat_concat (bytes : Bytes) (b : UInt8) :
    toNat (bytes ++ [b]) = toNat bytes * 256 + b.toNat := by
  unfold toNat
  rw [List.foldl_append]
  rfl

theorem ofNatOnto_toNat (bytes rest : Bytes) :
    ofNatOnto bytes.length (toNat bytes) rest = bytes ++ rest := by
  induction bytes using List.reverseRecOn generalizing rest with
  | nil => rfl
  | append_singleton bytes b ih =>
    have hlt := b.toNat_lt
    have hhigh : (toNat bytes * 256 + b.toNat) / 256 = toNat bytes := by omega
    have hlow : UInt8.ofNat (toNat bytes * 256 + b.toNat) = b := by
      apply UInt8.toNat_inj.mp
      rw [UInt8.toNat_ofNat']
      omega
    rw [List.length_append, List.length_singleton, ofNatOnto, toNat_concat, hhigh, hlow, ih,
      List.append_assoc, List.singleton_append]

theorem ofNatMinimal_toNat {b : UInt8} (hb : b ≠ 0) (bytes : Bytes) :
    ofNatMinimal (toNat (b :: bytes)) = b :: bytes := by
  have hall := ofNatOnto_toNat (b :: bytes) []
  rw [List.append_nil] at hall
  rw [ofNatMinimal, widthOf_toNat hb]
  exact hall

end Bytes

theorem decimalDigits?_digits {cs : List Char} (hd : AreDigits cs) (hne : cs ≠ []) :
    decimalDigits? cs = some cs := by
  have htake : cs.takeWhile isDecimalDigit = cs := List.takeWhile_eq_self_iff.mpr hd
  have hdrop : cs.dropWhile isDecimalDigit = [] := List.dropWhile_eq_nil_iff.mpr hd
  unfold decimalDigits?
  simp [htake, hdrop, hne]

theorem parseDecimal_natText {n : Nat} (h : (Nat.toDigits 10 n).length ≤ Integer.digitLimit) :
    parseDecimal (toString n) = .ok (some n) := by
  unfold parseDecimal
  rw [toList_toString, decimalDigits?_digits (areDigits_toDigits n) Nat.toDigits_ne_nil]
  simp only [if_neg (Nat.not_lt.mpr h), valueOf_toDigits]

theorem length_toDigits_le {n limit : Nat} (hlimit : 0 < limit) (h : ¬ Nat.pow 10 limit ≤ n) :
    (Nat.toDigits 10 n).length ≤ limit := Nat.toDigits_length 10 n limit hlimit (Nat.not_le.mp h)

theorem parseDecimal_decimalText {n : Nat} {signal : String} (h : decimalText n = .ok signal) :
    parseDecimal signal = .ok (some n) := by
  unfold decimalText Json.integerText Integer.text? at h
  split at h
  · rename_i hsome
    split at hsome
    · exact nomatch hsome
    · rename_i hfits
      obtain rfl := Option.some.inj hsome
      obtain rfl := Except.ok.inj h
      exact parseDecimal_natText (length_toDigits_le (by decide) hfits)
  · exact nomatch h

namespace Text

theorem encodeLatin1_of_forall {cs : List Char} (h : ∀ c ∈ cs, c.toNat < 256) :
    encodeLatin1 cs = .ok (cs.map fun c => UInt8.ofNat c.toNat) := by
  have hdrop : cs.dropWhile (fun c => decide (c.toNat < 256)) = [] :=
    List.dropWhile_eq_nil_iff.mpr fun c hc => decide_eq_true (h c hc)
  simp only [encodeLatin1, hdrop]

theorem latin1_encoded {cs : List Char} (h : ∀ c ∈ cs, c.toNat < 256) :
    latin1 (cs.map fun c => UInt8.ofNat c.toNat) = cs := by
  unfold latin1
  rw [List.map_map]
  refine (List.map_congr_left fun c hc => ?_).trans (List.map_id cs)
  have hbyte : (UInt8.ofNat c.toNat).toNat = c.toNat := by
    rw [UInt8.toNat_ofNat', Nat.mod_eq_of_lt (h c hc)]
  rw [Function.comp_apply, hbyte, Char.ofNat_toNat]
  rfl

theorem byte_ne_zero {c : Char} (hc : c.toNat ≠ 0) (hfits : c.toNat < 256) :
    UInt8.ofNat c.toNat ≠ 0 := by
  intro hzero
  have hnat : (UInt8.ofNat c.toNat).toNat = 0 := congrArg UInt8.toNat hzero
  rw [UInt8.toNat_ofNat', Nat.mod_eq_of_lt hfits] at hnat
  exact hc hnat

end Text

namespace Packing

theorem unpack_pack {b : UInt8} {bytes : Bytes} {signal : String} (hb : b ≠ 0)
    (h : pack (b :: bytes) = .ok signal) : unpack signal = .ok (b :: bytes) := by
  rw [unpack_of_decimal (parseDecimal_decimalText h), Bytes.ofNatMinimal_toNat hb]

theorem pack_eq {bytes : Bytes} (h : 3 * bytes.length ≤ Integer.digitLimit) :
    pack bytes = .ok (toString (Bytes.toNat bytes)) := by
  have hfits : ¬ Nat.pow 10 Integer.digitLimit ≤ (Bytes.toNat bytes : Int).natAbs :=
    Nat.not_le.mpr (Bytes.toNat_lt_pow h)
  unfold pack decimalText Json.integerText Integer.text?
  rw [if_neg hfits]
  rfl

variable {cs : List Char}

theorem packText_eq (hfits : ∀ c ∈ cs, c.toNat < 256) (hlen : 3 * cs.length ≤ Integer.digitLimit) :
    packText (String.ofList cs) =
      .ok (toString (Bytes.toNat (cs.map fun c => UInt8.ofNat c.toNat))) := by
  have hbytes : 3 * (cs.map fun c => UInt8.ofNat c.toNat).length ≤ Integer.digitLimit := by
    rwa [List.length_map]
  unfold packText
  rw [String.toList_ofList, Text.encodeLatin1_of_forall hfits]
  simp only [Except.mapError, bind, Except.bind]
  exact pack_eq hbytes

theorem unpackText_of_packText {c : Char} {signal : String} (hc : c.toNat ≠ 0)
    (hfits : ∀ d ∈ c :: cs, d.toNat < 256) (h : packText (String.ofList (c :: cs)) = .ok signal) :
    unpackText signal = .ok (String.ofList (c :: cs)) := by
  have hb : UInt8.ofNat c.toNat ≠ 0 := Text.byte_ne_zero hc (hfits c List.mem_cons_self)
  unfold packText at h
  rw [String.toList_ofList, Text.encodeLatin1_of_forall hfits] at h
  obtain ⟨bytes, hbytes, hpack⟩ := bind_eq_ok.mp h
  obtain rfl := Except.ok.inj hbytes
  unfold unpackText
  rw [unpack_pack hb hpack]
  exact congrArg (fun cs => Except.ok (String.ofList cs)) (Text.latin1_encoded hfits)

end Packing

namespace PackedDate

variable {month day : Nat}

def tens (n : Nat) : Char := Nat.digitChar (n / 10)

def ones (n : Nat) : Char := Nat.digitChar (n % 10)

theorem padded_two : ∀ n < 100, Date.padded 2 n = [tens n, ones n] := by decide

theorem twoDigits_of_lt : ∀ n < 100, twoDigits (tens n) (ones n) = n := by decide

theorem isBetween_of_lt : ∀ n < 100,
    isBetween '0' '9' (tens n) = true ∧ isBetween '0' '9' (ones n) = true := by decide

theorem monthReadings_two (hfrom : 1 ≤ month) (hto : month ≤ 12) (rest : List Char) :
    ∃ others, monthReadings (tens month :: ones month :: rest) = (month, rest) :: others := by
  have hdouble : ∀ n < 13, 1 ≤ n → (tens n == '1' && isBetween '0' '2' (ones n) ||
      tens n == '0' && isBetween '1' '9' (ones n)) = true := by decide
  unfold monthReadings
  simp only [hdouble month (by omega) hfrom, if_true, twoDigits_of_lt month (by omega)]
  exact ⟨_, rfl⟩

theorem dayReadings_two (hfrom : 1 ≤ day) (hto : day ≤ 31) (rest : List Char) :
    ∃ others, dayReadings (tens day :: ones day :: rest) = (day, rest) :: others := by
  have hdouble : ∀ n < 32, 1 ≤ n → (tens n == '3' && isBetween '0' '1' (ones n) ||
      isBetween '1' '2' (tens n) && isBetween '0' '9' (ones n) ||
        tens n == '0' && isBetween '1' '9' (ones n)) = true := by decide
  unfold dayReadings
  simp only [hdouble day (by omega) hfrom, if_true, twoDigits_of_lt day (by omega)]
  exact ⟨_, rfl⟩

theorem monthAndDay?_two (hm : 1 ≤ month) (hm' : month ≤ 12) (hd : 1 ≤ day) (hd' : day ≤ 31) :
    monthAndDay? [tens month, ones month, tens day, ones day] = some (month, day, []) := by
  obtain ⟨months, hmonths⟩ := monthReadings_two hm hm' [tens day, ones day]
  obtain ⟨days, hdays⟩ := dayReadings_two hd hd' []
  unfold monthAndDay?
  rw [hmonths, List.findSome?_cons]
  simp only [hdays, List.head?_cons, Option.map_some]

theorem isLeapYear_fullYear {year : Nat} (h : isLeapYear year = true) :
    isLeapYear (fullYear (year % 100)) = true := by
  -- the only year of a century that need not be leap like the others is 2000, which is
  simp only [isLeapYear, fullYear, Bool.and_eq_true, Bool.or_eq_true, beq_iff_eq, bne_iff_ne] at *
  split <;> omega

theorem fullYear_range (year : Nat) :
    1969 ≤ fullYear (year % 100) ∧ fullYear (year % 100) ≤ 2068 := by
  unfold fullYear
  split <;> omega

theorem fullYear_of_range {year : Nat} (hfrom : 1969 ≤ year) (hto : year ≤ 2068) :
    fullYear (year % 100) = year := by
  unfold fullYear
  split <;> omega

theorem fullYear_mod {yy : Nat} (h : yy < 100) : fullYear yy % 100 = yy := by
  unfold fullYear
  split <;> omega

theorem isDay_fullYear (d : Date) : IsDay (fullYear (d.year % 100)) d.month d.day := by
  obtain ⟨-, -, hm, hm', hd, hlast⟩ := d.valid
  obtain ⟨hfrom, hto⟩ := fullYear_range d.year
  refine ⟨by omega, by omega, hm, hm', hd, Classical.byContradiction fun hno => ?_⟩
  obtain ⟨hfebruary, h29, hcommon⟩ := day_of_missing hlast hno
  have hleap : isLeapYear d.year = true := by
    refine Classical.byContradiction fun hnot => ?_
    have hshort := (Date.day_le_of_february hfebruary).2 (Bool.eq_false_iff.mpr hnot)
    omega
  rw [isLeapYear_fullYear hleap] at hcommon
  exact nomatch hcommon

/-- The date that is found where another one was packed: the same day of a year from 1969 to
2068. -/
def readBack (d : Date) : Date := ⟨fullYear (d.year % 100), d.month, d.day, isDay_fullYear d⟩

def digits (d : Date) : List Char :=
  [tens (d.year % 100), ones (d.year % 100), tens d.month, ones d.month, tens d.day, ones d.day]

theorem text_eq (d : Date) : text d = String.ofList (digits d) := by
  obtain ⟨hm, hm', hd, hd'⟩ := d.month_day_le
  unfold text
  rw [padded_two _ (Nat.mod_lt _ (by decide)), padded_two d.month (by omega),
    padded_two d.day (by omega)]
  rfl

theorem toNat_digits {d : Date} {c : Char} (h : c ∈ digits d) : c.toNat ≠ 0 ∧ c.toNat < 256 := by
  have htwo : ∀ n < 100, ((tens n).toNat ≠ 0 ∧ (tens n).toNat < 256) ∧
      (ones n).toNat ≠ 0 ∧ (ones n).toNat < 256 := by decide
  obtain ⟨hm, hm', hd, hd'⟩ := d.month_day_le
  have hyear := htwo (d.year % 100) (Nat.mod_lt _ (by decide))
  have hmonth := htwo d.month (by omega)
  have hday := htwo d.day (by omega)
  simp only [digits, List.mem_cons, List.not_mem_nil, or_false] at h
  rcases h with rfl | rfl | rfl | rfl | rfl | rfl
  · exact hyear.1
  · exact hyear.2
  · exact hmonth.1
  · exact hmonth.2
  · exact hday.1
  · exact hday.2

theorem parse_text (d : Date) : parse (text d) = .ok (readBack d) := by
  obtain ⟨hm, hm', hd, hd'⟩ := d.month_day_le
  have hyear : d.year % 100 < 100 := Nat.mod_lt _ (by decide)
  obtain ⟨hten, hone⟩ := isBetween_of_lt _ hyear
  have hvalid := isDay_fullYear d
  unfold parse
  rw [text_eq, String.toList_ofList]
  simp only [digits, hten, hone, Bool.and_self, if_true,
    monthAndDay?_two hm hm' hd hd', List.isEmpty_nil, Bool.not_true, Bool.false_eq_true, if_false,
    twoDigits_of_lt _ hyear, dif_pos hvalid]
  rfl

theorem unpack_of_text {signal : String} {d : Date}
    (h : Packing.unpackText signal = .ok (text d)) : unpack signal = .ok (readBack d) := by
  have hparse := parse_text d
  have hne : text d ≠ "" := by
    intro hblank
    rw [hblank] at hparse
    exact nomatch hparse
  obtain ⟨n, -, hn, -⟩ := Packing.unpackText_eq_ok h hne
  unfold unpack
  rw [hn, h]
  simp only [Fault.lift, Except.mapError, bind, Except.bind, hparse]
  rfl

theorem pack_eq (d : Date) :
    pack d = .ok (toString (Bytes.toNat ((digits d).map fun c => UInt8.ofNat c.toNat))) := by
  have hshort : 3 * (digits d).length ≤ Integer.digitLimit := by
    change 3 * 6 ≤ Integer.digitLimit
    decide
  unfold pack
  rw [text_eq]
  exact Packing.packText_eq (fun c hc => (toNat_digits hc).2) hshort

theorem unpack_of_pack {d : Date} {signal : String} (h : pack d = .ok signal) :
    unpack signal = .ok (readBack d) := by
  have hfirst := (toNat_digits (List.mem_cons_self : _ ∈ digits d)).1
  have hpack : Packing.packText (String.ofList (digits d)) = .ok signal := by
    rw [← text_eq]
    exact h
  have htext := Packing.unpackText_of_packText hfirst (fun c hc => (toNat_digits hc).2) hpack
  refine unpack_of_text ?_
  rw [text_eq]
  exact htext

theorem readBack_eq_self {d : Date} : readBack d = d ↔ 1969 ≤ d.year ∧ d.year ≤ 2068 := by
  have hyear : (readBack d).year = fullYear (d.year % 100) := rfl
  constructor
  · intro h
    have hrange := fullYear_range d.year
    rwa [← hyear, h] at hrange
  · rintro ⟨hfrom, hto⟩
    exact Date.eq_of_fields (hyear.trans (fullYear_of_range hfrom hto)) rfl rfl

/-- Only the century can change between a date that is packed and the date that is found, which no
day of the calendar keeps from being read. -/
theorem pack_read_back (d : Date) : ∃ signal found,
    pack d = .ok signal ∧ unpack signal = .ok found ∧
      found.month = d.month ∧ found.day = d.day ∧
      (∀ year, 1969 ≤ year ∧ year ≤ 2068 ∧ year % 100 = d.year % 100 ↔ year = found.year) ∧
      (found = d ↔ 1969 ≤ d.year ∧ d.year ≤ 2068) := by
  have hyear : (readBack d).year = fullYear (d.year % 100) := rfl
  have hlt : d.year % 100 < 100 := Nat.mod_lt _ (by decide)
  refine ⟨_, readBack d, pack_eq d, unpack_of_pack (pack_eq d), rfl, rfl, fun year => ?_,
    readBack_eq_self⟩
  constructor
  · rintro ⟨hfrom, hto, hmod⟩
    rw [hyear, ← hmod, fullYear_of_range hfrom hto]
  · rintro rfl
    obtain ⟨hfrom, hto⟩ := fullYear_range d.year
    exact ⟨hfrom, hto, fullYear_mod hlt⟩

end PackedDate
end IdentityProof
