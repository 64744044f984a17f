import IdentityProof.Proofs.Signal.LeadingZeros
import IdentityProof.Proofs.Signal.Numeral

/-! Packing undone. Bytes come back whole when their number is known and without their leading zeros
when it is not, texts come back whole, and what is unpacked packs into the number it came from. -/

namespace IdentityProof

namespace Bytes

variable {n : Nat}

theorem capacity_mono {j k : Nat} (h : j ≤ k) : capacity j ≤ capacity k :=
  Nat.pow_le_pow_right (by decide) h

theorem capacity_le_of_lt_widthOf {k : Nat} (h : k < widthOf n) : capacity k ≤ n := by
  unfold widthOf at h
  split at h
  · exact absurd h (Nat.not_lt_zero k)
  · rename_i hne
    have hbits : 8 * k ≤ n.log2 := by omega
    calc capacity k = 2 ^ (8 * k) := capacity_eq_pow k
      _ ≤ 2 ^ n.log2 := Nat.pow_le_pow_right (by decide) hbits
      _ ≤ n := Nat.log2_self_le hne

theorem lt_widthOf_iff {k : Nat} : k < widthOf n ↔ capacity k ≤ n := by
  constructor
  · exact capacity_le_of_lt_widthOf
  · intro hle
    refine Nat.not_le.mp fun hwide => ?_
    have hfits := Nat.lt_of_lt_of_le (lt_capacity_widthOf n) (capacity_mono hwide)
    exact Nat.not_le.mpr hfits hle

theorem ofNat_eq_iff {bytes : Bytes} {k : Nat} (h : n < capacity k) :
    ofNat k n = bytes ↔ bytes.length = k ∧ toNat bytes = n := by
  constructor
  · rintro rfl
    exact ⟨length_ofNat k n, toNat_ofNat h⟩
  · rintro ⟨hlen, hvalue⟩
    refine toNat_injective ((length_ofNat k n).trans hlen.symm) ?_
    rw [toNat_ofNat h, hvalue]

end Bytes

theorem Numeral.lt_pow {cs : List Char} {n : Nat} (h : Numeral cs n) :
    n < Nat.pow 10 cs.length := by
  induction h with
  | digit hd => exact hd
  | @concat cs n d hcs hd ih =>
    have hstep : Nat.pow 10 (cs ++ [Nat.digitChar d]).length = Nat.pow 10 cs.length * 10 := by
      rw [List.length_append]
      rfl
    rw [hstep]
    omega

theorem Numeral.lt_pow_of_le {cs : List Char} {n limit : Nat} (h : Numeral cs n)
    (hshort : cs.length ≤ limit) : n < Nat.pow 10 limit :=
  Nat.lt_of_lt_of_le h.lt_pow (Nat.pow_le_pow_right (by decide) hshort)

theorem lt_pow_of_parseDecimal {signal : String} {n : Nat}
    (h : parseDecimal signal = .ok (some n)) : n < Nat.pow 10 Integer.digitLimit := by
  obtain ⟨digits, hdigits, -, hshort⟩ := parseDecimal_eq_some_iff.mp h
  exact hdigits.lt_pow_of_le hshort

theorem decimalText_eq_ok {n : Nat} (h : n < Nat.pow 10 Integer.digitLimit) :
    decimalText n = .ok (toString n) := by
  have hfits : ¬ Nat.pow 10 Integer.digitLimit ≤ (n : Int).natAbs := Nat.not_le.mpr h
  unfold decimalText Json.integerText Integer.text?
  rw [if_neg hfits]
  rfl

theorem decimalText_eq_error {n : Nat} (h : Nat.pow 10 Integer.digitLimit ≤ n) :
    decimalText n = .error .integerTooLong := by
  have hlarge : Nat.pow 10 Integer.digitLimit ≤ (n : Int).natAbs := h
  unfold decimalText Json.integerText Integer.text?
  rw [if_pos hlarge]

namespace Bytes

theorem hasRoom_natCast (k : Nat) :
    hasRoom k = if lengthLimit < k then .error .bytesTooLong
      else if roomLimit < k then .error .outOfMemory
      else .ok () := by
  unfold hasRoom
  exact if_congr Int.ofNat_lt rfl (if_congr Int.ofNat_lt rfl rfl)

theorem fitsWord_of_le {k : Nat} (h : k ≤ lengthLimit) :
    Integer.fitsWord 0x8000000000000000 k = true := by
  have hlt : k < 0x8000000000000000 := Nat.lt_of_le_of_lt h (by decide)
  unfold Integer.fitsWord
  rw [Bool.and_eq_true, decide_eq_true_iff, decide_eq_true_iff]
  omega

end Bytes

namespace Packing

variable {signal : String} {n k : Nat}

theorem unpackSized_of_decimal (h : parseDecimal signal = .ok (some n)) :
    unpackSized signal (.int k) =
      if Bytes.lengthLimit < k ∨ Bytes.capacity k ≤ n then .ok []
      else if Bytes.roomLimit < k then .error .outOfMemory
      else .ok (Bytes.ofNat k n) := by
  have hsize : (Json.int k).toInteger = .ok (k : Int) := rfl
  have hsign : ¬ (k : Int) < 0 := by omega
  unfold unpackSized
  rw [h, ok_bind]
  simp only []
  rw [hsize, ok_bind, if_neg hsign, Int.toNat_natCast, Bytes.hasRoom_natCast]
  by_cases hlong : Bytes.lengthLimit < k
  · have hempty : Bytes.lengthLimit < k ∨ Bytes.capacity k ≤ n := .inl hlong
    rw [if_pos hlong, if_pos hempty]
    split
    · rfl
    · split <;> rfl
  · rw [Bytes.fitsWord_of_le (Nat.not_lt.mp hlong), Bool.not_true, if_neg Bool.false_ne_true,
      if_neg hlong]
    by_cases hlarge : Bytes.capacity k ≤ n
    · have hempty : Bytes.lengthLimit < k ∨ Bytes.capacity k ≤ n := .inr hlarge
      rw [if_pos (Bytes.lt_widthOf_iff.mpr hlarge), if_pos hempty]
      rfl
    · have hfits : ¬ (Bytes.lengthLimit < k ∨ Bytes.capacity k ≤ n) := not_or.mpr ⟨hlong, hlarge⟩
      rw [if_neg (mt Bytes.lt_widthOf_iff.mp hlarge), if_neg hfits]
      by_cases hroom : Bytes.roomLimit < k
      · rw [if_pos hroom, if_pos hroom]
        rfl
      · rw [if_neg hroom, if_neg hroom]
        rfl

theorem unpackSized_eq_ok_iff (h : parseDecimal signal = .ok (some n))
    (hfits : n < Bytes.capacity k) (hroom : k ≤ Bytes.roomLimit) {bytes : Bytes} :
    unpackSized signal (.int k) = .ok bytes ↔ bytes.length = k ∧ Bytes.toNat bytes = n := by
  have haddressed : k ≤ Bytes.lengthLimit := Nat.le_trans hroom (by decide)
  have hnot : ¬ (Bytes.lengthLimit < k ∨ Bytes.capacity k ≤ n) :=
    not_or.mpr ⟨Nat.not_lt.mpr haddressed, Nat.not_le.mpr hfits⟩
  rw [unpackSized_of_decimal h, if_neg hnot, if_neg (Nat.not_lt.mpr hroom)]
  rw [Except.ok.injEq]
  exact Bytes.ofNat_eq_iff hfits

theorem pack_of_lt {bytes : Bytes} (h : Bytes.toNat bytes < Nat.pow 10 Integer.digitLimit) :
    pack bytes = .ok (toString (Bytes.toNat bytes)) := decimalText_eq_ok h

theorem unpackSized_of_pack {bytes : Bytes} (h : pack bytes = .ok signal)
    (hroom : bytes.length ≤ Bytes.roomLimit) :
    unpackSized signal (.int bytes.length) = .ok bytes := by
  have hfits := Bytes.toNat_lt_capacity bytes
  rw [unpackSized_eq_ok_iff (parseDecimal_decimalText h) hfits hroom]
  exact ⟨rfl, rfl⟩

theorem pack_of_unpack (h : parseDecimal signal = .ok (some n)) :
    ∃ bytes, unpack signal = .ok bytes ∧ pack bytes = .ok (toString n) := by
  have hvalue := Bytes.toNat_ofNatMinimal n
  have hlimit := lt_pow_of_parseDecimal h
  refine ⟨_, unpack_of_decimal h, ?_⟩
  rw [pack_of_lt, hvalue]
  rw [hvalue]
  exact hlimit

def latin1Bytes (text : String) : Bytes := text.toList.map fun c => UInt8.ofNat c.toNat

variable {text : String}

theorem not_leadsWithZero_latin1Bytes (hlatin : ∀ c ∈ text.toList, c.toNat < 256)
    (hlead : text.toList.head? ≠ some (Char.ofNat 0)) :
    ¬ Bytes.LeadsWithZero (latin1Bytes text) := by
  unfold Bytes.LeadsWithZero latin1Bytes
  rw [List.head?_map]
  intro hzero
  obtain ⟨c, hc, hbyte⟩ := Option.map_eq_some_iff.mp hzero
  have hcode : c.toNat = 0 := by
    refine Classical.byContradiction fun hne => ?_
    exact Text.byte_ne_zero hne (hlatin c (List.mem_of_head? hc)) hbyte
  refine hlead ?_
  rw [hc, ← hcode, Char.ofNat_toNat]

theorem packText_of_latin1 (hlatin : ∀ c ∈ text.toList, c.toNat < 256) :
    packText text = pack (latin1Bytes text) := by
  unfold packText latin1Bytes
  rw [Text.encodeLatin1_of_forall hlatin]
  simp only [Except.mapError, ok_bind]

theorem unpackText_packText (hlatin : ∀ c ∈ text.toList, c.toNat < 256)
    (hlead : text.toList.head? ≠ some (Char.ofNat 0)) (h : packText text = .ok signal) :
    unpackText signal = .ok text := by
  have hback : Text.latin1 (latin1Bytes text) = text.toList := Text.latin1_encoded hlatin
  have hwhole := Bytes.trimmed_eq_self_iff.mpr (not_leadsWithZero_latin1Bytes hlatin hlead)
  rw [packText_of_latin1 hlatin] at h
  unfold unpackText
  rw [unpack_of_pack h, hwhole, ok_bind, hback, String.ofList_toList]
  rfl

end Packing

/-- Packing and unpacking undo one another as far as a number tells. Bytes whose number can be
written out come back whole in their own width and without the zeros at their front in none, the
digits of a signal come back from its bytes, and a text that begins with no zero comes back whole. A
width is filled when the number goes into it and there is room for as many bytes. -/
theorem packing_inverts :
    (∀ bytes, Bytes.toNat bytes < Nat.pow 10 Integer.digitLimit →
      ∃ signal, Packing.pack bytes = .ok signal ∧
        Packing.unpack signal = .ok (Bytes.trimmed bytes) ∧
        (bytes.length ≤ Bytes.roomLimit →
          Packing.unpackSized signal (.int bytes.length) = .ok bytes)) ∧
    (∀ bytes, Nat.pow 10 Integer.digitLimit ≤ Bytes.toNat bytes →
      Packing.pack bytes = .error .integerTooLong) ∧
    (∀ signal n, parseDecimal signal = .ok (some n) →
      (∃ bytes, Packing.unpack signal = .ok bytes ∧ Packing.pack bytes = .ok (toString n)) ∧
      ∀ k : Nat,
        (Bytes.lengthLimit < k ∨ Nat.pow 256 k ≤ n →
          Packing.unpackSized signal (.int k) = .ok []) ∧
        (n < Nat.pow 256 k → k ≤ Bytes.roomLimit → ∀ bytes,
          Packing.unpackSized signal (.int k) = .ok bytes ↔
            bytes.length = k ∧ Bytes.toNat bytes = n) ∧
        (n < Nat.pow 256 k → Bytes.roomLimit < k → k ≤ Bytes.lengthLimit →
          Packing.unpackSized signal (.int k) = .error .outOfMemory)) ∧
    (∀ text : String, (∀ c ∈ text.toList, c.toNat < 256) →
      text.toList.head? ≠ some (Char.ofNat 0) →
      Bytes.toNat (Packing.latin1Bytes text) < Nat.pow 10 Integer.digitLimit →
      ∃ signal, Packing.packText text = .ok signal ∧ Packing.unpackText signal = .ok text) := by
  refine ⟨fun bytes hlimit => ?_, fun bytes hlong => decimalText_eq_error hlong,
    fun signal n h => ⟨Packing.pack_of_unpack h, fun k => ⟨fun hempty => ?_, ?_, ?_⟩⟩,
    fun text hlatin hlead hlimit => ?_⟩
  · have hpack := Packing.pack_of_lt hlimit
    exact ⟨_, hpack, Packing.unpack_of_pack hpack, Packing.unpackSized_of_pack hpack⟩
  · rw [Packing.unpackSized_of_decimal h]
    exact if_pos hempty
  · intro hfits hroom bytes
    exact Packing.unpackSized_eq_ok_iff h hfits hroom
  · intro hfits hfar haddressed
    have hnot : ¬ (Bytes.lengthLimit < k ∨ Bytes.capacity k ≤ n) :=
      not_or.mpr ⟨Nat.not_lt.mpr haddressed, Nat.not_le.mpr hfits⟩
    rw [Packing.unpackSized_of_decimal h, if_neg hnot, if_pos hfar]
  · have hpack := (Packing.packText_of_latin1 hlatin).trans (Packing.pack_of_lt hlimit)
    exact ⟨_, hpack, Packing.unpackText_packText hlatin hlead hpack⟩

theorem packing_inverts_five :
    (∃ signal, Packing.pack [0, 0, 5] = .ok signal ∧ Packing.unpack signal = .ok [5] ∧
      Packing.unpackSized signal (.int 3) = .ok [0, 0, 5]) ∧
    Packing.unpackSized "5" (.int 2) = .ok [0, 5] ∧
    Packing.unpackSized "300" (.int 1) = .ok [] ∧
    ∃ signal, Packing.packText "UKR" = .ok signal ∧ Packing.unpackText signal = .ok "UKR" := by
  obtain ⟨hbytes, -, hsignals, htexts⟩ := packing_inverts
  have hshort : Bytes.toNat [0, 0, 5] < Nat.pow 10 Integer.digitLimit :=
    Bytes.toNat_lt_pow (by decide)
  have hletters : Bytes.toNat (Packing.latin1Bytes "UKR") < Nat.pow 10 Integer.digitLimit :=
    Bytes.toNat_lt_pow (by decide)
  have hlatin : ∀ c ∈ "UKR".toList, c.toNat < 256 := by simp
  obtain ⟨signal, hpack, htrimmed, hwhole⟩ := hbytes [0, 0, 5] hshort
  obtain ⟨-, hfive⟩ := hsignals "5" 5 rfl
  obtain ⟨-, hmany⟩ := hsignals "300" 300 rfl
  exact ⟨⟨signal, hpack, htrimmed, hwhole (by decide)⟩,
    ((hfive 2).2.1 (by decide) (by decide) [0, 5]).mpr ⟨rfl, rfl⟩,
    (hmany 1).1 (.inr (by decide)), htexts "UKR" hlatin (by decide) hletters⟩

/-- Five goes into any width, but there are no bytes of this one. -/
theorem unaddressable_width_empty :
    parseDecimal "5" = .ok (some 5) ∧ 5 < Nat.pow 256 9223372036854775808 ∧
      ¬ ∃ bytes, Packing.unpackSized "5" (.int 9223372036854775808) = .ok bytes ∧
        bytes.length = 9223372036854775808 ∧ Bytes.toNat bytes = 5 := by
  have hfive : parseDecimal "5" = .ok (some 5) := rfl
  have hwide : ∀ k, 1 ≤ k → 5 < Nat.pow 256 k := fun k hk =>
    Nat.lt_of_lt_of_le (by decide : 5 < Bytes.capacity 1) (Bytes.capacity_mono hk)
  have hempty : ∀ k : Nat, Bytes.lengthLimit < k →
      Packing.unpackSized "5" (.int k) = .ok [] := fun k hk => by
    rw [Packing.unpackSized_of_decimal hfive]
    exact if_pos (.inl hk)
  have hfits := hwide 9223372036854775808 (by decide)
  refine ⟨hfive, hfits, ?_⟩
  rintro ⟨bytes, hbytes, -, hvalue⟩
  obtain rfl := Except.ok.inj ((hempty 9223372036854775808 (by decide)).symm.trans hbytes)
  exact nomatch hvalue

end IdentityProof
