import IdentityProof.Proofs.Signal.RoundTrip

/-! Bytes that begin with zeros. A number does not keep the zeros at its front, so packed bytes come
back without them, and no signal at all holds bytes that begin with one. -/

namespace IdentityProof

namespace Bytes

variable {bytes : Bytes}

def LeadsWithZero (bytes : Bytes) : Prop := bytes.head? = some 0

instance (bytes : Bytes) : Decidable (LeadsWithZero bytes) := inferInstanceAs (Decidable (_ = _))

def trimmed (bytes : Bytes) : Bytes := bytes.dropWhile (· == 0)

theorem trimmed_zero_cons (bytes : Bytes) : trimmed (0 :: bytes) = trimmed bytes := rfl

theorem trimmed_of_ne_zero {b : UInt8} (hb : b ≠ 0) (bytes : Bytes) :
    trimmed (b :: bytes) = b :: bytes := by
  have hkept : ¬ (b == 0) = true := mt eq_of_beq hb
  exact List.dropWhile_cons_of_neg hkept

theorem not_leadsWithZero_trimmed (bytes : Bytes) : ¬ LeadsWithZero (trimmed bytes) := by
  induction bytes with
  | nil => exact nofun
  | cons b bytes ih =>
    by_cases hb : b = 0
    · rw [hb, trimmed_zero_cons]
      exact ih
    · rw [trimmed_of_ne_zero hb]
      intro hzero
      exact hb (Option.some.inj hzero)

theorem trimmed_eq_self_iff : trimmed bytes = bytes ↔ ¬ LeadsWithZero bytes := by
  constructor
  · intro h
    rw [← h]
    exact not_leadsWithZero_trimmed bytes
  · intro h
    cases bytes with
    | nil => rfl
    | cons b bytes =>
      apply trimmed_of_ne_zero
      rintro rfl
      exact h rfl

theorem toNat_zero_cons (bytes : Bytes) : toNat (0 :: bytes) = toNat bytes := by
  have hzero : (0 : UInt8).toNat = 0 := rfl
  rw [toNat_cons, hzero, Nat.zero_mul, Nat.zero_add]

theorem ofNatMinimal_toNat_eq (bytes : Bytes) : ofNatMinimal (toNat bytes) = trimmed bytes := by
  induction bytes with
  | nil => rfl
  | cons b bytes ih =>
    by_cases hb : b = 0
    · rw [hb, toNat_zero_cons, trimmed_zero_cons, ih]
    · rw [ofNatMinimal_toNat hb, trimmed_of_ne_zero hb]

theorem toNat_trimmed (bytes : Bytes) : toNat (trimmed bytes) = toNat bytes := by
  rw [← ofNatMinimal_toNat_eq, toNat_ofNatMinimal]

theorem length_trimmed_le (bytes : Bytes) : (trimmed bytes).length ≤ bytes.length :=
  (List.dropWhile_suffix _).length_le

theorem replicate_append_trimmed (bytes : Bytes) :
    List.replicate (bytes.length - (trimmed bytes).length) 0 ++ trimmed bytes = bytes := by
  induction bytes with
  | nil => rfl
  | cons b bytes ih =>
    by_cases hb : b = 0
    · have hshort := length_trimmed_le bytes
      rw [hb, trimmed_zero_cons, List.length_cons, Nat.succ_sub hshort, List.replicate_succ,
        List.cons_append, ih]
    · rw [trimmed_of_ne_zero hb, Nat.sub_self]
      rfl

theorem ofNatMinimal_eq_iff {n : Nat} :
    ofNatMinimal n = bytes ↔ toNat bytes = n ∧ ¬ LeadsWithZero bytes := by
  constructor
  · rintro rfl
    have hvalue := toNat_ofNatMinimal n
    refine ⟨hvalue, ?_⟩
    rw [← trimmed_eq_self_iff, ← ofNatMinimal_toNat_eq, hvalue]
  · rintro ⟨rfl, hlead⟩
    rw [ofNatMinimal_toNat_eq, trimmed_eq_self_iff]
    exact hlead

end Bytes

namespace Packing

variable {bytes : Bytes} {signal : String}

theorem unpack_of_pack (h : pack bytes = .ok signal) :
    unpack signal = .ok (Bytes.trimmed bytes) := by
  rw [unpack_of_decimal (parseDecimal_decimalText h), Bytes.ofNatMinimal_toNat_eq]

theorem unpack_eq_ok_iff (hne : bytes ≠ []) : unpack signal = .ok bytes ↔
    parseDecimal signal = .ok (some (Bytes.toNat bytes)) ∧ ¬ Bytes.LeadsWithZero bytes := by
  constructor
  · intro h
    obtain ⟨n, hn, rfl⟩ := unpack_eq_ok h hne
    have hminimal := Except.ok.inj ((unpack_of_decimal hn).symm.trans h)
    exact ⟨hn, (Bytes.ofNatMinimal_eq_iff.mp hminimal).2⟩
  · rintro ⟨hn, hlead⟩
    rw [unpack_of_decimal hn, Bytes.ofNatMinimal_eq_iff.mpr ⟨rfl, hlead⟩]

end Packing
end IdentityProof
