import IdentityProof.Proofs.Rule.Refusal
import IdentityProof.Proofs.Signal.Decimal

/-! Packed signals. Bytes, texts and dates that a signal holds are those of its number: packing them
again gives the number back. -/

namespace IdentityProof

namespace Bytes

def capacity (width : Nat) : Nat := Nat.pow 256 width

theorem capacity_succ (width : Nat) : capacity (width + 1) = capacity width * 256 := rfl

theorem foldl_toNat (n : Nat) (bytes : Bytes) :
    bytes.foldl (fun n b => n * 256 + b.toNat) n = n * capacity bytes.length + toNat bytes := by
  unfold toNat
  induction bytes generalizing n with
  | nil => exact (Nat.mul_one n).symm
  | cons b bytes ih =>
    rw [List.foldl_cons, List.foldl_cons, ih, ih (0 * 256 + b.toNat), List.length_cons,
      capacity_succ, Nat.add_mul, Nat.zero_mul, Nat.zero_add]
    rw [Nat.mul_assoc, Nat.mul_comm 256, Nat.add_assoc]

theorem toNat_cons (b : UInt8) (bytes : Bytes) :
    toNat (b :: bytes) = b.toNat * capacity bytes.length + toNat bytes := by
  have h : toNat (b :: bytes) = (0 * 256 + b.toNat) * capacity bytes.length + toNat bytes :=
    foldl_toNat _ bytes
  rwa [Nat.zero_mul, Nat.zero_add] at h

theorem toNat_lt_capacity (bytes : Bytes) : toNat bytes < capacity bytes.length := by
  induction bytes with
  | nil => exact Nat.zero_lt_one
  | cons b bytes ih =>
    have hb : b.toNat + 1 ≤ 256 := b.toNat_lt
    calc toNat (b :: bytes) = b.toNat * capacity bytes.length + toNat bytes := toNat_cons b bytes
      _ < (b.toNat + 1) * capacity bytes.length := by rw [Nat.succ_mul]; omega
      _ ≤ 256 * capacity bytes.length := Nat.mul_le_mul_right _ hb
      _ = capacity (b :: bytes).length := by rw [List.length_cons, capacity_succ, Nat.mul_comm]

theorem toNat_ofNatOnto (width n : Nat) (rest : Bytes) :
    toNat (ofNatOnto width n rest) =
      n % capacity width * capacity rest.length + toNat rest := by
  induction width generalizing n rest with
  | zero =>
    have hnone : n % capacity 0 = 0 := Nat.mod_one n
    rw [ofNatOnto, hnone, Nat.zero_mul, Nat.zero_add]
  | succ width ih =>
    have hbyte : (UInt8.ofNat n).toNat = n % 256 := UInt8.toNat_ofNat
    have hsplit : n % capacity (width + 1) = n % 256 + 256 * (n / 256 % capacity width) := by
      rw [capacity_succ, Nat.mul_comm, Nat.mod_mul]
    have hhigh : n / 256 % capacity width * (capacity rest.length * 256) =
        256 * (n / 256 % capacity width) * capacity rest.length := by
      rw [Nat.mul_comm (capacity rest.length), ← Nat.mul_assoc, Nat.mul_comm _ 256]
    rw [ofNatOnto, ih, toNat_cons, List.length_cons, hbyte, capacity_succ, hhigh, hsplit,
      Nat.add_mul, ← Nat.add_assoc, Nat.add_comm (256 * _ * _)]

theorem toNat_ofNat {width n : Nat} (h : n < capacity width) : toNat (ofNat width n) = n := by
  rw [ofNat, toNat_ofNatOnto, Nat.mod_eq_of_lt h]
  exact Nat.mul_one n

theorem lt_capacity_widthOf (n : Nat) : n < capacity (widthOf n) := by
  unfold widthOf
  split
  · rename_i hzero
    rw [hzero]
    decide
  · have hlog : n < 2 ^ (n.log2 + 1) := Nat.lt_log2_self
    have hbits : n.log2 + 1 ≤ 8 * (n.log2 / 8 + 1) := by omega
    calc n < 2 ^ (n.log2 + 1) := hlog
      _ ≤ 2 ^ (8 * (n.log2 / 8 + 1)) := Nat.pow_le_pow_right (by decide) hbits
      _ = 256 ^ (n.log2 / 8 + 1) := by rw [Nat.pow_mul]

theorem toNat_ofNatMinimal (n : Nat) : toNat (ofNatMinimal n) = n :=
  toNat_ofNat (lt_capacity_widthOf n)

end Bytes

theorem Text.toNat_ofNat_byte (b : UInt8) : (Char.ofNat b.toNat).toNat = b.toNat := by
  have hlt := b.toNat_lt
  have hvalid : b.toNat.isValidChar := .inl (by omega)
  rw [Char.ofNat, dif_pos hvalid]
  rfl

theorem Text.encodeLatin1_latin1 (bytes : Bytes) : encodeLatin1 (latin1 bytes) = .ok bytes := by
  have hfits : ∀ c ∈ latin1 bytes, (decide (c.toNat < 256)) = true := by
    intro c hc
    obtain ⟨b, -, rfl⟩ := List.mem_map.mp hc
    have hlt := b.toNat_lt
    simp only [toNat_ofNat_byte, decide_eq_true_eq]
    omega
  have hdrop : (latin1 bytes ++ []).dropWhile _ = [] := List.dropWhile_append_of_pos hfits
  rw [List.append_nil] at hdrop
  simp only [encodeLatin1, hdrop]
  simp [latin1, Function.comp_def, toNat_ofNat_byte]

namespace Packing

theorem unpack_of_decimal {signal : String} {n : Nat} (h : parseDecimal signal = .ok (some n)) :
    unpack signal = .ok (Bytes.ofNatMinimal n) := by
  unfold unpack
  rw [h]
  rfl

theorem unpack_eq_ok {signal : String} {bytes : Bytes} (h : unpack signal = .ok bytes)
    (hne : bytes ≠ []) : ∃ n, parseDecimal signal = .ok (some n) ∧ Bytes.toNat bytes = n := by
  obtain ⟨n?, hn, h⟩ := bind_eq_ok.mp h
  cases n? with
  | none =>
    obtain rfl := pure_eq_ok.mp h
    exact absurd rfl hne
  | some n =>
    obtain rfl := pure_eq_ok.mp h
    exact ⟨n, hn, Bytes.toNat_ofNatMinimal n⟩

theorem unpackText_eq_ok {signal text : String} (h : unpackText signal = .ok text)
    (hne : text ≠ "") : ∃ n bytes, parseDecimal signal = .ok (some n) ∧
      Text.encodeLatin1 text.toList = .ok bytes ∧ Bytes.toNat bytes = n := by
  obtain ⟨bytes, hb, h⟩ := bind_eq_ok.mp h
  obtain rfl := pure_eq_ok.mp h
  have hbytes : bytes ≠ [] := by
    rintro rfl
    exact hne rfl
  obtain ⟨n, hn, hv⟩ := unpack_eq_ok hb hbytes
  exact ⟨n, bytes, hn, by rw [String.toList_ofList, Text.encodeLatin1_latin1], hv⟩

end Packing

namespace PackedDate

/-- The number holds the date: its bytes, read as text, spell it. -/
def Holds (n : Nat) (date : Date) : Prop :=
  parse (String.ofList (Text.latin1 (Bytes.ofNatMinimal n))) = .ok date

theorem unpack_eq_ok {signal : String} {date : Date} (h : unpack signal = .ok date) :
    ∃ n, parseDecimal signal = .ok (some n) ∧ Holds n date := by
  obtain ⟨n?, hn, h⟩ := bind_eq_ok.mp h
  rw [Fault.lift_eq_ok] at hn
  cases n? with
  | none => exact nomatch h
  | some n =>
    obtain ⟨text, ht, h⟩ := bind_eq_ok.mp h
    rw [Fault.lift_eq_ok] at ht
    obtain ⟨bytes, hb, ht⟩ := bind_eq_ok.mp ht
    obtain rfl := pure_eq_ok.mp ht
    obtain rfl : Bytes.ofNatMinimal n = bytes := by
      rw [Packing.unpack_of_decimal hn] at hb
      exact Except.ok.inj hb
    refine ⟨n, hn, ?_⟩
    unfold Holds
    cases hp : parse (String.ofList (Text.latin1 (Bytes.ofNatMinimal n))) with
    | error why =>
      rw [hp] at h
      exact nomatch h
    | ok found =>
      rw [hp] at h
      exact congrArg _ (pure_eq_ok.mp h)

end PackedDate

end IdentityProof
