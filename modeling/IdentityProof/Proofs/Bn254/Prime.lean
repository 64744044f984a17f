import Mathlib.NumberTheory.LucasPrimality
import Mathlib.Tactic.NormNum.Prime
import IdentityProof.Bn254.Field

/-! Primes that are too long for trial division. The sizes of the field and of the group and the
factors of the cofactor are certified by Lucas's test, whose powers are taken by squaring. -/

namespace IdentityProof.Bn254

theorem two_mul_half (n : Nat) : 2 * (n / 2) + n % 2 = n := Nat.div_add_mod n 2

theorem half_lt {n fuel : Nat} (h : n < 2 ^ (fuel + 1)) : n / 2 < 2 ^ fuel := by
  rw [Nat.pow_succ] at h
  omega

theorem map_powerFrom {F M : Type} [Mul F] [Monoid M] {φ : F → M}
    (hmul : ∀ a b, φ (a * b) = φ a * φ b) {fuel n : Nat} (h : n < 2 ^ fuel) (base product : F) :
    φ (powerFrom fuel base n product) = φ product * φ base ^ n := by
  induction fuel generalizing n base product with
  | zero =>
    obtain rfl : n = 0 := by omega
    rw [powerFrom, pow_zero, mul_one]
  | succ fuel ih =>
    unfold powerFrom
    split
    · rename_i hzero
      rw [hzero, pow_zero, mul_one]
    · have hodd : φ (if n % 2 = 1 then product * base else product) = φ product * φ base ^ (n % 2) := by
        rcases Nat.mod_two_eq_zero_or_one n with hn | hn
        · rw [if_neg (by omega), hn, pow_zero, mul_one]
        · rw [if_pos hn, hn, hmul, pow_one]
      have hsplit : φ base ^ (n % 2) * (φ base * φ base) ^ (n / 2) = φ base ^ n := by
        rw [← pow_two, ← pow_mul, ← pow_add, Nat.add_comm, two_mul_half]
      rw [ih (half_lt h), hodd, hmul, mul_assoc, hsplit]

theorem map_power {F M : Type} [CoordinateField F] [Monoid M] {φ : F → M}
    (hmul : ∀ a b, φ (a * b) = φ a * φ b) (hone : φ CoordinateField.one = 1) (base : F) (n : Nat) :
    φ (power base n) = φ base ^ n := by
  rw [power, map_powerFrom hmul Nat.lt_log2_self, hone, one_mul]

/-! ## Certificates -/

def mulMod (m a b : Nat) : Nat := a * b % m

theorem natCast_mulMod (m a b : Nat) : (mulMod m a b : ZMod m) = a * b :=
  (ZMod.natCast_mod (a * b) m).trans (Nat.cast_mul a b)

def powerMod (m base n : Nat) : Nat :=
  @powerFrom Nat ⟨mulMod m⟩ (n.log2 + 1) base n 1 % m

theorem natCast_powerMod (m base n : Nat) : (powerMod m base n : ZMod m) = (base : ZMod m) ^ n := by
  have hpower := @map_powerFrom Nat (ZMod m) ⟨mulMod m⟩ _ _ (natCast_mulMod m) _ _
    (Nat.lt_log2_self (n := n)) base 1
  rw [powerMod, ZMod.natCast_mod, hpower, Nat.cast_one, one_mul]

theorem powerMod_eq_one_iff {m base n : Nat} (hm : 2 ≤ m) :
    powerMod m base n = 1 ↔ (base : ZMod m) ^ n = 1 := by
  have hreduced : powerMod m base n % m = powerMod m base n := Nat.mod_mod _ _
  have hone : (1 : ZMod m) = (1 : Nat) := Nat.cast_one.symm
  rw [← natCast_powerMod, hone, ZMod.natCast_eq_natCast_iff', hreduced, Nat.mod_eq_of_lt hm]

structure Certificate where
  number : Nat
  element : Nat
  factors : List Nat

namespace Certificate

def check (known : List Nat) (c : Certificate) : Bool :=
  decide (2 ≤ c.number) && c.factors.all (known.contains ·) && c.factors.prod == c.number - 1 &&
    powerMod c.number c.element (c.number - 1) == 1 &&
    c.factors.all fun q => powerMod c.number c.element ((c.number - 1) / q) != 1

variable {known : List Nat}

theorem prime_of_check {c : Certificate} (hknown : ∀ q ∈ known, q.Prime)
    (h : c.check known = true) : c.number.Prime := by
  simp only [check, Bool.and_eq_true, decide_eq_true_eq, List.all_eq_true, List.contains_iff_mem,
    beq_iff_eq, bne_iff_ne] at h
  obtain ⟨⟨⟨⟨htwo, hfactors⟩, hprod⟩, hfull⟩, hproper⟩ := h
  refine lucas_primality _ c.element ((powerMod_eq_one_iff htwo).mp hfull) fun q hq hdvd => ?_
  rw [← hprod] at hdvd
  obtain ⟨factor, hmem, hq'⟩ := (Prime.dvd_prod_iff hq.prime).mp hdvd
  obtain rfl := (Nat.prime_dvd_prime_iff_eq hq (hknown factor (hfactors factor hmem))).mp hq'
  exact mt (powerMod_eq_one_iff htwo).mpr (hproper q hmem)

def checkAll : List Nat → List Certificate → Bool
  | _, [] => true
  | known, c :: rest => c.check known && checkAll (c.number :: known) rest

theorem prime_of_checkAll {certificates : List Certificate} (hknown : ∀ q ∈ known, q.Prime)
    (h : checkAll known certificates = true) : ∀ c ∈ certificates, c.number.Prime := by
  induction certificates generalizing known with
  | nil => exact nofun
  | cons c rest ih =>
    rw [checkAll, Bool.and_eq_true] at h
    have hc := prime_of_check hknown h.1
    exact List.forall_mem_cons.mpr ⟨hc, ih (List.forall_mem_cons.mpr ⟨hc, hknown⟩) h.2⟩

end Certificate

def smallPrimes : List Nat := [
  2, 3, 5, 7, 11, 13, 17, 19, 23, 29, 41, 43, 59, 61, 67, 73, 83, 89, 107, 109, 149, 181, 229, 311,
  379, 661, 823, 853, 911, 983, 1031, 1231, 1637, 3557, 3691, 4999, 10069, 11003, 13327, 77339,
  93001, 133769, 237073, 327599, 601379, 1233079, 1593227, 1612327, 1853641]

def certificates : List Certificate := [
  ⟨405928799, 22, [2, 11, 3691, 4999]⟩,
  ⟨11465965001, 3, [2, 2, 2, 5, 5, 5, 5, 7, 327599]⟩,
  ⟨4562087, 5, [2, 17, 109, 1231]⟩,
  ⟨173171039, 13, [2, 73, 89, 13327]⟩,
  ⟨1263766531, 10, [2, 3, 5, 13, 911, 3557]⟩,
  ⟨35385462869, 2, [2, 2, 7, 1263766531]⟩,
  ⟨2480874801745591, 6, [2, 3, 3, 5, 19, 41, 35385462869]⟩,
  ⟨13427688667394608761327070753331941386769, 17,
    [2, 2, 2, 2, 3, 7, 11, 1853641, 4562087, 173171039, 2480874801745591]⟩,
  ⟨21888242871839275222246405745257275088696311157297823662689037894645226208583, 3,
    [2, 3, 3, 13, 29, 67, 229, 311, 983, 11003, 405928799, 11465965001,
    13427688667394608761327070753331941386769]⟩,
  ⟨12048837557, 2, [2, 2, 7, 7, 661, 93001]⟩,
  ⟨5156902474397, 2, [2, 2, 107, 12048837557]⟩,
  ⟨1670836401704629, 2, [2, 2, 3, 3, 3, 3, 5156902474397]⟩,
  ⟨639533339, 2, [2, 229, 853, 1637]⟩,
  ⟨65865678001877903, 5, [2, 83, 379, 1637, 639533339]⟩,
  ⟨13818364434197438864469338081, 3, [2, 2, 2, 2, 2, 5, 823, 1593227, 65865678001877903]⟩,
  ⟨21888242871839275222246405745257275088548364400416034343698204186575808495617, 5,
    [2, 2, 2, 2, 2, 2, 2, 2, 2, 2, 2, 2, 2, 2, 2, 2, 2, 2, 2, 2, 2, 2, 2, 2, 2, 2, 2, 2, 3, 3, 13,
    29, 983, 11003, 237073, 405928799, 1670836401704629, 13818364434197438864469338081]⟩,
  ⟨5864401, 38, [2, 2, 2, 2, 3, 3, 3, 3, 5, 5, 181]⟩,
  ⟨17367825521, 3, [2, 2, 2, 2, 5, 19, 19, 601379]⟩,
  ⟨1875725156269, 2, [2, 2, 3, 3, 3, 17367825521]⟩,
  ⟨5835139, 3, [2, 3, 61, 107, 149]⟩,
  ⟨758568071, 14, [2, 5, 13, 5835139]⟩,
  ⟨1309000310535827101, 2, [2, 2, 3, 5, 5, 43, 133769, 758568071]⟩,
  ⟨677736056450657, 3, [2, 2, 2, 2, 2, 7, 23, 83, 983, 1612327]⟩,
  ⟨209661715479349446893, 2, [2, 2, 77339, 677736056450657]⟩,
  ⟨3458579658547348475946929, 3, [2, 2, 2, 2, 1031, 209661715479349446893]⟩,
  ⟨213235097339095295568608163219551, 31, [2, 5, 5, 1233079, 3458579658547348475946929]⟩,
  ⟨197620364512881247228717050342013327560683201906968909, 2,
    [2, 2, 3, 59, 1309000310535827101, 213235097339095295568608163219551]⟩]

theorem prime_of_mem_smallPrimes : ∀ q ∈ smallPrimes, q.Prime := by
  simp only [smallPrimes, List.forall_mem_cons, List.not_mem_nil, false_implies, implies_true]
  norm_num

theorem prime_of_mem_certificates : ∀ c ∈ certificates, c.number.Prime :=
  Certificate.prime_of_checkAll prime_of_mem_smallPrimes (by decide +kernel)

theorem prime_of_certified {n : Nat} (h : (certificates.map (·.number)).contains n = true) :
    n.Prime := by
  obtain ⟨c, hc, rfl⟩ := List.mem_map.mp (List.contains_iff_mem.mp h)
  exact prime_of_mem_certificates c hc

theorem prime_fieldSize : fieldSize.Prime := prime_of_certified (by decide +kernel)

theorem prime_order : order.Prime := prime_of_certified (by decide +kernel)

def cofactor : Nat := 2 * fieldSize - order

def cofactorPrimes : List Nat :=
  [10069, 5864401, 1875725156269, 197620364512881247228717050342013327560683201906968909]

theorem prod_cofactorPrimes : cofactorPrimes.prod = cofactor := by decide +kernel

theorem prime_of_mem_cofactorPrimes : ∀ q ∈ cofactorPrimes, q.Prime := by
  have hsmall : Nat.Prime 10069 := prime_of_mem_smallPrimes _ (by decide)
  simp only [cofactorPrimes, List.forall_mem_cons, List.not_mem_nil, false_implies, implies_true,
    and_true]
  exact ⟨hsmall, prime_of_certified (by decide +kernel), prime_of_certified (by decide +kernel),
    prime_of_certified (by decide +kernel)⟩

end IdentityProof.Bn254
