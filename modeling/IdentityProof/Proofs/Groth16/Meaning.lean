import IdentityProof.Groth16.Verify
import IdentityProof.Proofs.Fault
import Mathlib.Data.Int.ModEq
import Mathlib.GroupTheory.SpecificGroups.Cyclic
import Mathlib.Tactic.Ring

/-! What points and pairings mean. The points stand for elements of two cyclic groups, and a pairing
of multiples of the generators is a multiple of the pairing of the generators, so that a product of
pairings is one exactly when an equation holds between the factors. -/

namespace IdentityProof.Groth16

/-- Two groups of the order of the curve, each with a generator, and a bilinear pairing of them
that is not degenerate. All groups are written additively, the target of the pairing too. -/
structure PairedGroups (M1 M2 T : Type) [AddCommGroup M1] [AddCommGroup M2] [AddCommGroup T] where
  base1 : M1
  base2 : M2
  generates1 : ∀ x, x ∈ AddSubgroup.zmultiples base1
  generates2 : ∀ y, y ∈ AddSubgroup.zmultiples base2
  card1 : Nat.card M1 = Bn254.order
  card2 : Nat.card M2 = Bn254.order
  pairing : M1 →+ M2 →+ T
  nondegenerate : ∀ x, (∀ y, pairing x y = 0) → x = 0

variable {M1 M2 T : Type} [AddCommGroup M1] [AddCommGroup M2] [AddCommGroup T]

namespace PairedGroups

variable (g : PairedGroups M1 M2 T)

theorem pairing_zsmul_left (k : Int) (x : M1) (y : M2) :
    g.pairing (k • x) y = k • g.pairing x y :=
  map_zsmul (g.pairing.flip y) k x

theorem pairing_zsmul (k l : Int) :
    g.pairing (k • g.base1) (l • g.base2) = (k * l) • g.pairing g.base1 g.base2 := by
  rw [pairing_zsmul_left, map_zsmul, mul_zsmul]

theorem zsmul_pairing_eq_zero_iff (k : Int) :
    k • g.pairing g.base1 g.base2 = 0 ↔ (Bn254.order : Int) ∣ k := by
  have horder : addOrderOf g.base1 = Bn254.order :=
    (addOrderOf_eq_card_of_forall_mem_zmultiples g.generates1).trans g.card1
  rw [← horder, addOrderOf_dvd_iff_zsmul_eq_zero]
  constructor
  · intro hzero
    refine g.nondegenerate _ fun y => ?_
    obtain ⟨l, rfl⟩ := AddSubgroup.mem_zmultiples_iff.mp (g.generates2 y)
    rw [g.pairing_zsmul, mul_zsmul', hzero, zsmul_zero]
  · intro hzero
    rw [← g.pairing_zsmul_left, hzero, map_zero, AddMonoidHom.zero_apply]

end PairedGroups

/-- The points stand for the elements of the groups, by relations that the arithmetic respects. -/
structure Meaning (g : PairedGroups M1 M2 T) (G1 G2 : Type) [PairingGroups G1 G2] where
  order_eq : PairingGroups.order G1 G2 = Bn254.order
  stands1 : G1 → M1 → Prop
  stands2 : G2 → M2 → Prop
  zero1 : stands1 (PairingGroups.zero1 G2) 0
  zero2 : stands2 (PairingGroups.zero2 G1) 0
  add1 {p q : G1} {x y : M1} :
    stands1 p x → stands1 q y → stands1 (PairingGroups.add1 G2 p q) (x + y)
  neg1 {p : G1} {x : M1} : stands1 p x → stands1 (PairingGroups.neg1 G2 p) (-x)
  multiply1 {p : G1} {x : M1} (n : Nat) :
    stands1 p x → stands1 (PairingGroups.multiply1 G2 p n) (n • x)
  product {pairs : List (G1 × G2)} {values : List (M1 × M2)} :
    List.Forall₂ (fun p v => stands1 p.1 v.1 ∧ stands2 p.2 v.2) pairs values →
      (PairingGroups.productIsOne pairs = true ↔
        (values.map fun v => g.pairing v.1 v.2).sum = 0)

namespace Meaning

variable {G1 G2 : Type} [PairingGroups G1 G2] {g : PairedGroups M1 M2 T} (m : Meaning g G1 G2)

def Is1 (p : G1) (k : Int) : Prop := m.stands1 p (k • g.base1)

def Is2 (p : G2) (k : Int) : Prop := m.stands2 p (k • g.base2)

variable {m}

theorem Is1.neg {p : G1} {k : Int} (h : m.Is1 p k) :
    m.Is1 (PairingGroups.neg1 G2 p) (-k) := by
  unfold Is1
  rw [neg_zsmul]
  exact m.neg1 h

theorem Is1.addMultiple {sum p : G1} {j k : Int} (hsum : m.Is1 sum j) (hp : m.Is1 p k) (s : Nat) :
    m.Is1 (if s = 0 then sum
      else PairingGroups.add1 G2 sum (PairingGroups.multiply1 G2 p s)) (j + s * k) := by
  split
  · rename_i hs
    rwa [hs, Nat.cast_zero, zero_mul, add_zero]
  · unfold Is1
    rw [add_zsmul, mul_zsmul, natCast_zsmul]
    exact m.add1 hsum (m.multiply1 s hp)

theorem combine?_cons (first p : G1) (rest : List G1) (s : Nat) (signals : List Nat) :
    combine? G2 (first :: p :: rest) (s :: signals) =
      combine? G2 ((if s = 0 then first
        else PairingGroups.add1 G2 first (PairingGroups.multiply1 G2 p s)) :: rest) signals :=
  rfl

theorem combine?_nil (first : G1) (rest : List G1) :
    combine? G2 (first :: rest) [] = some first := by
  simp only [combine?, List.head?_cons, Option.map_some, List.zip_nil_right, List.foldl_nil]

theorem Is1.combine {first : G1} {rest : List G1} {constant : Int} {factors : List Int}
    (hfirst : m.Is1 first constant) (hrest : List.Forall₂ m.Is1 rest factors)
    (signals : List Nat) :
    ∃ x, combine? G2 (first :: rest) signals = some x ∧ m.Is1 x
      (constant + (List.zipWith (· * ·) (signals.map Nat.cast) factors).sum) := by
  induction hrest generalizing first constant signals with
  | nil =>
    refine ⟨first, rfl, ?_⟩
    rwa [List.zipWith_nil_right, List.sum_nil, add_zero]
  | cons hp hrest ih =>
    cases signals with
    | nil =>
      refine ⟨first, combine?_nil _ _, ?_⟩
      rwa [List.map_nil, List.zipWith_nil_left, List.sum_nil, add_zero]
    | cons s signals =>
      rw [combine?_cons, List.map_cons, List.zipWith_cons_cons, List.sum_cons, ← add_assoc]
      exact ih (hfirst.addMultiple hp s) signals

theorem productIsOne_iff {pairs : List (G1 × G2)} {factors : List (Int × Int)}
    (h : List.Forall₂ (fun p k => m.Is1 p.1 k.1 ∧ m.Is2 p.2 k.2) pairs factors) :
    PairingGroups.productIsOne pairs = true ↔
      (Bn254.order : Int) ∣ (factors.map fun k => k.1 * k.2).sum := by
  have hsum (factors : List (Int × Int)) :
      (factors.map fun k => g.pairing (k.1 • g.base1) (k.2 • g.base2)).sum =
        (factors.map fun k => k.1 * k.2).sum • g.pairing g.base1 g.base2 := by
    induction factors with
    | nil => exact (zero_zsmul _).symm
    | cons k factors ih =>
      rw [List.map_cons, List.sum_cons, ih, g.pairing_zsmul, ← add_zsmul, List.map_cons,
        List.sum_cons]
  have hproduct := m.product (List.forall₂_map_right_iff
    (f := fun k : Int × Int => (k.1 • g.base1, k.2 • g.base2)).mpr h)
  rw [hproduct, List.map_map, ← g.zsmul_pairing_eq_zero_iff, ← hsum]
  rfl

/-- The four pairings balance exactly when the equation holds between the factors. -/
theorem isBalanced_iff {key : VerifyingKey G1 G2} {st : Statement G1 G2} {x : G1}
    {a b c alpha beta gamma delta k : Int} (ha : m.Is1 st.a a) (hb : m.Is2 st.b b)
    (hc : m.Is1 st.c c) (halpha : m.Is1 key.alpha alpha) (hbeta : m.Is2 key.beta beta)
    (hgamma : m.Is2 key.gamma gamma) (hdelta : m.Is2 key.delta delta) (hx : m.Is1 x k) :
    isBalanced key x st = true ↔
      a * b ≡ alpha * beta + k * gamma + c * delta [ZMOD Bn254.order] := by
  have hproduct : isBalanced key x st = true ↔ (Bn254.order : Int) ∣
      ([(a, b), (-alpha, beta), (-k, gamma), (-c, delta)].map fun k => k.1 * k.2).sum :=
    productIsOne_iff (.cons ⟨ha, hb⟩ (.cons ⟨halpha.neg, hbeta⟩ (.cons ⟨hx.neg, hgamma⟩
      (.cons ⟨hc.neg, hdelta⟩ .nil))))
  have hsum : ([(a, b), (-alpha, beta), (-k, gamma), (-c, delta)].map fun k => k.1 * k.2).sum =
      a * b - (alpha * beta + k * gamma + c * delta) := by
    simp only [List.map_cons, List.map_nil, List.sum_cons, List.sum_nil]
    ring
  rw [hproduct, hsum, Int.modEq_comm, Int.modEq_iff_dvd]

end Meaning
end IdentityProof.Groth16
