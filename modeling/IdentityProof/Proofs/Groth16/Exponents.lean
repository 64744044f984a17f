import IdentityProof.Proofs.Groth16.Encoding
import Mathlib.Data.ZMod.Basic
import Mathlib.SetTheory.Cardinal.Finite

/-! Points that are known by their factors. They add and pair as the points of the curve do, and
have the coordinates of the curve as far as small multiples of its generators go. -/

namespace IdentityProof.Groth16

structure Exponent where
  value : Int
  deriving DecidableEq

namespace Exponent

def generator1 : Bn254.G1 := .ofAffine (.ofNat 1) (.ofNat 2)

def generator2 : Bn254.G2 := .ofAffine
  ⟨.ofNat 10857046999023057135944570762232829481370756359578518086990519993285655852781,
    .ofNat 11559732032986387107991004021392285783925812861821192530917403151452391805634⟩
  ⟨.ofNat 8495653923123431417604973247489272438418190587263600148770280649306958101930,
    .ofNat 4082367875863433681332203403145435568316851327593401208105741076214120093531⟩

def coordinates1 (k : Nat) : Nat × Nat :=
  (Bn254.G1.affine? (generator1.multiply k)).getD (0, 0)

def coordinates2 (k : Nat) : (Nat × Nat) × (Nat × Nat) :=
  match Bn254.G2.affine? (generator2.multiply k) with
  | some (x, y) => ((x.re.val, x.im.val), (y.re.val, y.im.val))
  | none => ((0, 0), (0, 0))

def bound : Nat := 6

def find? (p : Nat → Bool) : Option Exponent :=
  ((List.range bound).find? p).map fun k => ⟨k⟩

instance : PairingGroups Exponent Exponent where
  order := Bn254.order
  zero1 := ⟨0⟩
  zero2 := ⟨0⟩
  add1 p q := ⟨p.value + q.value⟩
  neg1 p := ⟨-p.value⟩
  multiply1 p n := ⟨n * p.value⟩
  point1? x y := find? fun k => (coordinates1 k).1 = x ∧ (coordinates1 k).2 = y
  point2? x0 x1 y0 y1 := find? fun k =>
    ((coordinates2 k).1.1 = x0 ∧ (coordinates2 k).1.2 = x1) ∧
      (coordinates2 k).2.1 = y0 ∧ (coordinates2 k).2.2 = y1
  productIsOne pairs := (pairs.map fun p => p.1.value * p.2.value).sum % Bn254.order == 0

abbrev Residue := ZMod Bn254.order

theorem mem_zmultiples_one (x : Residue) : x ∈ AddSubgroup.zmultiples (1 : Residue) := by
  obtain ⟨k, rfl⟩ := ZMod.intCast_surjective x
  exact AddSubgroup.mem_zmultiples_iff.mpr ⟨k, zsmul_one k⟩

theorem card_residue : Nat.card Residue = Bn254.order := Nat.card_zmod _

theorem eq_zero_of_mul_eq_zero (x : Residue) (h : ∀ y, AddMonoidHom.mul x y = 0) : x = 0 :=
  (mul_one x).symm.trans (h 1)

def residues : PairedGroups Residue Residue Residue where
  base1 := 1
  base2 := 1
  generates1 := mem_zmultiples_one
  generates2 := mem_zmultiples_one
  card1 := card_residue
  card2 := card_residue
  pairing := AddMonoidHom.mul
  nondegenerate := eq_zero_of_mul_eq_zero

def residue (p : Exponent) : Residue := p.value

theorem residue_add {p q : Exponent} {x y : Residue} (hp : p.residue = x) (hq : q.residue = y) :
    (PairingGroups.add1 Exponent p q).residue = x + y := by
  rw [← hp, ← hq]
  exact Int.cast_add p.value q.value

theorem residue_neg {p : Exponent} {x : Residue} (hp : p.residue = x) :
    (PairingGroups.neg1 Exponent p).residue = -x := by
  rw [← hp]
  exact Int.cast_neg p.value

theorem residue_multiply {p : Exponent} {x : Residue} (n : Nat) (hp : p.residue = x) :
    (PairingGroups.multiply1 Exponent p n).residue = n • x := by
  rw [← hp, nsmul_eq_mul, ← Int.cast_natCast]
  exact Int.cast_mul (n : Int) p.value

theorem productIsOne_residue {pairs : List (Exponent × Exponent)}
    {values : List (Residue × Residue)}
    (h : List.Forall₂ (fun p v => p.1.residue = v.1 ∧ p.2.residue = v.2) pairs values) :
    PairingGroups.productIsOne pairs = true ↔
      (values.map fun v => residues.pairing v.1 v.2).sum = 0 := by
  have hsum : (values.map fun v => residues.pairing v.1 v.2).sum =
      ((pairs.map fun p => p.1.value * p.2.value).sum : Int) := by
    induction h with
    | nil => exact Int.cast_zero.symm
    | cons hpair _ ih =>
      rw [List.map_cons, List.sum_cons, ih, ← hpair.1, ← hpair.2, List.map_cons, List.sum_cons,
        Int.cast_add, Int.cast_mul]
      rfl
  rw [hsum, ZMod.intCast_zmod_eq_zero_iff_dvd, Int.dvd_iff_emod_eq_zero]
  exact beq_iff_eq

def meaning : Meaning residues Exponent Exponent where
  order_eq := rfl
  stands1 p x := p.residue = x
  stands2 p x := p.residue = x
  zero1 := Int.cast_zero
  zero2 := Int.cast_zero
  add1 := residue_add
  neg1 := residue_neg
  multiply1 := residue_multiply
  product := productIsOne_residue

def texts1 (k : Nat) : List String :=
  [toString (coordinates1 k).1, toString (coordinates1 k).2, "1"]

def texts2 (k : Nat) : List (List String) :=
  [[toString (coordinates2 k).1.1, toString (coordinates2 k).1.2],
    [toString (coordinates2 k).2.1, toString (coordinates2 k).2.2], ["1", "0"]]

theorem coordinates1_small : ∀ k < bound,
    ((coordinates1 k).1 < 10 ^ 77 ∧ (coordinates1 k).2 < 10 ^ 77) ∧
      if k = 0 then coordinates1 k = (0, 0) else
        ¬ (((coordinates1 k).1 : Int) = 0 ∧ ((coordinates1 k).2 : Int) = 0) ∧
          PairingGroups.point1? Exponent (coordinates1 k).1 (coordinates1 k).2 =
            some (⟨k⟩ : Exponent) := by
  decide +kernel

theorem coordinates2_small : ∀ k < bound,
    (((coordinates2 k).1.1 < 10 ^ 77 ∧ (coordinates2 k).1.2 < 10 ^ 77) ∧
      (coordinates2 k).2.1 < 10 ^ 77 ∧ (coordinates2 k).2.2 < 10 ^ 77) ∧
      if k = 0 then coordinates2 k = ((0, 0), (0, 0)) else
        ¬ (((coordinates2 k).1.1 : Int) = 0 ∧ ((coordinates2 k).1.2 : Int) = 0 ∧
            ((coordinates2 k).2.1 : Int) = 0 ∧ ((coordinates2 k).2.2 : Int) = 0) ∧
          PairingGroups.point2? Exponent (coordinates2 k).1.1 (coordinates2 k).1.2
            (coordinates2 k).2.1 (coordinates2 k).2.2 = some (⟨k⟩ : Exponent) := by
  decide +kernel

theorem residue_natCast (k : Nat) : residue ⟨k⟩ = (k : Int) • (1 : Residue) :=
  (zsmul_one (k : Int)).symm

theorem encodes1 {k : Nat} (hk : k < bound) :
    meaning.Encodes1 (.array ((texts1 k).map .text)) k := by
  obtain ⟨⟨hx, hy⟩, hpoint⟩ := coordinates1_small k hk
  have hreadx : Coordinate.readEntry (.array ((texts1 k).map .text)) 0 = _ := readEntry_text rfl hx
  have hready : Coordinate.readEntry (.array ((texts1 k).map .text)) 1 = _ := readEntry_text rfl hy
  split at hpoint
  · rename_i hzero
    rw [hpoint] at hreadx hready
    exact .infinite hreadx hready (by rw [hzero]; exact zero_zsmul _)
  · exact .finite hreadx hready hpoint.1 hpoint.2 (residue_natCast k)

theorem begins2 {k : Nat} (hk : k < bound) :
    Meaning.Begins (.array ((texts2 k).map fun row => .array (row.map .text)))
      (coordinates2 k).1.1 (coordinates2 k).1.2 (coordinates2 k).2.1 (coordinates2 k).2.2 := by
  obtain ⟨⟨⟨hx0, hx1⟩, hy0, hy1⟩, -⟩ := coordinates2_small k hk
  exact ⟨⟨_, rfl, readEntry_text rfl hx0, readEntry_text rfl hx1⟩,
    ⟨_, rfl, readEntry_text rfl hy0, readEntry_text rfl hy1⟩⟩

theorem encodes2 {k : Nat} (hk : k < bound) :
    meaning.Encodes2 (.array ((texts2 k).map fun row => .array (row.map .text))) k := by
  obtain ⟨-, hpoint⟩ := coordinates2_small k hk
  have hbegins := begins2 hk
  split at hpoint
  · rename_i hzero
    rw [hpoint] at hbegins
    exact .infinite hbegins (by rw [hzero]; exact zero_zsmul _)
  · exact .finite hbegins hpoint.1 hpoint.2 (residue_natCast k)

end Exponent
end IdentityProof.Groth16
