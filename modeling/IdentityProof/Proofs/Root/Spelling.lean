import IdentityProof.Proofs.Signal.Overlong
import IdentityProof.Proofs.Signal.Packing
import IdentityProof.Root.Basic

/-! Roots and the decimals that spell them. A root is spelled by the decimals of its number, a text
spells at most one root, and a text that spells none is unreadable or overlong. -/

namespace IdentityProof

namespace Bytes

theorem toNat_injective {first second : Bytes} (hlen : first.length = second.length)
    (h : toNat first = toNat second) : first = second := by
  induction first generalizing second with
  | nil => exact (List.eq_nil_of_length_eq_zero hlen.symm).symm
  | cons b first ih =>
    cases second with
    | nil => exact nomatch hlen
    | cons c second =>
      have hlen : first.length = second.length := Nat.succ.inj hlen
      rw [toNat_cons, toNat_cons, hlen] at h
      have hfirst := toNat_lt_capacity first
      have hsecond := toNat_lt_capacity second
      rw [hlen] at hfirst
      have hpos := Nat.zero_lt_of_lt hfirst
      have hbyte : b.toNat = c.toNat := by
        have hdiv := congrArg (· / capacity second.length) h
        simpa only [Nat.mul_comm _ (capacity second.length), Nat.mul_add_div hpos,
          Nat.div_eq_of_lt hfirst, Nat.div_eq_of_lt hsecond, Nat.add_zero] using hdiv
      have hrest : toNat first = toNat second := by
        rw [hbyte] at h
        exact Nat.add_left_cancel h
      rw [ih hlen hrest, UInt8.toNat_inj.mp hbyte]

end Bytes

namespace Root

/-- The text is a decimal of the number that the bytes of the root stand for. -/
def SpelledBy (root : Root) (s : String) : Prop :=
  parseDecimal s = .ok (some (Bytes.toNat root.bytes))

/-- The text is no decimal, or its number does not go into 32 bytes. -/
def Unreadable (s : String) : Prop :=
  parseDecimal s = .ok none ∨ ∃ n, parseDecimal s = .ok (some n) ∧ Nat.pow 2 256 ≤ n

theorem capacity_eq : Bytes.capacity 32 = Nat.pow 2 256 := by decide

theorem ofNat?_of_lt {n : Nat} (h : n < Nat.pow 2 256) :
    ∃ root, ofNat? n = some root ∧ Bytes.toNat root.bytes = n := by
  rw [← capacity_eq] at h
  exact ⟨_, if_pos h, Bytes.toNat_ofNat h⟩

theorem ofNat?_toNat (root : Root) : ofNat? (Bytes.toNat root.bytes) = some root := by
  have hlt := Bytes.toNat_lt_capacity root.bytes
  rw [root.length_eq] at hlt
  obtain ⟨other, hother, hnat⟩ := ofNat?_of_lt (capacity_eq ▸ hlt)
  rw [hother]
  have hlen : other.bytes.length = root.bytes.length := other.length_eq.trans root.length_eq.symm
  have hbytes := Bytes.toNat_injective hlen hnat
  cases other
  cases root
  cases hbytes
  rfl

variable {s : String} {root : Root}

theorem parse_of_spelled (h : root.SpelledBy s) : parse (.text s) = .ok root := by
  have hsignal : ofSignal? s = .ok (some root) := by
    unfold ofSignal?
    rw [h]
    exact congrArg Except.ok (ofNat?_toNat root)
  unfold parse
  simp only [hsignal]
  rfl

theorem parse_of_unreadable (h : Unreadable s) :
    parse (.text s) = .error (.refused (.invalid (.unreadable (Text.quoted s)))) := by
  have hsignal : ofSignal? s = .ok none := by
    unfold ofSignal?
    rcases h with h | ⟨n, h, hlarge⟩
    · rw [h]
      rfl
    · rw [h]
      rw [← capacity_eq] at hlarge
      exact congrArg Except.ok (if_neg (Nat.not_lt.mpr hlarge))
  unfold parse
  simp only [hsignal]
  rfl

theorem parse_of_overlong (h : Overlong s) : ∃ f, parse (.text s) = .error (.fault f) := by
  obtain ⟨f, hf⟩ := isError_parseDecimal.mpr h
  have hsignal : ofSignal? s = .error f := by
    unfold ofSignal?
    rw [hf]
    rfl
  refine ⟨f, ?_⟩
  unfold parse
  simp only [hsignal]
  rfl

theorem spelling_cases (s : String) :
    Overlong s ∨ Unreadable s ∨ ∃ root : Root, root.SpelledBy s := by
  cases hs : parseDecimal s with
  | error f => exact .inl (isError_parseDecimal.mp ⟨f, hs⟩)
  | ok n? =>
    cases n? with
    | none => exact .inr (.inl (.inl hs))
    | some n =>
      rcases Nat.lt_or_ge n (Nat.pow 2 256) with hlt | hge
      · obtain ⟨root, -, hnat⟩ := ofNat?_of_lt hlt
        exact .inr (.inr ⟨root, by rw [SpelledBy, hnat, hs]⟩)
      · exact .inr (.inl (.inr ⟨n, hs, hge⟩))

end Root
end IdentityProof
