import IdentityProof.Proofs.Groth16.Meaning
import IdentityProof.Proofs.Signal.Decimal
import Mathlib.Data.Nat.Digits.Defs

/-! How the multiples of the generators are given: by arrays that begin with the coordinates of a
point, and signals by texts. What is given so is read as points that stand for these multiples. -/

namespace IdentityProof.Groth16

open Coordinate (readEntry readPoint1 readPoint2)

structure KeyFactors where
  alpha : Int
  beta : Int
  gamma : Int
  delta : Int
  constant : Int
  inputs : List Int

structure ProofFactors where
  a : Int
  b : Int
  c : Int

/-- The text spells an integer: it is its decimal, or anything else that is read as it. -/
def Spells (text : String) (n : Int) : Prop := text = toString n ∨ readInteger text = .ok n

theorem readInteger_of_lt {n : Int} (h : n.natAbs < 10 ^ 77) :
    readInteger (toString n) = .ok n := by
  have hshort : (Nat.toDigits 10 n.natAbs).length ≤ 77 := Nat.toDigits_length 10 _ 77 (by decide) h
  rw [readInteger_text, if_neg]
  exact fun hlong => absurd (Nat.lt_of_lt_of_le hlong hshort) (by decide)

theorem readEntry_text {texts : List String} {i n : Nat} (ht : texts[i]? = some (toString n))
    (hn : n < 10 ^ 77) : readEntry (.array (texts.map .text)) i = .ok n := by
  have hentry : (Json.array (texts.map .text)).entry i = .ok (.text (toString n)) := by
    simp only [Json.entry, List.getElem?_map, ht, Option.map_some]
  have hread : readInteger (toString (n : Int)) = .ok n :=
    readInteger_of_lt (by rwa [Int.natAbs_natCast])
  have hsame : toString (n : Int) = toString n := rfl
  rw [hsame] at hread
  simp only [readEntry, hentry, bind, Except.bind, Coordinate.read, Json.shown, hread]

theorem Spells.read {text : String} {n : Int} (h : Spells text n) :
    readInteger text = .ok n ∨ IsError (readInteger text) ∧ ¬ (0 ≤ n ∧ n < Bn254.order) := by
  rcases h with rfl | h
  · by_cases hn : n.natAbs < 10 ^ 77
    · exact .inl (readInteger_of_lt hn)
    · rw [readInteger_text]
      split
      · have horder : Bn254.order < 10 ^ 77 := by decide
        exact .inr ⟨isError_error, fun hscalar => hn (by omega)⟩
      · exact .inl rfl
  · exact .inl h

theorem mapM_readInteger_of_spells {texts : List String} {ns : List Int}
    (h : List.Forall₂ Spells texts ns) :
    texts.mapM readInteger = .ok ns ∨
      IsError (texts.mapM readInteger) ∧ ¬ ∀ n ∈ ns, 0 ≤ n ∧ n < (Bn254.order : Int) := by
  induction h with
  | nil => exact .inl rfl
  | cons htext _ ih =>
    rw [isError_mapM_cons, List.forall_mem_cons]
    rcases htext.read with hread | ⟨herror, hoff⟩
    · rcases ih with hall | ⟨herror, hoff⟩
      · refine .inl ?_
        rw [List.mapM_cons, hread, hall]
        rfl
      · exact .inr ⟨.inr herror, fun hin => hoff hin.2⟩
    · exact .inr ⟨.inl herror, fun hin => hoff hin.1⟩

variable {M1 M2 T : Type} [AddCommGroup M1] [AddCommGroup M2] [AddCommGroup T]
  {G1 G2 : Type} [PairingGroups G1 G2] {g : PairedGroups M1 M2 T}

theorem isError_readStatement {points : ProofPoints} {texts : List String}
    (h : IsError (texts.mapM readInteger)) :
    IsError (readStatement points texts : Except _ (Statement G1 G2)) := by
  refine isError_bind_of_forall fun _ => isError_bind_of_forall fun _ =>
    isError_bind_of_forall fun _ => ?_
  obtain ⟨f, hf⟩ := h
  rw [hf]
  exact isError_error

namespace Meaning

variable (m : Meaning g G1 G2)

inductive Encodes1 (value : Json) (k : Int) : Prop
  | infinite : readEntry value 0 = .ok 0 → readEntry value 1 = .ok 0 → k • g.base1 = 0 →
      Encodes1 value k
  | finite {x y : Int} {p : G1} : readEntry value 0 = .ok x → readEntry value 1 = .ok y →
      ¬ (x = 0 ∧ y = 0) → PairingGroups.point1? G2 x y = some p → m.Is1 p k → Encodes1 value k

structure Begins (value : Json) (x0 x1 y0 y1 : Int) : Prop where
  first : ∃ pair, value.entry 0 = .ok pair ∧ readEntry pair 0 = .ok x0 ∧ readEntry pair 1 = .ok x1
  second : ∃ pair, value.entry 1 = .ok pair ∧ readEntry pair 0 = .ok y0 ∧ readEntry pair 1 = .ok y1

inductive Encodes2 (value : Json) (k : Int) : Prop
  | infinite : Begins value 0 0 0 0 → k • g.base2 = 0 → Encodes2 value k
  | finite {x0 x1 y0 y1 : Int} {p : G2} : Begins value x0 x1 y0 y1 →
      ¬ (x0 = 0 ∧ x1 = 0 ∧ y0 = 0 ∧ y1 = 0) → PairingGroups.point2? G1 x0 x1 y0 y1 = some p →
      m.Is2 p k → Encodes2 value k

/-- The value of a key has the points that the factors give, one more under `IC` than there are
signals. -/
structure EncodesKey (data : Json) (k : KeyFactors) : Prop where
  alpha : ∃ value, data.key "vk_alpha_1" = .ok value ∧ m.Encodes1 value k.alpha
  beta : ∃ value, data.key "vk_beta_2" = .ok value ∧ m.Encodes2 value k.beta
  gamma : ∃ value, data.key "vk_gamma_2" = .ok value ∧ m.Encodes2 value k.gamma
  delta : ∃ value, data.key "vk_delta_2" = .ok value ∧ m.Encodes2 value k.delta
  inputs : ∃ value items, data.key "IC" = .ok value ∧ value.entries = .ok items ∧
    List.Forall₂ m.Encodes1 items (k.constant :: k.inputs)

structure EncodesPoints (points : ProofPoints) (p : ProofFactors) : Prop where
  a : m.Encodes1 (.array (points.a.map .text)) p.a
  b : m.Encodes2 (.array (points.b.map fun row => .array (row.map .text))) p.b
  c : m.Encodes1 (.array (points.c.map .text)) p.c

structure IsKey (key : VerifyingKey G1 G2) (k : KeyFactors) : Prop where
  alpha : m.Is1 key.alpha k.alpha
  beta : m.Is2 key.beta k.beta
  gamma : m.Is2 key.gamma k.gamma
  delta : m.Is2 key.delta k.delta
  inputs : List.Forall₂ m.Is1 key.inputs (k.constant :: k.inputs)

structure IsStatement (st : Statement G1 G2) (p : ProofFactors) : Prop where
  a : m.Is1 st.a p.a
  b : m.Is2 st.b p.b
  c : m.Is1 st.c p.c

variable {m}

theorem Encodes1.readPoint {value : Json} {k : Int} (h : m.Encodes1 value k) :
    ∃ p, readPoint1 G2 value = .ok p ∧ m.Is1 p k := by
  cases h with
  | infinite hx hy hk =>
    refine ⟨PairingGroups.zero1 G2, ?_, ?_⟩
    · rw [readPoint1, hx, hy]
      rfl
    · rw [Is1, hk]
      exact m.zero1
  | finite hx hy hne hp his =>
    refine ⟨_, ?_, his⟩
    simp only [readPoint1, hx, hy, Fault.lift, Except.mapError, bind, Except.bind, if_neg hne, hp]
    rfl

theorem Begins.readPoint {value : Json} {x0 x1 y0 y1 : Int} {p : G2} (h : Begins value x0 x1 y0 y1)
    (hne : ¬ (x0 = 0 ∧ x1 = 0 ∧ y0 = 0 ∧ y1 = 0))
    (hp : PairingGroups.point2? G1 x0 x1 y0 y1 = some p) : readPoint2 G1 value = .ok p := by
  obtain ⟨⟨first, hfirst, hx0, hx1⟩, ⟨second, hsecond, hy0, hy1⟩⟩ := h
  simp only [readPoint2, hfirst, hsecond, bind, Except.bind, hx0, hx1, hy0, hy1, Fault.lift,
    Except.mapError, if_neg hne, hp]
  rfl

theorem Encodes2.readPoint {value : Json} {k : Int} (h : m.Encodes2 value k) :
    ∃ p, readPoint2 G1 value = .ok p ∧ m.Is2 p k := by
  cases h with
  | infinite hbegins hk =>
    obtain ⟨⟨first, hfirst, hx0, hx1⟩, ⟨second, hsecond, hy0, hy1⟩⟩ := hbegins
    refine ⟨PairingGroups.zero2 G1, ?_, ?_⟩
    · simp only [readPoint2, hfirst, hsecond, bind, Except.bind, hx0, hx1, hy0, hy1]
      rfl
    · rw [Is2, hk]
      exact m.zero2
  | finite hbegins hne hp his => exact ⟨_, hbegins.readPoint hne hp, his⟩

theorem mapM_readPoint {items : List Json} {ks : List Int} (h : List.Forall₂ m.Encodes1 items ks) :
    ∃ points : List G1, items.mapM (readPoint1 G2) = .ok points ∧
      List.Forall₂ m.Is1 points ks := by
  induction h with
  | nil => exact ⟨[], rfl, .nil⟩
  | cons hitem _ ih =>
    obtain ⟨p, hp, his⟩ := hitem.readPoint
    obtain ⟨points, hpoints, hall⟩ := ih
    refine ⟨p :: points, ?_, .cons his hall⟩
    rw [List.mapM_cons, hp, hpoints]
    rfl

theorem EncodesKey.load {source : Source} {data : Json} {k : KeyFactors} (h : m.EncodesKey data k)
    (hdata : VerifyingKey.jsonOf source = .ok data) :
    ∃ key : VerifyingKey G1 G2, VerifyingKey.load source = .ok key ∧ m.IsKey key k := by
  obtain ⟨va, hva, ha⟩ := h.alpha
  obtain ⟨vb, hvb, hb⟩ := h.beta
  obtain ⟨vg, hvg, hg⟩ := h.gamma
  obtain ⟨vd, hvd, hd⟩ := h.delta
  obtain ⟨vi, items, hvi, hitems, hi⟩ := h.inputs
  obtain ⟨alpha, hreada, halpha⟩ := ha.readPoint
  obtain ⟨beta, hreadb, hbeta⟩ := hb.readPoint
  obtain ⟨gamma, hreadg, hgamma⟩ := hg.readPoint
  obtain ⟨delta, hreadd, hdelta⟩ := hd.readPoint
  obtain ⟨inputs, hreadi, hinputs⟩ := mapM_readPoint hi
  refine ⟨{ alpha, beta, gamma, delta, inputs }, ?_, ⟨halpha, hbeta, hgamma, hdelta, hinputs⟩⟩
  have hkey : VerifyingKey.ofJson data = .ok { alpha, beta, gamma, delta, inputs } := by
    simp only [VerifyingKey.ofJson, hva, hvb, hvg, hvd, hvi, hitems, hreada, hreadb, hreadg, hreadd,
      hreadi, Fault.lift, Except.mapError, bind, Except.bind]
    rfl
  rw [VerifyingKey.load, hdata]
  exact mapError_eq_ok.mpr hkey

theorem Encodes1.isEmpty {texts : List String} {k : Int}
    (h : m.Encodes1 (.array (texts.map .text)) k) : texts.isEmpty = false := by
  have hfirst : ∃ x, readEntry (.array (texts.map .text)) 0 = .ok x := by
    cases h with
    | infinite hx _ _ => exact ⟨0, hx⟩
    | finite hx _ _ _ _ => exact ⟨_, hx⟩
  cases texts with
  | nil => exact nomatch hfirst
  | cons _ _ => rfl

theorem Encodes2.isEmpty {rows : List (List String)} {k : Int}
    (h : m.Encodes2 (.array (rows.map fun row => .array (row.map .text))) k) :
    rows.isEmpty = false := by
  have hfirst : ∃ pair, (Json.array (rows.map fun row => .array (row.map .text))).entry 0 =
      .ok pair := by
    cases h with
    | infinite hbegins _ => exact hbegins.first.imp fun _ h => h.1
    | finite hbegins _ _ _ => exact hbegins.first.imp fun _ h => h.1
  cases rows with
  | nil => exact nomatch hfirst
  | cons _ _ => rfl

theorem EncodesPoints.isEmpty {points : ProofPoints} {p : ProofFactors}
    (h : m.EncodesPoints points p) : points.isEmpty = false := by
  rw [ProofPoints.isEmpty, h.a.isEmpty, h.b.isEmpty, h.c.isEmpty]
  rfl

theorem EncodesPoints.readStatement {points : ProofPoints} {p : ProofFactors} {texts : List String}
    {ns : List Int} (h : m.EncodesPoints points p) (hread : texts.mapM readInteger = .ok ns) :
    ∃ st : Statement G1 G2, Groth16.readStatement points texts = .ok st ∧ m.IsStatement st p ∧
      st.signals = ns := by
  obtain ⟨a, hreada, ha⟩ := h.a.readPoint
  obtain ⟨b, hreadb, hb⟩ := h.b.readPoint
  obtain ⟨c, hreadc, hc⟩ := h.c.readPoint
  refine ⟨{ a, b, c, signals := ns }, ?_, ⟨ha, hb, hc⟩, rfl⟩
  simp only [Groth16.readStatement, hreada, hreadb, hreadc, hread, Fault.lift, Except.mapError,
    bind, Except.bind]
  rfl

end Meaning
end IdentityProof.Groth16
