import Mathlib.Data.List.Induction
import Mathlib.Algebra.Ring.Nat
import IdentityProof.Bech32
import IdentityProof.Proofs.Fault

/-! Addresses taken apart and put together again. For given words there is one checksum only, and
so two addresses with one label are the same as soon as their words are. -/

namespace IdentityProof.Bech32

def AreWords (words : List Nat) : Prop := ∀ w ∈ words, w < 32

theorem shiftLeft_xor_word {word : Nat} (low : Nat) (h : word < 32) :
    low <<< 5 ^^^ word = low * 32 + word := by
  have hword : word < 2 ^ 5 := h
  rw [Nat.mul_comm]
  apply Nat.eq_of_testBit_eq
  intro i
  rw [Nat.testBit_xor, Nat.testBit_shiftLeft, Nat.testBit_two_pow_mul_add low hword i]
  by_cases hi : i < 5
  · simp [hi, Nat.not_le.mpr hi]
  · have hnone : word.testBit i = false := by
      apply Nat.testBit_lt_two_pow
      exact Nat.lt_of_lt_of_le hword (Nat.pow_le_pow_right (by decide) (Nat.not_lt.mp hi))
    simp [hi, Nat.not_lt.mp hi, hnone]

theorem polymodStep_xor {sum low word : Nat} (hlow : low < 2 ^ 25) (hword : word < 32) :
    polymodStep (sum ^^^ low) word = polymodStep sum 0 ^^^ (low * 32 + word) := by
  have htop : (sum ^^^ low) >>> 25 = sum >>> 25 := by
    rw [Nat.shiftRight_xor_distrib, Nat.shiftRight_eq_div_pow low, Nat.div_eq_of_lt hlow,
      Nat.xor_zero]
  have hmask : low &&& 0x1ffffff = low := Nat.and_two_pow_sub_one_of_lt_two_pow hlow
  have hshifted : ((sum ^^^ low) &&& 0x1ffffff) <<< 5 ^^^ word =
      ((sum &&& 0x1ffffff) <<< 5 ^^^ 0) ^^^ (low * 32 + word) := by
    rw [Nat.and_xor_distrib_right, hmask, Nat.shiftLeft_xor_distrib, Nat.xor_assoc,
      shiftLeft_xor_word low hword, Nat.xor_zero]
  unfold polymodStep
  simp only [htop, hshifted]
  refine List.foldl_hom (· ^^^ (low * 32 + word)) fun c entry => ?_
  obtain ⟨generator, i⟩ := entry
  cases (sum >>> 25).testBit i with
  | false => rfl
  | true =>
    change c ^^^ (low * 32 + word) ^^^ generator = c ^^^ generator ^^^ (low * 32 + word)
    rw [Nat.xor_assoc, Nat.xor_comm _ generator, ← Nat.xor_assoc]

def valueFrom (high : Nat) (words : List Nat) : Nat :=
  words.foldl (fun n w => n * 32 + w) high

/-- Up to six words leave a sum apart from the number they spell. -/
theorem foldl_polymodStep_xor {words : List Nat} (hw : AreWords words) {sum low : Nat}
    (hroom : (low + 1) * 32 ^ words.length ≤ 32 ^ 6) :
    words.foldl polymodStep (sum ^^^ low) =
      (List.replicate words.length 0).foldl polymodStep sum ^^^ valueFrom low words := by
  induction words generalizing sum low with
  | nil => rfl
  | cons w words ih =>
    obtain ⟨hword, hrest⟩ := List.forall_mem_cons.mp hw
    rw [List.length_cons, Nat.pow_succ'] at hroom
    have hpos : 1 ≤ 32 ^ words.length := Nat.pow_pos (by decide)
    have hlow : low < 2 ^ 25 := by
      have hle := Nat.mul_le_mul_left ((low + 1) * 32) hpos
      rw [← Nat.mul_assoc] at hroom
      omega
    have hnext : (low * 32 + w + 1) * 32 ^ words.length ≤ 32 ^ 6 := by
      have hle : low * 32 + w + 1 ≤ (low + 1) * 32 := by omega
      rw [← Nat.mul_assoc] at hroom
      exact Nat.le_trans (Nat.mul_le_mul_right _ hle) hroom
    rw [List.foldl_cons, polymodStep_xor hlow hword, ih hrest hnext]
    rfl

def lowWords (count n : Nat) : List Nat :=
  (List.range count).map fun i => (n >>> (5 * (count - 1 - i))) &&& 31

theorem lowWords_succ (count n : Nat) :
    lowWords (count + 1) n = lowWords count (n >>> 5) ++ [n &&& 31] := by
  unfold lowWords
  rw [List.range_succ, List.map_append, List.map_singleton]
  have hlast : count + 1 - 1 - count = 0 := by omega
  rw [hlast]
  refine congrArg (· ++ _) (List.map_congr_left fun i hi => ?_)
  have hlt := List.mem_range.mp hi
  have hsum : 5 * (count + 1 - 1 - i) = 5 + 5 * (count - 1 - i) := by omega
  rw [hsum, Nat.shiftRight_add]

theorem lowWords_valueFrom {words : List Nat} (hw : AreWords words) :
    lowWords words.length (valueFrom 0 words) = words := by
  induction words using List.reverseRecOn with
  | nil => rfl
  | append_singleton words w ih =>
    have hword : w < 2 ^ 5 := hw w List.mem_concat_self
    have hvalue : valueFrom 0 (words ++ [w]) = valueFrom 0 words * 32 + w := by
      unfold valueFrom
      rw [List.foldl_append]
      rfl
    have hhigh : (valueFrom 0 words * 32 + w) >>> 5 = valueFrom 0 words := by
      rw [Nat.shiftRight_eq_div_pow]
      omega
    have hlow : (valueFrom 0 words * 32 + w) &&& 31 = w := by
      have hmod : (valueFrom 0 words * 32 + w) &&& 31 = (valueFrom 0 words * 32 + w) % 2 ^ 5 :=
        Nat.and_two_pow_sub_one_eq_mod _ 5
      omega
    rw [List.length_append, List.length_singleton, lowWords_succ, hvalue, hhigh, hlow,
      ih fun v hv => hw v (List.mem_append_left _ hv)]

theorem checksum_eq {label : List Char} {words check : List Nat} (hc : AreWords check)
    (hsix : check.length = 6) (h : isChecked label (words ++ check) = true) :
    checksum label words = check := by
  have hsum : polymod (expandLabel label ++ (words ++ check)) = 1 := eq_of_beq h
  have hroom : (0 + 1) * 32 ^ check.length ≤ 32 ^ 6 := by rw [hsix]; decide
  have hsplit : check.foldl polymodStep (polymod (expandLabel label ++ words) ^^^ 0) = _ :=
    foldl_polymodStep_xor hc hroom
  have hzeros : polymod (expandLabel label ++ words ++ [0, 0, 0, 0, 0, 0]) =
      (List.replicate check.length 0).foldl polymodStep (polymod (expandLabel label ++ words)) := by
    rw [hsix]
    exact List.foldl_append
  have hone : polymod (expandLabel label ++ words ++ [0, 0, 0, 0, 0, 0]) ^^^ valueFrom 0 check =
      1 := by
    rw [hzeros, ← hsplit, Nat.xor_zero, ← hsum, ← List.append_assoc]
    exact List.foldl_append.symm
  have hvalue : polymod (expandLabel label ++ words ++ [0, 0, 0, 0, 0, 0]) ^^^ 1 =
      valueFrom 0 check := by
    rw [← hone, ← Nat.xor_assoc, Nat.xor_self, Nat.zero_xor]
  have hwords := lowWords_valueFrom hc
  rw [hsix, ← hvalue] at hwords
  exact hwords

theorem word?_eq_some {c : Char} {w : Nat} (h : word? c = some w) :
    w < 32 ∧ alphabet.getD w 'q' = c := by
  unfold word? at h
  split at h
  · rename_i hmem
    obtain rfl := Option.some.inj h
    have hlt : alphabet.idxOf c < alphabet.length :=
      List.idxOf_lt_length_iff.mpr (List.contains_iff_mem.mp hmem)
    refine ⟨hlt, ?_⟩
    rw [List.getD_eq_getElem?_getD, List.getElem?_eq_getElem hlt, List.getElem_idxOf hlt]
    rfl
  · exact nomatch h

theorem mapM_word?_eq_some {cs : List Char} {words : List Nat} (h : cs.mapM word? = some words) :
    AreWords words ∧ cs = words.map fun w => alphabet.getD w 'q' := by
  induction cs generalizing words with
  | nil =>
    obtain rfl : [] = words := by simpa using h
    exact ⟨nofun, rfl⟩
  | cons c cs ih =>
    rw [List.mapM_cons] at h
    obtain ⟨w, hw, h⟩ := Option.bind_eq_some_iff.mp h
    obtain ⟨rest, hr, h⟩ := Option.bind_eq_some_iff.mp h
    obtain rfl := Option.some.inj h
    obtain ⟨hlt, rfl⟩ := word?_eq_some hw
    obtain ⟨hrest, rfl⟩ := ih hr
    exact ⟨List.forall_mem_cons.mpr ⟨hlt, hrest⟩, rfl⟩

theorem idxOf_alphabet {words : List Nat} (hw : AreWords words) :
    (words.map fun w => alphabet.getD w 'q').map (alphabet.idxOf ·) = words := by
  have hback : ∀ w < 32, alphabet.idxOf (alphabet.getD w 'q') = w := by decide
  rw [List.map_map]
  exact (List.map_congr_left fun w h => hback w (hw w h)).trans (List.map_id words)

theorem map_alphabet_injective {ws vs : List Nat} (hw : AreWords ws) (hv : AreWords vs)
    (h : (ws.map fun w => alphabet.getD w 'q') = vs.map fun w => alphabet.getD w 'q') :
    ws = vs := by
  rw [← idxOf_alphabet hw, h, idxOf_alphabet hv]

theorem areWords_checksum (label : List Char) (words : List Nat) :
    AreWords (checksum label words) := by
  intro w hw
  obtain ⟨i, -, rfl⟩ := List.mem_map.mp hw
  exact Nat.lt_of_le_of_lt Nat.and_le_right (by decide)

theorem splitLabel?_eq_some {cs label tail : List Char} (h : splitLabel? cs = some (label, tail)) :
    cs = label ++ '1' :: tail := by
  simp only [splitLabel?] at h
  split at h
  · rename_i hshort
    obtain ⟨rfl, rfl⟩ := Prod.mk.inj (Option.some.inj h)
    have hwhole := List.takeWhile_append_dropWhile (p := (· != '1')) (l := cs.reverse)
    cases hrest : cs.reverse.dropWhile (· != '1') with
    | nil =>
      rw [hrest, List.append_nil] at hwhole
      rw [hwhole, List.reverse_reverse] at hshort
      exact absurd hshort (Nat.lt_irrefl _)
    | cons c more =>
      have hne : cs.reverse.dropWhile (· != '1') ≠ [] := by simp [hrest]
      have hfirst := List.head_dropWhile_not _ hne
      simp only [hrest, List.head_cons, bne_eq_false_iff_eq] at hfirst
      rw [hrest, hfirst] at hwhole
      generalize cs.reverse.takeWhile (· != '1') = back at hwhole
      have hcs : cs = more.reverse ++ '1' :: back.reverse := by
        rw [← List.reverse_reverse cs, ← hwhole]
        simp
      have hlabel : cs.length - back.reverse.length - 1 = more.reverse.length := by
        rw [hcs, List.length_append, List.length_cons]
        omega
      rw [hlabel, hcs, List.take_left]
  · exact nomatch h

theorem decode?_eq_some {address label : List Char} {words : List Nat}
    (h : decode? address = some (label, words)) : ∃ check, check.length = 6 ∧
      AreWords (words ++ check) ∧ isChecked label (words ++ check) = true ∧
        address.map Char.toLower =
          label ++ '1' :: (words ++ check).map fun w => alphabet.getD w 'q' := by
  simp only [decode?] at h
  split at h
  · exact nomatch h
  · obtain ⟨⟨found, tail⟩, hsplit, h⟩ := Option.bind_eq_some_iff.mp h
    simp only at h
    split at h
    · exact nomatch h
    · rename_i hshape
      obtain ⟨all, hall, h⟩ := Option.bind_eq_some_iff.mp h
      split at h
      · rename_i hchecked
        obtain ⟨rfl, rfl⟩ := Prod.mk.inj (Option.some.inj h)
        obtain ⟨hwords, htail⟩ := mapM_word?_eq_some hall
        have hlong : 6 ≤ all.length := by
          have hsix : ¬ tail.length < 6 := fun hlt => hshape (by simp [hlt])
          rw [htail, List.length_map] at hsix
          exact Nat.not_lt.mp hsix
        refine ⟨all.drop (all.length - 6), ?_, ?_⟩
        · rw [List.length_drop]
          omega
        · rw [List.take_append_drop, ← htail]
          exact ⟨hwords, hchecked, splitLabel?_eq_some hsplit⟩
      · exact nomatch h

theorem encode_eq_iff {address label : List Char} {words ws : List Nat}
    (h : decode? address = some (label, words)) (hw : AreWords ws) :
    encode label ws = address.map Char.toLower ↔ ws = words := by
  obtain ⟨check, hsix, hwords, hchecked, hsmall⟩ := decode?_eq_some h
  have hcheck : AreWords check := fun w hw => hwords w (List.mem_append_right _ hw)
  rw [hsmall]
  unfold encode
  constructor
  · intro heq
    have htail := (List.cons.inj (List.append_cancel_left heq)).2
    have hall : AreWords (ws ++ checksum label ws) :=
      List.forall_mem_append.mpr ⟨hw, areWords_checksum label ws⟩
    have hsame := map_alphabet_injective hall hwords htail
    exact (List.append_inj' hsame (by rw [hsix]; rfl)).1
  · rintro rfl
    rw [checksum_eq hcheck hsix hchecked]

theorem bytesOfWords_cons (pending bits w : Nat) (words : List Nat) :
    bytesOfWords pending bits (w :: words) =
      if 8 ≤ bits + 5 then
        let rest := bytesOfWords ((pending * 32 + w) % Nat.pow 2 (bits - 3)) (bits - 3) words
        ((pending * 32 + w) / Nat.pow 2 (bits - 3) :: rest.1, rest.2)
      else bytesOfWords (pending * 32 + w) (bits + 5) words := rfl

theorem bytesOfWords_injective {ws vs : List Nat} (hw : AreWords ws) (hv : AreWords vs)
    (hlen : ws.length = vs.length) {p q bits : Nat}
    (hbytes : (bytesOfWords p bits ws).1 = (bytesOfWords q bits vs).1)
    (hleft : (bytesOfWords p bits ws).2.1 = (bytesOfWords q bits vs).2.1) : p = q ∧ ws = vs := by
  induction ws generalizing vs p q bits with
  | nil =>
    obtain rfl := List.eq_nil_of_length_eq_zero hlen.symm
    exact ⟨hleft, rfl⟩
  | cons w ws ih =>
    obtain ⟨v, vs, rfl⟩ := List.exists_cons_of_length_eq_add_one hlen.symm
    obtain ⟨hword, hw⟩ := List.forall_mem_cons.mp hw
    obtain ⟨hword', hv⟩ := List.forall_mem_cons.mp hv
    have hlen' : ws.length = vs.length := Nat.succ.inj hlen
    have hsplit (h : p * 32 + w = q * 32 + v) (hrest : ws = vs) : p = q ∧ w :: ws = v :: vs := by
      have hboth : p = q ∧ w = v := by omega
      exact ⟨hboth.1, by rw [hboth.2, hrest]⟩
    rw [bytesOfWords_cons, bytesOfWords_cons] at hbytes hleft
    by_cases hfull : 8 ≤ bits + 5
    · simp only [if_pos hfull] at hbytes hleft
      obtain ⟨hdiv, htail⟩ := List.cons.inj hbytes
      obtain ⟨hmod, hrest⟩ := ih hw hv hlen' htail hleft
      have hsame : p * 32 + w = q * 32 + v := by
        rw [← Nat.div_add_mod (p * 32 + w) (Nat.pow 2 (bits - 3)), hdiv, hmod, Nat.div_add_mod]
      exact hsplit hsame hrest
    · simp only [if_neg hfull] at hbytes hleft
      obtain ⟨hsame, hrest⟩ := ih hw hv hlen' hbytes hleft
      exact hsplit hsame hrest

theorem bytesOfWords_lt {words : List Nat} (hw : AreWords words) {pending bits : Nat}
    (hpending : pending < 2 ^ bits) (hbits : bits < 8) :
    ∀ b ∈ (bytesOfWords pending bits words).1, b < 256 := by
  induction words generalizing pending bits with
  | nil => exact nofun
  | cons w words ih =>
    obtain ⟨hword, hw⟩ := List.forall_mem_cons.mp hw
    have hroom : pending * 32 + w < 2 ^ (bits + 5) := by
      rw [Nat.pow_add]
      omega
    rw [bytesOfWords_cons]
    by_cases hfull : 8 ≤ bits + 5
    · have hbyte : (pending * 32 + w) / Nat.pow 2 (bits - 3) < 256 := by
        have hpow : 2 ^ (bits + 5) = Nat.pow 2 (bits - 3) * 256 := by
          have hexp : bits + 5 = bits - 3 + 8 := by omega
          rw [hexp, Nat.pow_add]
          rfl
        exact Nat.div_lt_of_lt_mul (hpow ▸ hroom)
      have hrest := ih hw (Nat.mod_lt (pending * 32 + w) (Nat.two_pow_pos (bits - 3))) (by omega)
      simp only [if_pos hfull]
      exact List.forall_mem_cons.mpr ⟨hbyte, hrest⟩
    · simp only [if_neg hfull]
      exact ih hw hroom (by omega)

theorem toBytes?_injective {ws vs : List Nat} {raw : List UInt8} (hw : AreWords ws)
    (hv : AreWords vs) (hlen : ws.length = vs.length) (hraw : toBytes? ws = some raw)
    (hraw' : toBytes? vs = some raw) : ws = vs := by
  have hholds {words : List Nat} (hwords : AreWords words) (h : toBytes? words = some raw) :
      (bytesOfWords 0 0 words).1 = raw.map UInt8.toNat ∧ (bytesOfWords 0 0 words).2.1 = 0 := by
    simp only [toBytes?] at h
    split at h
    · exact nomatch h
    · rename_i hend
      obtain rfl := Option.some.inj h
      have hnone : (bytesOfWords 0 0 words).2.1 = 0 := by
        refine Classical.byContradiction fun hne => hend ?_
        simp [hne]
      refine ⟨?_, hnone⟩
      rw [List.map_map]
      refine ((List.map_congr_left fun b hb => ?_).trans (List.map_id _)).symm
      have hlt := bytesOfWords_lt hwords (by decide) (by decide) b hb
      rw [Function.comp_apply, UInt8.toNat_ofNat', Nat.mod_eq_of_lt hlt]
      rfl
  obtain ⟨hbytes, hend⟩ := hholds hw hraw
  obtain ⟨hbytes', hend'⟩ := hholds hv hraw'
  exact (bytesOfWords_injective hw hv hlen (hbytes.trans hbytes'.symm) (hend.trans hend'.symm)).2

end IdentityProof.Bech32
