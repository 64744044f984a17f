import Mathlib.Data.Nat.Digits.Lemmas
import IdentityProof.Proofs.Bech32

/-! Bytes written as words of five bits and read again. Both spell one number, up to the bits that
fill the last word, and so nothing is lost on the way. An address that was made of a label and words
is decoded to them, if it is decoded at all. -/

namespace IdentityProof.Bech32

def valueIn (base high : Nat) (digits : List Nat) : Nat :=
  digits.foldl (fun n d => n * base + d) high

section Digits

variable {base high : Nat} {digits others : List Nat}

theorem valueIn_cons (base high d : Nat) (digits : List Nat) :
    valueIn base high (d :: digits) = valueIn base (high * base + d) digits := rfl

theorem valueIn_append (base high : Nat) (digits others : List Nat) :
    valueIn base high (digits ++ others) = valueIn base (valueIn base high digits) others :=
  List.foldl_append

theorem valueIn_replicate_append (base count : Nat) (digits : List Nat) :
    valueIn base 0 (List.replicate count 0 ++ digits) = valueIn base 0 digits := by
  induction count with
  | zero => rfl
  | succ count ih =>
    rw [List.replicate_succ, List.cons_append, valueIn_cons, Nat.zero_mul]
    exact ih

theorem valueIn_eq_ofDigits (base : Nat) (digits : List Nat) :
    valueIn base 0 digits = Nat.ofDigits base digits.reverse := by
  rw [Nat.ofDigits_eq_foldr, List.foldr_reverse]
  unfold valueIn
  congr 1
  funext n d
  rw [Nat.mul_comm, Nat.add_comm]
  rfl

theorem valueIn_injective (hbase : 1 < base) (hlen : digits.length = others.length)
    (hd : ∀ d ∈ digits, d < base) (ho : ∀ d ∈ others, d < base)
    (h : valueIn base 0 digits = valueIn base 0 others) : digits = others := by
  rw [valueIn_eq_ofDigits, valueIn_eq_ofDigits] at h
  have hsame := Nat.ofDigits_inj_of_len_eq hbase (by simpa using hlen) (by simpa using hd)
    (by simpa using ho) h
  exact List.reverse_injective hsame

theorem valueIn_lt_pow_iff (hbase : 1 < base) (hd : ∀ d ∈ digits, d < base)
    (hlead : digits.head? ≠ some 0) (count : Nat) :
    valueIn base 0 digits < base ^ count ↔ digits.length ≤ count := by
  have hdigits : base.digits (Nat.ofDigits base digits.reverse) = digits.reverse := by
    apply Nat.digits_ofDigits base hbase
    · intro d hmem
      exact hd d (List.mem_reverse.mp hmem)
    · intro hne hzero
      rw [List.getLast_reverse] at hzero
      exact hlead (List.head?_eq_some_head _ ▸ congrArg some hzero)
  rw [valueIn_eq_ofDigits, ← Nat.digits_length_le_iff hbase, hdigits, List.length_reverse]

theorem valueIn_strictMono {larger high' : Nat} (hbase : 0 < base) (hle : base ≤ larger)
    (h : high < high') (digits : List Nat) :
    valueIn base high digits < valueIn larger high' digits := by
  induction digits generalizing high high' with
  | nil => exact h
  | cons d digits ih =>
    rw [valueIn_cons, valueIn_cons]
    apply ih
    have hhigh : high * base < high' * base := Nat.mul_lt_mul_of_pos_right h hbase
    have hlarger : high' * base ≤ high' * larger := Nat.mul_le_mul_left high' hle
    omega

theorem valueIn_eq_iff {larger : Nat} (hbase : 0 < base) (hlt : base < larger)
    (hlead : digits.head? ≠ some 0) :
    valueIn base 0 digits = valueIn larger 0 digits ↔ digits.length ≤ 1 := by
  match digits with
  | [] => exact iff_of_true rfl (Nat.zero_le 1)
  | [d] =>
    simp [valueIn]
  | d :: e :: digits =>
    have hd : 0 < d := Nat.pos_of_ne_zero fun hzero => hlead (congrArg some hzero)
    have hhigh : (0 * base + d) * base + e < (0 * larger + d) * larger + e := by
      rw [Nat.zero_mul, Nat.zero_mul, Nat.zero_add]
      exact Nat.add_lt_add_right (Nat.mul_lt_mul_of_pos_left hlt hd) e
    have hless := valueIn_strictMono hbase (Nat.le_of_lt hlt) hhigh digits
    refine iff_of_false (Nat.ne_of_lt hless) ?_
    simp

end Digits

theorem digit_off {n bits width : Nat} (h : n < 2 ^ (bits + width)) :
    n / 2 ^ bits < 2 ^ width ∧ n % 2 ^ bits < 2 ^ bits ∧ ∀ high,
      (high * 2 ^ width + n / 2 ^ bits) * 2 ^ bits + n % 2 ^ bits =
        high * 2 ^ (bits + width) + n := by
  have hpow : 2 ^ (bits + width) = 2 ^ width * 2 ^ bits := by rw [Nat.add_comm, Nat.pow_add]
  refine ⟨Nat.div_lt_of_lt_mul ?_, Nat.mod_lt n (Nat.two_pow_pos bits), fun high => ?_⟩
  · rwa [Nat.mul_comm, ← hpow]
  · rw [Nat.add_mul, Nat.add_assoc, Nat.div_add_mod', hpow, Nat.mul_assoc]

theorem ofBytesFrom_cons (pending bits : Nat) (b : UInt8) (bytes : List UInt8) :
    ofBytesFrom pending bits (b :: bytes) =
      let n := pending * 256 + b.toNat
      let left := n % 2 ^ (bits + 3)
      if 5 ≤ bits + 3 then
        [n / 2 ^ (bits + 3), left / 2 ^ (bits - 2)] ++
          ofBytesFrom (left % 2 ^ (bits - 2)) (bits - 2) bytes
      else [n / 2 ^ (bits + 3)] ++ ofBytesFrom left (bits + 3) bytes := rfl

theorem exists_ofBytesFrom_cons {pending bits : Nat} (hpending : pending < 2 ^ bits)
    (hbits : bits < 5) (b : UInt8) (bytes : List UInt8) : ∃ words pending' bits',
      ofBytesFrom pending bits (b :: bytes) = words ++ ofBytesFrom pending' bits' bytes ∧
        AreWords words ∧ pending' < 2 ^ bits' ∧ bits' < 5 ∧
          5 * words.length + bits' = bits + 8 ∧ ∀ high,
            valueIn 32 high words * 2 ^ bits' + pending' =
              (high * 2 ^ bits + pending) * 256 + b.toNat := by
  have hb := b.toNat_lt
  have hroom : pending * 256 + b.toNat < 2 ^ (bits + 3 + 5) := by
    rw [Nat.add_assoc, Nat.pow_add]
    omega
  have hvalue : ∀ high, high * 2 ^ (bits + 3 + 5) + (pending * 256 + b.toNat) =
      (high * 2 ^ bits + pending) * 256 + b.toNat := by
    intro high
    rw [Nat.add_assoc bits, Nat.pow_add, ← Nat.mul_assoc, Nat.add_mul]
    omega
  obtain ⟨hfirst, hleft, htaken⟩ := digit_off hroom
  rw [ofBytesFrom_cons]
  generalize pending * 256 + b.toNat = n at *
  by_cases hfull : 5 ≤ bits + 3
  · obtain ⟨rest, rfl⟩ : ∃ rest, bits = rest + 2 := ⟨bits - 2, by omega⟩
    obtain ⟨hsecond, hleft', htaken'⟩ := @digit_off _ rest 5 hleft
    refine ⟨_, _, rest, if_pos hfull, ?_, hleft', by omega, ?_, fun high => ?_⟩
    · exact List.forall_mem_cons.mpr ⟨hfirst, List.forall_mem_singleton.mpr hsecond⟩
    · simp only [List.length_cons, List.length_nil]
      omega
    · rw [← hvalue, ← htaken]
      exact htaken' _
  · refine ⟨_, _, bits + 3, if_neg hfull, ?_, hleft, by omega, ?_, fun high => ?_⟩
    · exact List.forall_mem_singleton.mpr hfirst
    · simp only [List.length_cons, List.length_nil]
      omega
    · rw [← hvalue, ← htaken]
      rfl

/-- The words for some bytes are as many as hold their bits, and spell the number of the bytes with
the last word filled up. -/
theorem ofBytesFrom_value {pending bits : Nat} (hpending : pending < 2 ^ bits) (hbits : bits < 5)
    (high : Nat) (bytes : List UInt8) : AreWords (ofBytesFrom pending bits bytes) ∧
      ∃ fill < 5, 5 * (ofBytesFrom pending bits bytes).length = bits + 8 * bytes.length + fill ∧
        valueIn 32 high (ofBytesFrom pending bits bytes) =
          valueIn 256 (high * 2 ^ bits + pending) (bytes.map UInt8.toNat) * 2 ^ fill := by
  induction bytes generalizing pending bits high with
  | nil =>
    rw [ofBytesFrom]
    by_cases hnone : bits = 0
    · obtain rfl := hnone
      obtain rfl := Nat.lt_one_iff.mp hpending
      exact ⟨nofun, 0, by decide, rfl, by simp [valueIn]⟩
    · obtain ⟨fill, hfill⟩ : ∃ fill, 5 = bits + fill := ⟨5 - bits, by omega⟩
      have hpow : 2 ^ bits * 2 ^ fill = 32 := by rw [← Nat.pow_add, ← hfill]
      have hsame : 5 - bits = fill := by omega
      have hword : pending * 2 ^ fill < 32 := by
        rw [← hpow]
        exact Nat.mul_lt_mul_of_pos_right hpending (Nat.two_pow_pos fill)
      rw [if_neg hnone, hsame]
      refine ⟨List.forall_mem_singleton.mpr hword, fill, by omega, ?_, ?_⟩
      · simp only [List.length_cons, List.length_nil]
        omega
      · change high * 32 + pending * 2 ^ fill = (high * 2 ^ bits + pending) * 2 ^ fill
        rw [Nat.add_mul, Nat.mul_assoc, hpow]
  | cons b bytes ih =>
    obtain ⟨words, pending', bits', hstep, hwords, hpending', hbits', hlength, hvalue⟩ :=
      exists_ofBytesFrom_cons hpending hbits b bytes
    obtain ⟨hrest, fill, hfill, hlength', hvalue'⟩ := ih hpending' hbits' (valueIn 32 high words)
    rw [hstep]
    refine ⟨List.forall_mem_append.mpr ⟨hwords, hrest⟩, fill, hfill, ?_, ?_⟩
    · rw [List.length_append, List.length_cons]
      omega
    · rw [valueIn_append, hvalue', hvalue, List.map_cons, valueIn_cons]

theorem bytesOfWords_value {pending bits : Nat} (hpending : pending < 2 ^ bits) (hbits : bits < 8)
    {words : List Nat} (hw : AreWords words) (high : Nat) :
    let read := bytesOfWords pending bits words
    8 * read.1.length + read.2.2 = bits + 5 * words.length ∧ read.2.2 < 8 ∧
      read.2.1 < 2 ^ read.2.2 ∧ valueIn 256 high read.1 * 2 ^ read.2.2 + read.2.1 =
        valueIn 32 (high * 2 ^ bits + pending) words := by
  induction words generalizing pending bits high with
  | nil => exact ⟨Nat.zero_add bits, hbits, hpending, rfl⟩
  | cons w words ih =>
    obtain ⟨hword, hw⟩ := List.forall_mem_cons.mp hw
    have hroom : pending * 32 + w < 2 ^ (bits + 5) := by
      rw [Nat.pow_add]
      omega
    have hvalue : high * 2 ^ (bits + 5) + (pending * 32 + w) =
        (high * 2 ^ bits + pending) * 32 + w := by
      rw [Nat.pow_add, ← Nat.mul_assoc, Nat.add_mul]
      omega
    rw [bytesOfWords_cons, valueIn_cons, ← hvalue]
    generalize pending * 32 + w = n at *
    by_cases hfull : 8 ≤ bits + 5
    · obtain ⟨rest, rfl⟩ : ∃ rest, bits = rest + 3 := ⟨bits - 3, by omega⟩
      obtain ⟨hbyte, hleft, htaken⟩ := @digit_off _ rest 8 hroom
      obtain ⟨hlength, hbits', hpending', hvalue'⟩ :=
        ih hleft (by omega) hw (high * 2 ^ 8 + n / 2 ^ rest)
      rw [if_pos hfull]
      refine ⟨?_, hbits', hpending', ?_⟩
      · change 8 * ((bytesOfWords (n % 2 ^ rest) rest words).1.length + 1) +
          (bytesOfWords (n % 2 ^ rest) rest words).2.2 = rest + 3 + 5 * (words.length + 1)
        omega
      · rw [← htaken, ← hvalue']
        rfl
    · obtain ⟨hlength, hbits', hpending', hvalue'⟩ := ih hroom (by omega) hw high
      rw [if_neg hfull]
      refine ⟨?_, hbits', hpending', hvalue'⟩
      rw [List.length_cons]
      omega

theorem ofBytes_value (bytes : List UInt8) : AreWords (ofBytes bytes) ∧
    ∃ fill < 5, 5 * (ofBytes bytes).length = 8 * bytes.length + fill ∧
      valueIn 32 0 (ofBytes bytes) = valueIn 256 0 (bytes.map UInt8.toNat) * 2 ^ fill := by
  have hnone : 0 < 2 ^ 0 := Nat.zero_lt_one
  have h := ofBytesFrom_value hnone (by decide) 0 bytes
  rwa [Nat.zero_add, Nat.zero_mul] at h

theorem toBytes?_ofBytes (bytes : List UInt8) : toBytes? (ofBytes bytes) = some bytes := by
  have hnone : 0 < 2 ^ 0 := Nat.zero_lt_one
  obtain ⟨hwords, fill, hfill, hlength, hvalue⟩ := ofBytes_value bytes
  have hread := bytesOfWords_value hnone (by decide) hwords 0
  have hbytes := bytesOfWords_lt hwords hnone (by decide)
  unfold toBytes?
  generalize bytesOfWords 0 0 (ofBytes bytes) = read at hread hbytes ⊢
  obtain ⟨found, pending, bits⟩ := read
  obtain ⟨hlength', hbits, hpending, hvalue'⟩ := hread
  simp only at hbytes hlength' hbits hpending hvalue' ⊢
  -- fewer than eight bits are left on either side, so they are as many
  have hcount : found.length = bytes.length := by omega
  obtain rfl : bits = fill := by omega
  rw [Nat.zero_mul, Nat.zero_add, hvalue] at hvalue'
  have hsame : valueIn 256 0 found = valueIn 256 0 (bytes.map UInt8.toNat) := by
    have hdiv : (valueIn 256 0 found * 2 ^ bits + pending) / 2 ^ bits = valueIn 256 0 found := by
      rw [Nat.mul_comm, Nat.mul_add_div (Nat.two_pow_pos bits), Nat.div_eq_of_lt hpending,
        Nat.add_zero]
    rw [← hdiv, hvalue', Nat.mul_div_cancel _ (Nat.two_pow_pos bits)]
  rw [hsame] at hvalue'
  obtain rfl := Nat.add_eq_left.mp hvalue'
  have hfound : found = bytes.map UInt8.toNat := by
    apply valueIn_injective (by decide) (by rw [hcount, List.length_map]) hbytes _ hsame
    intro d hd
    obtain ⟨b, -, rfl⟩ := List.mem_map.mp hd
    exact b.toNat_lt
  have hend : (decide (5 ≤ bits) || 0 != 0) = false := by
    rw [decide_eq_false (Nat.not_le.mpr hfill)]
    rfl
  rw [hend, if_neg Bool.false_ne_true, hfound, List.map_map]
  refine congrArg some ((List.map_congr_left fun b _ => ?_).trans (List.map_id bytes))
  exact UInt8.ofNat_toNat

theorem toLower_alphabet {words : List Nat} (hw : AreWords words) :
    (words.map fun w => alphabet.getD w 'q').map Char.toLower =
      words.map fun w => alphabet.getD w 'q' := by
  have hsmall : ∀ w < 32, (alphabet.getD w 'q').toLower = alphabet.getD w 'q' := by decide
  rw [List.map_map]
  exact List.map_congr_left fun w h => hsmall w (hw w h)

theorem separator_notMem {words : List Nat} (hw : AreWords words) :
    '1' ∉ words.map fun w => alphabet.getD w 'q' := by
  have hother : ∀ w < 32, alphabet.getD w 'q' ≠ '1' := by decide
  intro hmem
  obtain ⟨w, h, hone⟩ := List.mem_map.mp hmem
  exact hother w (hw w h) hone

theorem append_separator_injective {label other tail rest : List Char} (ht : '1' ∉ tail)
    (hr : '1' ∉ rest) (h : label ++ '1' :: tail = other ++ '1' :: rest) :
    label = other ∧ tail = rest := by
  rcases List.append_eq_append_iff.mp h with ⟨more, rfl, hmore⟩ | ⟨more, rfl, hmore⟩
  · cases more with
    | nil => exact ⟨(List.append_nil label).symm, (List.cons.inj hmore).2⟩
    | cons c more =>
      rw [(List.cons.inj hmore).2] at ht
      exact absurd (List.mem_append_right more List.mem_cons_self) ht
  · cases more with
    | nil => exact ⟨List.append_nil other, (List.cons.inj hmore).2.symm⟩
    | cons c more =>
      rw [(List.cons.inj hmore).2] at hr
      exact absurd (List.mem_append_right more List.mem_cons_self) hr

theorem decode?_encode {label : List Char} {words : List Nat} (hw : AreWords words)
    (hlabel : label.map Char.toLower = label) (h : (decode? (encode label words)).isSome) :
    decode? (encode label words) = some (label, words) := by
  obtain ⟨⟨found, ws⟩, hdecoded⟩ := Option.isSome_iff_exists.mp h
  obtain ⟨check, hsix, hwords, -, hsmall⟩ := decode?_eq_some hdecoded
  have hall : AreWords (words ++ checksum label words) :=
    List.forall_mem_append.mpr ⟨hw, areWords_checksum label words⟩
  have hsame : (encode label words).map Char.toLower = encode label words := by
    unfold encode
    rw [List.map_append, List.map_cons, hlabel, toLower_alphabet hall]
    rfl
  rw [hsame] at hsmall
  obtain ⟨rfl, htail⟩ :=
    append_separator_injective (separator_notMem hall) (separator_notMem hwords) hsmall
  have hsplit := map_alphabet_injective hall hwords htail
  have hlength : (checksum label words).length = check.length := by
    rw [hsix]
    rfl
  rw [hdecoded, (List.append_inj' hsplit hlength).1]

end IdentityProof.Bech32
