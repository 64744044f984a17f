import IdentityProof.Proofs.Bech32.RoundTrip
import IdentityProof.Proofs.Verification.EventData

/-! Accounts of twenty bytes under an address. A signal may hold the words of the account or its
bytes, and the rule tells one from the other by the number of bytes that are left after the zeros at
the front are lost. Words are refused if twenty of them are left, and bytes if fewer are left,
unless it is a single one that is a word as well. -/

namespace IdentityProof

open Bech32

namespace Bytes

theorem toNat_eq_valueIn (bytes : Bytes) : toNat bytes = valueIn 256 0 (bytes.map UInt8.toNat) :=
  List.foldl_map.symm

theorem head?_trimmed (bytes : Bytes) : ((trimmed bytes).map UInt8.toNat).head? ≠ some 0 := by
  intro hzero
  obtain ⟨b, hb, hvalue⟩ := Option.map_eq_some_iff.mp (List.head?_map.symm.trans hzero)
  obtain rfl : b = 0 := UInt8.toNat_inj.mp hvalue
  exact not_leadsWithZero_trimmed bytes hb

theorem toNat_lt_pow_iff (bytes : Bytes) (count : Nat) :
    toNat bytes < 256 ^ count ↔ (trimmed bytes).length ≤ count := by
  have hdigits : ∀ d ∈ (trimmed bytes).map UInt8.toNat, d < 256 := by
    intro d hd
    obtain ⟨b, -, rfl⟩ := List.mem_map.mp hd
    exact b.toNat_lt
  have h := valueIn_lt_pow_iff (by decide) hdigits (head?_trimmed bytes) count
  rwa [← toNat_eq_valueIn, toNat_trimmed, List.length_map] at h

end Bytes

def Bech32.wordBytes (words : List Nat) : Bytes := words.map UInt8.ofNat

theorem Bech32.map_toNat_wordBytes {words : List Nat} (hw : AreWords words) :
    (wordBytes words).map UInt8.toNat = words := by
  unfold wordBytes
  rw [List.map_map]
  refine (List.map_congr_left fun w h => ?_).trans (List.map_id words)
  have hlt := hw w h
  rw [Function.comp_apply, UInt8.toNat_ofNat', Nat.mod_eq_of_lt (by omega)]
  rfl

namespace BoundAddress

variable {bound : BoundAddress} {account : Bytes}

/-- The address is that of an account of twenty bytes. -/
structure IsOf (bound : BoundAddress) (account : Bytes) : Prop where
  length : account.length = 20
  words : bound.words = ofBytes account
  raw : bound.raw = account

theorem IsOf.length_words (h : bound.IsOf account) : bound.words.length = 32 := by
  obtain ⟨-, fill, hfill, hlength, -⟩ := ofBytes_value account
  rw [h.words]
  have hbytes := h.length
  omega

theorem IsOf.areWords (h : bound.IsOf account) : AreWords bound.words := by
  rw [h.words]
  exact (ofBytes_value account).1

theorem IsOf.value (h : bound.IsOf account) : valueIn 32 0 bound.words = Bytes.toNat account := by
  obtain ⟨-, fill, hfill, hlength, hvalue⟩ := ofBytes_value account
  have hwords := h.length_words
  have hbytes := h.length
  rw [h.words] at hwords ⊢
  obtain rfl : fill = 0 := by omega
  rw [hvalue, Nat.pow_zero, Nat.mul_one, Bytes.toNat_eq_valueIn]

theorem value_wordsOf (bound : BoundAddress) (payload : Bytes) :
    valueIn 32 0 (bound.wordsOf payload) = valueIn 32 0 (payload.map UInt8.toNat) :=
  valueIn_replicate_append 32 _ _

theorem length_wordsOf {payload : Bytes} (h : payload.length ≤ bound.words.length) :
    (bound.wordsOf payload).length = bound.words.length := by
  unfold wordsOf
  rw [List.length_append, List.length_replicate, List.length_map]
  exact Nat.sub_add_cancel h

theorem IsOf.value_of_wordsOf (h : bound.IsOf account) {payload : Bytes}
    (hpadded : bound.wordsOf payload = bound.words) :
    AreWords (payload.map UInt8.toNat) ∧
      valueIn 32 0 (payload.map UInt8.toNat) = Bytes.toNat account := by
  constructor
  · intro w hw
    apply h.areWords
    rw [← hpadded]
    exact List.mem_append_right _ hw
  · rw [← value_wordsOf, hpadded, h.value]

theorem IsOf.wordsOf_wordBytes (h : bound.IsOf account) :
    bound.wordsOf (Bytes.trimmed (wordBytes bound.words)) = bound.words := by
  have hpadded := congrArg (List.map UInt8.toNat)
    (Bytes.replicate_append_trimmed (wordBytes bound.words))
  rw [List.map_append, List.map_replicate, map_toNat_wordBytes h.areWords] at hpadded
  have hlength : (wordBytes bound.words).length = bound.words.length := List.length_map _
  rw [hlength] at hpadded
  exact hpadded

theorem IsOf.matches_words_iff (h : bound.IsOf account) :
    bound.Matches (Bytes.trimmed (wordBytes bound.words)) ↔
      ¬ (32 ^ 19 ≤ Bytes.toNat account ∧ Bytes.toNat account < 32 ^ 20) := by
  have hpadded := h.wordsOf_wordBytes
  have hhead := Bytes.head?_trimmed (wordBytes bound.words)
  obtain ⟨hwords, hvalue⟩ := h.value_of_wordsOf hpadded
  unfold Matches
  rw [hpadded, h.raw]
  generalize Bytes.trimmed (wordBytes bound.words) = payload at *
  have hfrom := valueIn_lt_pow_iff (by decide) hwords hhead 19
  have hto := valueIn_lt_pow_iff (by decide) hwords hhead 20
  rw [hvalue, List.length_map] at hfrom hto
  -- twenty words are taken for bytes, and as bytes they would spell another number
  have hother : ¬ (payload.length = 20 ∧ payload = account) := by
    rintro ⟨htwenty, rfl⟩
    rw [Bytes.toNat_eq_valueIn, valueIn_eq_iff (by decide) (by decide) hhead, List.length_map]
      at hvalue
    omega
  rw [or_iff_right hother, and_iff_left rfl]
  omega

theorem IsOf.wordsOf_raw_iff (h : bound.IsOf account) :
    bound.wordsOf (Bytes.trimmed account) = bound.words ↔ Bytes.toNat account < 32 := by
  have hhead := Bytes.head?_trimmed account
  have hshort := Bytes.length_trimmed_le account
  have hone := Bytes.toNat_lt_pow_iff account 1
  have hvalue : valueIn 256 0 ((Bytes.trimmed account).map UInt8.toNat) = Bytes.toNat account := by
    rw [← Bytes.toNat_eq_valueIn, Bytes.toNat_trimmed]
  have hsame := valueIn_eq_iff (by decide) (by decide : 32 < 256) hhead
  have hlength := h.length_words
  rw [h.length] at hshort
  generalize Bytes.trimmed account = payload at *
  rw [hvalue, List.length_map] at hsame
  constructor
  · intro hpadded
    obtain ⟨hwords, hnumber⟩ := h.value_of_wordsOf hpadded
    have hfits := valueIn_lt_pow_iff (by decide) hwords hhead 1
    rw [hnumber, List.length_map] at hfits
    exact hfits.mpr (hsame.mp hnumber)
  · intro hsmall
    have hlast : payload.length ≤ 1 := hone.mp (Nat.lt_trans hsmall (by decide))
    have hwords : ∀ w ∈ payload.map UInt8.toNat, w < 32 := by
      match payload with
      | [] => exact nofun
      | [b] =>
        have hb : b.toNat = Bytes.toNat account := by simpa [valueIn] using hvalue
        simpa [hb] using hsmall
      | _ :: _ :: _ => exact absurd hlast (by simp)
    have hfits : payload.length ≤ bound.words.length := by omega
    apply valueIn_injective (by decide) (length_wordsOf hfits) _ h.areWords
    · rw [value_wordsOf, hsame.mpr hlast, h.value]
    · intro w hw
      rcases List.mem_append.mp hw with hzero | hword
      · rw [List.eq_of_mem_replicate hzero]
        decide
      · exact hwords w hword

theorem IsOf.matches_raw_iff (h : bound.IsOf account) :
    bound.Matches (Bytes.trimmed account) ↔
      256 ^ 19 ≤ Bytes.toNat account ∨ Bytes.toNat account < 32 := by
  have hshort := Bytes.length_trimmed_le account
  have hmost := Bytes.toNat_lt_pow_iff account 19
  have hwhole : (Bytes.trimmed account).length = 20 → Bytes.trimmed account = account := by
    intro htwenty
    have hpadded := Bytes.replicate_append_trimmed account
    rwa [h.length, htwenty] at hpadded
  unfold Matches
  rw [h.raw, and_iff_left_of_imp hwhole, h.wordsOf_raw_iff]
  rw [h.length] at hshort
  omega

end BoundAddress

namespace Policy

variable {p : Policy} {bound : BoundAddress}

theorem address_reported_iff {address label : Json} (h : BoundAddress.parse address label = .ok bound)
    (hrule : p.eventData = some (.address bound)) {bytes : Bytes} {signals : Signal → String}
    (hpack : Packing.pack bytes = .ok (signals .eventData)) {now : Moment}
    {failures : Failures RuleError} (hf : p.passportFailures now signals = .ok failures) :
    Signal.eventData.path ∈ failures.fields ↔ ¬ bound.Matches (Bytes.trimmed bytes) := by
  have hne : signals .eventData ≠ "" := by
    intro hblank
    have hnumber := parseDecimal_decimalText hpack
    rw [hblank] at hnumber
    exact nomatch hnumber
  have hcheck := Rule.address_check_eq_ok h (Packing.unpack_of_pack hpack)
  rw [eventData_reported_iff hrule hf, Ne, eventDataOutcome_pass_iff hrule, and_iff_right hne]
  exact not_congr hcheck

end Policy

def addressOf (label : String) (account : Bytes) : Json :=
  .text (String.ofList (encode label.toList (ofBytes account)))

theorem BoundAddress.exists_isOf {account : Bytes} {label : String} (hlen : account.length = 20)
    (hlabel : label.toList.map Char.toLower = label.toList)
    (hvalid : (decode? (encode label.toList (ofBytes account))).isSome) :
    ∃ bound, parse (addressOf label account) (.text label) = .ok bound ∧ bound.IsOf account := by
  have hdecoded := decode?_encode (ofBytes_value account).1 hlabel hvalid
  have htext : decode? (String.ofList (encode label.toList (ofBytes account))).toList =
      some (label.toList, ofBytes account) := by
    rw [String.toList_ofList]
    exact hdecoded
  exact ⟨_, parse_of_decode htext (toBytes?_ofBytes account), hlen, rfl, rfl⟩

namespace Policy

/-- An account can be proved by its words unless its number fills twenty of them, and by its bytes
if its number fills all twenty of those or is a word itself. Otherwise the event data is
reported. -/
theorem account_signals {account : Bytes} {label : String} (hlen : account.length = 20)
    (hlabel : label.toList.map Char.toLower = label.toList)
    (hvalid : (decode? (encode label.toList (ofBytes account))).isSome) :
    ∃ bound s inWords inBytes,
      BoundAddress.parse (addressOf label account) (.text label) = .ok bound ∧
      Setting.ofAddress (addressOf label account) (.text label) = .ok s ∧
      Packing.pack (wordBytes (ofBytes account)) = .ok inWords ∧
      Packing.pack account = .ok inBytes ∧
      ((Rule.eventData (.address bound)).check (.text inWords) = .ok () ↔
        ¬ (32 ^ 19 ≤ Bytes.toNat account ∧ Bytes.toNat account < 32 ^ 20)) ∧
      ((Rule.eventData (.address bound)).check (.text inBytes) = .ok () ↔
        256 ^ 19 ≤ Bytes.toNat account ∨ Bytes.toNat account < 32) ∧
      ∀ (p : Policy) (now : Moment) (signals : Signal → String) (failures : Failures RuleError),
        (s.apply p).passportFailures now signals = .ok failures →
          (signals .eventData = inWords → (Signal.eventData.path ∈ failures.fields ↔
            32 ^ 19 ≤ Bytes.toNat account ∧ Bytes.toNat account < 32 ^ 20)) ∧
          (signals .eventData = inBytes → (Signal.eventData.path ∈ failures.fields ↔
            32 ≤ Bytes.toNat account ∧ Bytes.toNat account < 256 ^ 19)) := by
  obtain ⟨bound, hparse, hof⟩ := BoundAddress.exists_isOf hlen hlabel hvalid
  have hcount : (wordBytes (ofBytes account)).length = 32 := by
    rw [← hof.words, ← hof.length_words]
    exact List.length_map _
  have hwords : Packing.pack (wordBytes (ofBytes account)) = .ok _ :=
    Packing.pack_eq (by rw [hcount]; decide)
  have hbytes : Packing.pack account = .ok _ := Packing.pack_eq (by rw [hlen]; decide)
  have hmatches := hof.matches_words_iff
  have hmatches' := hof.matches_raw_iff
  rw [hof.words] at hmatches
  refine ⟨bound, _, _, _, hparse, Setting.ofAddress_of_parse hparse, hwords, hbytes, ?_, ?_, ?_⟩
  · rw [Rule.address_check_eq_ok hparse (Packing.unpack_of_pack hwords), hmatches]
  · rw [Rule.address_check_eq_ok hparse (Packing.unpack_of_pack hbytes), hmatches']
  · intro p now signals failures hf
    have hrule : ((Setting.eventData (some (.address bound))).apply p).eventData =
        some (.address bound) := rfl
    constructor
    · intro hsignal
      rw [← hsignal] at hwords
      rw [address_reported_iff hparse hrule hwords hf, hmatches, Classical.not_not]
    · intro hsignal
      rw [← hsignal] at hbytes
      rw [address_reported_iff hparse hrule hbytes hf, hmatches', not_or, Nat.not_le, Nat.not_lt]
      exact and_comm

theorem plain_account_proved :
    (1 :: List.replicate 19 0 : Bytes).length = 20 ∧
      "rarimo".toList.map Char.toLower = "rarimo".toList ∧
      (decode? (encode "rarimo".toList (ofBytes (1 :: List.replicate 19 0)))).isSome ∧
      ∃ bound inWords inBytes,
        BoundAddress.parse (addressOf "rarimo" (1 :: List.replicate 19 0)) (.text "rarimo") =
          .ok bound ∧
        Packing.pack (wordBytes (ofBytes (1 :: List.replicate 19 0))) = .ok inWords ∧
        Packing.pack (1 :: List.replicate 19 0) = .ok inBytes ∧
        (Rule.eventData (.address bound)).check (.text inWords) = .ok () ∧
        (Rule.eventData (.address bound)).check (.text inBytes) = .ok () := by
  have hlen : (1 :: List.replicate 19 0 : Bytes).length = 20 := rfl
  have hlabel : "rarimo".toList.map Char.toLower = "rarimo".toList := by decide
  have hvalid : (decode? (encode "rarimo".toList (ofBytes (1 :: List.replicate 19 0)))).isSome := by
    decide +kernel
  have hnumber : 256 ^ 19 ≤ Bytes.toNat (1 :: List.replicate 19 0) := by decide
  have hlarge : ¬ (32 ^ 19 ≤ Bytes.toNat (1 :: List.replicate 19 0) ∧
      Bytes.toNat (1 :: List.replicate 19 0) < 32 ^ 20) := by decide
  obtain ⟨bound, -, inWords, inBytes, hparse, -, hwords, hbytes, hcheck, hcheck', -⟩ :=
    account_signals hlen hlabel hvalid
  exact ⟨hlen, hlabel, hvalid, bound, inWords, inBytes, hparse, hwords, hbytes,
    hcheck.mpr hlarge, hcheck'.mpr (.inl hnumber)⟩

def shortAccount : Bytes := List.replicate 7 0 ++ 15 :: List.replicate 12 90

def shortAddress : BoundAddress where
  address := "rarimo1qqqqqqqqqqqq7kj6tfd95kj6tfd95kj6yfpvxe"
  label := "rarimo"
  words := ofBytes shortAccount
  raw := shortAccount

/-- The account is refused in both of its forms. -/
theorem short_account_refused :
    BoundAddress.parse (addressOf "rarimo" shortAccount) (.text "rarimo") = .ok shortAddress ∧
      Packing.pack (wordBytes (ofBytes shortAccount)) =
        .ok "171761916402239673763990721554970012456058229274" ∧
      Packing.pack shortAccount = .ok "1216385318601352477171468884570" ∧
      (Rule.eventData (.address shortAddress)).check
        (.text "171761916402239673763990721554970012456058229274") =
          .error (.refused .addressDiffers) ∧
      (Rule.eventData (.address shortAddress)).check (.text "1216385318601352477171468884570") =
        .error (.refused .notAddressWords) := by
  have hparse : BoundAddress.parse (addressOf "rarimo" shortAccount) (.text "rarimo") =
      .ok shortAddress := by decide +kernel
  have hwords : Packing.pack (wordBytes (ofBytes shortAccount)) =
      .ok (toString (Bytes.toNat (wordBytes (ofBytes shortAccount)))) :=
    Packing.pack_eq (by decide)
  have hbytes : Packing.pack shortAccount = .ok (toString (Bytes.toNat shortAccount)) :=
    Packing.pack_eq (by decide)
  exact ⟨hparse, hwords, hbytes, by decide +kernel, by decide +kernel⟩

end Policy
end IdentityProof
