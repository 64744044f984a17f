import IdentityProof.Proofs.Bech32
import IdentityProof.Rule.Basic

/-! Event data bound to an address. The rule compares encoded texts, which is to compare the words,
and so a signal fits one address of a label and a length at most. -/

namespace IdentityProof

open Bech32

namespace BoundAddress

variable {address label : Json} {bound : BoundAddress}

theorem parse_eq_ok (h : parse address label = .ok bound) :
    ∃ s : String, address = .text s ∧ decode? s.toList = some (bound.label.toList, bound.words) ∧
      toBytes? bound.words = some bound.raw ∧
        bound.address = String.ofList (s.toList.map Char.toLower) := by
  unfold parse at h
  split at h
  · rename_i s
    refine ⟨s, rfl, ?_⟩
    unfold ofText at h
    split at h
    · exact nomatch h
    · rename_i found words hdecoded
      cases hsame : (Json.text (String.ofList found)).same label with
      | false =>
        simp only [hsame, Bool.not_false, if_true] at h
        obtain ⟨shown, -, h⟩ := bind_eq_ok.mp h
        exact nomatch h
      | true =>
        simp only [hsame, Bool.not_true, Bool.false_eq_true, if_false] at h
        cases hraw : toBytes? words with
        | none =>
          rw [hraw] at h
          exact nomatch h
        | some raw =>
          rw [hraw] at h
          obtain rfl := pure_eq_ok.mp h
          rw [String.toList_ofList]
          exact ⟨hdecoded, hraw, rfl⟩
  · obtain ⟨visible, -, h⟩ := bind_eq_ok.mp h
    cases visible with
    | true => exact nomatch h
    | false =>
      obtain ⟨shown, -, h⟩ := bind_eq_ok.mp h
      exact nomatch h

theorem parse_of_decode {s label : String} {words : List Nat} {raw : Bytes}
    (hdecoded : decode? s.toList = some (label.toList, words)) (hraw : toBytes? words = some raw) :
    parse (.text s) (.text label) =
      .ok ⟨String.ofList (s.toList.map Char.toLower), label, words, raw⟩ := by
  have hlabel : (Json.text label).same (.text label) = true := beq_self_eq_true label
  have hparse : parse (.text s) (.text label) = ofText s (.text label) := rfl
  rw [hparse, ofText]
  simp only [hdecoded, String.ofList_toList, hlabel, hraw, Bool.not_true, Bool.false_eq_true,
    if_false]
  rfl

theorem areWords (h : parse address label = .ok bound) : AreWords bound.words := by
  obtain ⟨s, -, hdecoded, -⟩ := parse_eq_ok h
  obtain ⟨check, -, hwords, -⟩ := decode?_eq_some hdecoded
  exact fun w hw => hwords w (List.mem_append_left _ hw)

theorem encode_eq_address_iff (h : parse address label = .ok bound) {words : List Nat}
    (hw : AreWords words) :
    String.ofList (encode bound.label.toList words) = bound.address ↔ words = bound.words := by
  obtain ⟨s, -, hdecoded, -, hsmall⟩ := parse_eq_ok h
  rw [hsmall, String.ofList_inj, encode_eq_iff hdecoded hw]

theorem address_eq (h : parse address label = .ok bound) :
    bound.address = String.ofList (encode bound.label.toList bound.words) :=
  ((encode_eq_address_iff h (areWords h)).mpr rfl).symm

def wordsOf (bound : BoundAddress) (payload : Bytes) : List Nat :=
  List.replicate (bound.words.length - payload.length) 0 ++ payload.map UInt8.toNat

/-- The bytes of a signal are the address in one of its two forms. -/
def Matches (bound : BoundAddress) (payload : Bytes) : Prop :=
  (payload.length = 20 ∧ payload = bound.raw) ∨
    (payload.length ≠ 20 ∧ bound.wordsOf payload = bound.words)

theorem checkAddress_eq_ok (h : parse address label = .ok bound) {payload : Bytes} :
    EventData.checkAddress bound payload = .ok () ↔ bound.Matches payload := by
  unfold EventData.checkAddress Matches wordsOf
  by_cases hlen : payload.length = 20
  · by_cases hraw : payload = bound.raw
    · simp [hlen, ← hraw]
    · simp [hlen, hraw, refuse]
  · simp only [hlen, if_false, ne_eq, not_false_eq_true, true_and, false_and, false_or]
    generalize hpadded : List.replicate _ 0 ++ payload.map UInt8.toNat = words
    have hlarge : words.any (32 ≤ ·) = true ↔ ¬ AreWords words := by
      simp [AreWords]
    by_cases hw : AreWords words
    · rw [if_neg fun hany => hlarge.mp hany hw, ← encode_eq_address_iff h hw]
      split
      · rename_i hsame
        exact iff_of_true rfl hsame
      · rename_i hdiffers
        exact iff_of_false nofun hdiffers
    · have hne : words ≠ bound.words := fun he => hw (he ▸ areWords h)
      rw [if_pos (hlarge.mpr hw)]
      exact iff_of_false nofun hne

theorem eq_of_matches {other : BoundAddress} {address' label' : Json}
    (h : parse address label = .ok bound) (h' : parse address' label' = .ok other)
    (hlabel : other.label = bound.label) (hlen : other.words.length = bound.words.length)
    {payload : Bytes} (hm : bound.Matches payload) (hm' : other.Matches payload) :
    other.address = bound.address := by
  have hwords : other.words = bound.words := by
    rcases hm with ⟨htwenty, hraw⟩ | ⟨hother, hpadded⟩
    · obtain ⟨-, hraw'⟩ := hm'.resolve_right fun hno => hno.1 htwenty
      obtain ⟨-, -, -, hbytes, -⟩ := parse_eq_ok h
      obtain ⟨-, -, -, hbytes', -⟩ := parse_eq_ok h'
      rw [← hraw] at hbytes
      rw [← hraw'] at hbytes'
      exact toBytes?_injective (areWords h') (areWords h) hlen hbytes' hbytes
    · obtain ⟨-, hpadded'⟩ := hm'.resolve_left fun hno => hother hno.1
      unfold wordsOf at hpadded hpadded'
      rw [hlen] at hpadded'
      exact hpadded'.symm.trans hpadded
  rw [address_eq h', address_eq h, hlabel, hwords]

end BoundAddress

namespace Rule

theorem address_check_eq_ok {address label : Json} {bound : BoundAddress}
    (h : BoundAddress.parse address label = .ok bound) {signal : String} {payload : Bytes}
    (hp : Packing.unpack signal = .ok payload) :
    (Rule.eventData (.address bound)).check (.text signal) = .ok () ↔ bound.Matches payload := by
  have hcheck : (Rule.eventData (.address bound)).check (.text signal) =
      EventData.checkAddress bound payload := by
    simp only [check, EventData.check, hp]
    rfl
  rw [hcheck, BoundAddress.checkAddress_eq_ok h]

/-- The encoding with its checksum is that of one sequence of words, so that the rule accepts the
bytes of the address and its words and nothing else. No other address with the label and the number
of words of this one has a signal in common with it. -/
theorem address_check_faithful {address label : Json} {bound : BoundAddress}
    (h : BoundAddress.parse address label = .ok bound) :
    (∃ s : String, address = .text s ∧
      bound.address = String.ofList (s.toList.map Char.toLower)) ∧
    (∀ words, AreWords words →
      (String.ofList (encode bound.label.toList words) = bound.address ↔ words = bound.words)) ∧
    (∀ signal payload, Packing.unpack signal = .ok payload →
      ((Rule.eventData (.address bound)).check (.text signal) = .ok () ↔
        (payload.length = 20 ∧ payload = bound.raw) ∨ (payload.length ≠ 20 ∧
          List.replicate (bound.words.length - payload.length) 0 ++ payload.map UInt8.toNat =
            bound.words))) ∧
    (∀ address' label' other, BoundAddress.parse address' label' = .ok other →
      other.label = bound.label → other.words.length = bound.words.length →
        other.address ≠ bound.address → ∀ signal,
          (Rule.eventData (.address bound)).check (.text signal) = .ok () →
            (Rule.eventData (.address other)).check (.text signal) ≠ .ok ()) := by
  obtain ⟨s, htext, -, -, hsmall⟩ := BoundAddress.parse_eq_ok h
  refine ⟨⟨s, htext, hsmall⟩, fun words hw => BoundAddress.encode_eq_address_iff h hw, ?_, ?_⟩
  · intro signal payload hp
    exact address_check_eq_ok h hp
  · intro address' label' other h' hlabel hlen hne signal hok hok'
    obtain ⟨payload, hp, -⟩ := bind_eq_ok.mp hok
    have hunpack := Fault.lift_eq_ok.mp hp
    have hm := (address_check_eq_ok h hunpack).mp hok
    have hm' := (address_check_eq_ok h' hunpack).mp hok'
    exact hne (BoundAddress.eq_of_matches h h' hlabel hlen hm hm')

def zeroFour : BoundAddress := ⟨"a1qy089ch6", "a", [0, 4], [1]⟩

def zeroEight : BoundAddress := ⟨"a1qg7erjxa", "a", [0, 8], [2]⟩

theorem one_address_per_signal :
    BoundAddress.parse (.text "a1qy089ch6") (.text "a") = .ok zeroFour ∧
      BoundAddress.parse (.text "a1qg7erjxa") (.text "a") = .ok zeroEight ∧
        (Rule.eventData (.address zeroFour)).check (.text "4") = .ok () ∧
          (Rule.eventData (.address zeroEight)).check (.text "4") ≠ .ok () := by
  have hone : BoundAddress.parse (.text "a1qy089ch6") (.text "a") = .ok zeroFour := rfl
  have hother : BoundAddress.parse (.text "a1qg7erjxa") (.text "a") = .ok zeroEight := rfl
  have hsignal : Packing.unpack "4" = .ok [4] := rfl
  obtain ⟨-, -, haccepts, hapart⟩ := address_check_faithful hone
  have hwords := (haccepts "4" [4] hsignal).mpr (.inr ⟨by decide, rfl⟩)
  have hdiffers := hapart _ _ _ hother rfl rfl (by decide) "4" hwords
  exact ⟨hone, hother, hwords, hdiffers⟩

end Rule
end IdentityProof
