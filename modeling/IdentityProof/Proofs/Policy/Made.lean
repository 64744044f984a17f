import IdentityProof.Policy.Setting
import IdentityProof.Proofs.Json.Integer

/-! The settings that callers can make, and what every policy built from them keeps. -/

namespace IdentityProof

inductive Setting.Made : Setting → Prop where
  | proofType {value : Json} {s : Setting} (h : ofProofType value = .ok s) : Made s
  | age {years : Json} {s : Setting} (h : ofAge years = .ok s) : Made s
  | citizenships (accepted : List Json) : Made (.citizenships accepted)
  | eventId (id : Json) : Made (.eventId id)
  | eventData (bytes : Bytes) : Made (ofEventData bytes)
  | address {address label : Json} {s : Setting} (h : ofAddress address label = .ok s) : Made s
  | documentType (code : Json) : Made (.documentType code)
  | selector (value : Json) : Made (.selector value)
  | maxIdentities (limit : Json) : Made (.maxIdentities limit)
  | timestamp {value : Json} {s : Setting} (h : ofTimestamp value = .ok s) : Made s
  | createdBy (moment : Moment) : Made (.createdBy moment)
  | participationEventId (id : Json) : Made (.participationEventId id)
  | keyFile (path : String) : Made (.keyFile path)
  | passportRoot (source : RootSource) : Made (.passportRoot source)
  | pollRoot (source : RootSource) : Made (.pollRoot source)
  | skipExpiration : Made .skipExpiration

def EventData.IsGiven : Option EventData → Prop
  | some (.bytes expected) => expected ≠ []
  | _ => True

namespace Setting

theorem ofProofType_eq_ok {value : Json} {s : Setting} (h : ofProofType value = .ok s) :
    ∃ t, s = .proofType t := by
  unfold ofProofType at h
  rw [mapError_eq_ok] at h
  cases ht : ProofType.ofJson value with
  | error e => simp [ht, Except.map] at h
  | ok t => exact ⟨t, by simpa [ht, Except.map, eq_comm] using h⟩

theorem ofAge_eq_ok {years : Json} {s : Setting} (h : ofAge years = .ok s) : s = .age years := by
  unfold ofAge at h
  split at h
  · exact nomatch h
  · split at h
    · obtain ⟨shown, -, h⟩ := bind_eq_ok.mp h
      exact nomatch h
    · exact (Except.ok.inj h).symm

theorem nonneg_of_ofAge {years : Json} {s : Setting} {n : Int} (h : ofAge years = .ok s)
    (hn : years.toInteger = .ok n) : 0 ≤ n := by
  rcases Json.toInteger_cases hn with rfl | ⟨b, rfl, rfl⟩
  · refine Int.not_lt.mp fun hneg => ?_
    have hlt : Number.int n < 0 := congrArg some (Int.compare_eq_lt.mpr hneg)
    have hage : ofAge (.int n) =
        (do throw (.refused (.negativeAge (← Fault.lift (Json.int n).shown)))) := if_pos hlt
    rw [hage] at h
    obtain ⟨shown, -, h⟩ := bind_eq_ok.mp h
    exact nomatch h
  · cases b <;> decide

theorem ofAddress_eq_ok {address label : Json} {s : Setting} (h : ofAddress address label = .ok s) :
    ∃ bound, s = .eventData (some (.address bound)) := by
  unfold ofAddress at h
  rw [mapError_eq_ok] at h
  cases hb : BoundAddress.parse address label with
  | error e => simp [hb, Except.map] at h
  | ok bound => exact ⟨bound, by simpa [hb, Except.map, eq_comm] using h⟩

theorem ofTimestamp_eq_ok {value : Json} {s : Setting} (h : ofTimestamp value = .ok s) :
    ∃ moment, s = .createdBy moment := by
  unfold ofTimestamp at h
  split at h
  · rename_i moment hm
    exact ⟨moment, (Except.ok.inj h).symm⟩
  · obtain ⟨shown, -, h⟩ := bind_eq_ok.mp h
    exact nomatch h

theorem isGiven_ofEventData (bytes : Bytes) :
    EventData.IsGiven (if bytes.isEmpty then none else some (.bytes bytes)) := by
  cases bytes with
  | nil => trivial
  | cons b bytes => exact List.cons_ne_nil b bytes

theorem isGiven_apply {p : Policy} {s : Setting} (hs : s.Made)
    (hp : EventData.IsGiven p.eventData) : EventData.IsGiven (s.apply p).eventData := by
  cases hs with
  | proofType h =>
    obtain ⟨t, rfl⟩ := ofProofType_eq_ok h
    exact hp
  | age h =>
    obtain rfl := ofAge_eq_ok h
    exact hp
  | address h =>
    obtain ⟨bound, rfl⟩ := ofAddress_eq_ok h
    trivial
  | timestamp h =>
    obtain ⟨moment, rfl⟩ := ofTimestamp_eq_ok h
    exact hp
  | eventData bytes => exact isGiven_ofEventData bytes
  | _ => exact hp

end Setting

namespace Policy

theorem merge_induction {P : Policy → Prop} {reset : Bool} {base : Policy} {settings : List Setting}
    (hstart : P (if reset then .unset base.proofType else base))
    (hstep : ∀ p, ∀ s ∈ settings, P p → P (s.apply p)) : P (merge reset base settings) := by
  unfold merge
  -- the settings apply from the left, so the induction is for every policy to start with
  generalize (if reset then Policy.unset base.proofType else base) = start at hstart ⊢
  induction settings generalizing start with
  | nil => exact hstart
  | cons s settings ih =>
    exact ih (fun p s' hs' => hstep p s' (List.mem_cons_of_mem _ hs')) _
      (hstep start s List.mem_cons_self hstart)

theorem isGiven_merge {reset : Bool} {base : Policy} {settings : List Setting}
    (hs : ∀ s ∈ settings, s.Made) (hbase : reset = true ∨ EventData.IsGiven base.eventData) :
    EventData.IsGiven (merge reset base settings).eventData := by
  refine merge_induction (P := fun p => EventData.IsGiven p.eventData) ?_
    fun p s hmem => Setting.isGiven_apply (hs s hmem)
  cases reset with
  | true => trivial
  | false => simpa using hbase

/-- The age and the limit of identities are integers, and an age that is asked for is not
negative. -/
structure HasIntegers (p : Policy) : Prop where
  age : p.age.isUnset = false → ∃ years : Nat, p.age.toInteger = .ok years
  maxIdentities : ∃ limit, p.maxIdentities.toInteger = .ok limit

theorem hasIntegers_unset (t : ProofType) : (unset t).HasIntegers := ⟨nofun, -1, rfl⟩

end Policy

def Setting.IsTyped : Setting → Prop
  | .age value | .maxIdentities value => ∃ n, value.toInteger = .ok n
  | _ => True

theorem Setting.hasIntegers_apply {p : Policy} {s : Setting} (hs : s.Made) (ht : s.IsTyped)
    (hp : p.HasIntegers) : (s.apply p).HasIntegers := by
  obtain ⟨hage, hmax⟩ := hp
  cases hs with
  | proofType h =>
    obtain ⟨t, rfl⟩ := ofProofType_eq_ok h
    exact ⟨hage, hmax⟩
  | age h =>
    obtain rfl := ofAge_eq_ok h
    obtain ⟨n, hn⟩ := ht
    obtain ⟨years, rfl⟩ := Int.eq_ofNat_of_zero_le (nonneg_of_ofAge h hn)
    exact ⟨fun _ => ⟨years, hn⟩, hmax⟩
  | address h =>
    obtain ⟨bound, rfl⟩ := ofAddress_eq_ok h
    exact ⟨hage, hmax⟩
  | timestamp h =>
    obtain ⟨moment, rfl⟩ := ofTimestamp_eq_ok h
    exact ⟨hage, hmax⟩
  | maxIdentities limit => exact ⟨hage, ht⟩
  | _ => exact ⟨hage, hmax⟩

theorem Policy.hasIntegers_merge {reset : Bool} {base : Policy} {settings : List Setting}
    (hs : ∀ s ∈ settings, s.Made ∧ s.IsTyped) (hbase : reset = true ∨ base.HasIntegers) :
    (merge reset base settings).HasIntegers := by
  refine merge_induction (P := HasIntegers) ?_
    fun p s hmem => Setting.hasIntegers_apply (hs s hmem).1 (hs s hmem).2
  cases reset with
  | true => exact hasIntegers_unset base.proofType
  | false => simpa using hbase

end IdentityProof
