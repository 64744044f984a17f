import IdentityProof.Proofs.Signal.Packing
import IdentityProof.Proofs.Verification.Reports

/-! What a passed check says about the integer of its signal. The checks look at texts, and the
integers are those that the equation is decided on. -/

namespace IdentityProof

/-- Every signal that is not blank has the integer that its text spells. -/
def Reads (signal : Signal → String) (value : Signal → Option Int) : Prop :=
  ∀ s, signal s ≠ "" → ∃ n, readInteger (signal s) = .ok n ∧ value s = some n

def Json.Names (option : Json) (value : Option Int) : Prop :=
  ∃ n, Coordinate.read option = .ok n ∧ value = some n

def Text.Packs (text : String) (value : Option Int) : Prop :=
  ∃ bytes, encodeLatin1 text.toList = .ok bytes ∧ value = some (Bytes.toNat bytes : Int)

def PackedDate.Shows (value : Option Int) (good : Date → Prop) : Prop :=
  ∃ n : Nat, value = some (n : Int) ∧ ∃ date, Holds n date ∧ good date

theorem PackedDate.Shows.imp {value : Option Int} {good better : Date → Prop}
    (h : Shows value good) (himp : ∀ date, good date → better date) : Shows value better := by
  obtain ⟨n, hn, date, hd, hgood⟩ := h
  exact ⟨n, hn, date, hd, himp date hgood⟩

def PackedDate.unsetValue : Nat := 52983525027888

namespace Reads

variable {signal : Signal → String} {value : Signal → Option Int} {s : Signal}

theorem decimal (hr : Reads signal value) {n : Nat} (h : parseDecimal (signal s) = .ok (some n)) :
    value s = some (n : Int) := by
  have hne : signal s ≠ "" := by
    intro he
    rw [he] at h
    exact nomatch h
  obtain ⟨m, hm, hv⟩ := hr s hne
  obtain rfl : m = n := Except.ok.inj (hm.symm.trans (readInteger_of_parseDecimal h))
  exact hv

theorem option (hr : Reads signal value) {option : Json} (hset : option.isUnset = false)
    (h : option = .text (signal s)) : option.Names (value s) := by
  have hne : signal s ≠ "" := fun he => Json.ne_blank hset (he ▸ h)
  obtain ⟨n, hn, hv⟩ := hr s hne
  refine ⟨n, ?_, hv⟩
  rw [h]
  exact hn

theorem text (hr : Reads signal value) {text : String}
    (h : Packing.unpackText (signal s) = .ok text) (hne : text ≠ "") :
    Text.Packs text (value s) := by
  obtain ⟨n, bytes, hn, hb, rfl⟩ := Packing.unpackText_eq_ok h hne
  exact ⟨bytes, hb, hr.decimal hn⟩

theorem shows (hr : Reads signal value) {date : Date} {good : Date → Prop}
    (hd : PackedDate.unpack (signal s) = .ok date) (hgood : good date) :
    PackedDate.Shows (value s) good := by
  obtain ⟨n, hn, hholds⟩ := PackedDate.unpack_eq_ok hd
  exact ⟨n, hr.decimal hn, date, hholds, hgood⟩

theorem date (hr : Reads signal value) {mode : DateMode} {point : Moment}
    (h : (Rule.date mode point).check (.text (signal s)) = .ok ()) :
    PackedDate.Shows (value s) fun date => ¬ mode.Refuses point date := by
  obtain ⟨date, hd, hgood⟩ := Rule.date_check_eq_ok.mp h
  exact hr.shows hd hgood

theorem unset (hr : Reads signal value) (h : PackedDate.isUnset (signal s) = true) :
    value s = some 0 ∨ value s = some (PackedDate.unsetValue : Int) := by
  rcases Bool.or_eq_true_iff.mp h with h | h
  · have hs : signal s = "0" := beq_iff_eq.mp h
    have hn : parseDecimal (signal s) = .ok (some 0) := by rw [hs]; rfl
    exact .inl (hr.decimal hn)
  · have hs : signal s = PackedDate.unset := beq_iff_eq.mp h
    have hn : parseDecimal (signal s) = .ok (some PackedDate.unsetValue) := by rw [hs]; rfl
    exact .inr (hr.decimal hn)

end Reads

namespace Policy

variable {p : Policy} {now : Moment}

/-- What the policy asks of a passport holds of the integers of its signals. -/
structure PassportHolds (p : Policy) (now : Moment) (value : Signal → Option Int) : Prop where
  citizenship : p.citizenships ≠ [] →
    ∃ text, .text text ∈ p.citizenships ∧ Text.Packs text (value .citizenship)
  documentType : p.documentType.isUnset = false →
    ∃ text, p.documentType = .text text ∧ Text.Packs text (value .documentType)
  eventData : ∀ expected, p.eventData = some (.bytes expected) →
    value .eventData = some (Bytes.toNat expected : Int)
  eventId : p.eventId.isUnset = false → p.eventId.Names (value .eventId)
  selector : p.selector.isUnset = false → p.selector.Names (value .selector)
  age : p.age.isUnset = false → ∃ years cutoff,
    p.age.toInteger = .ok years ∧ now.yearsAgo years = .ok cutoff ∧
      (PackedDate.Shows (value .birthDate) (Moment.midnight · ≤ cutoff) ∨
        PackedDate.Shows (value .birthDateUpperBound) (· = cutoff.date))
  expirationBound : p.skipsExpiration = false →
    value .expirationDateLowerBound = some 0 ∨
      value .expirationDateLowerBound = some (PackedDate.unsetValue : Int) ∨
        PackedDate.Shows (value .expirationDateLowerBound) (· = now.date)
  expiration : p.skipsExpiration = false →
    value .expirationDate = some 0 ∨ value .expirationDate = some (PackedDate.unsetValue : Int) ∨
      PackedDate.Shows (value .expirationDate) (now ≤ Moment.midnight ·)
  currentDate : p.proofType = .georgianPassport → ∃ yesterday tomorrow,
    now.startOfDay.previousDay = .ok yesterday ∧ now.startOfDay.nextDay = .ok tomorrow ∧
      PackedDate.Shows (value .currentDate)
        fun date => yesterday ≤ Moment.midnight date ∧ Moment.midnight date ≤ tomorrow
  identities : p.maxIdentities.isUnset = false ∨ p.createdBy ≠ none →
    (p.maxIdentities.isUnset = false ∧ ∃ count : Nat,
      value .identityCounterUpperBound = some (count : Int) ∧
        (Json.int count).greater p.maxIdentities = .ok false) ∨
    ∃ limit, p.createdBy = some limit ∧ ∃ seconds : Nat,
      value .timestampUpperBound = some (seconds : Int) ∧
        ∃ moment, Moment.ofUnixSeconds seconds = .ok moment ∧ moment ≤ limit

structure PollHolds (p : Policy) (value : Signal → Option Int) : Prop where
  participationEventId : p.participationEventId.isUnset = false →
    p.participationEventId.Names (value .participationEventId)
  eventId : p.eventId.isUnset = false → p.eventId.Names (value .eventId)

end Policy
end IdentityProof
