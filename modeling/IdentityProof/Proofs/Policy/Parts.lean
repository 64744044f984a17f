import IdentityProof.Proofs.Policy.Made

/-! The parts of a policy. A setting writes one part and leaves the others alone, so of several
settings the last one of a part counts, and settings of different parts can change places. -/

namespace IdentityProof

inductive Policy.Part where
  | proofType
  | age
  | citizenships
  | eventId
  | eventData
  | documentType
  | selector
  | maxIdentities
  | createdBy
  | participationEventId
  | keyFile
  | passportRoot
  | pollRoot
  | skipsExpiration
  deriving DecidableEq, Repr

def Policy.Part.Value : Part → Type
  | .proofType => ProofType
  | .citizenships => List Json
  | .eventData => Option EventData
  | .createdBy => Option Moment
  | .keyFile => String
  | .passportRoot | .pollRoot => RootSource
  | .skipsExpiration => Bool
  | .age | .eventId | .documentType | .selector | .maxIdentities | .participationEventId => Json

def Policy.get (p : Policy) : (part : Part) → part.Value
  | .proofType => p.proofType
  | .age => p.age
  | .citizenships => p.citizenships
  | .eventId => p.eventId
  | .eventData => p.eventData
  | .documentType => p.documentType
  | .selector => p.selector
  | .maxIdentities => p.maxIdentities
  | .createdBy => p.createdBy
  | .participationEventId => p.participationEventId
  | .keyFile => p.keyFile
  | .passportRoot => p.passportRoot
  | .pollRoot => p.pollRoot
  | .skipsExpiration => p.skipsExpiration

theorem Policy.eq_of_get {p q : Policy} (h : ∀ part, p.get part = q.get part) : p = q := by
  obtain ⟨⟩ := p
  obtain ⟨⟩ := q
  rw [Policy.mk.injEq]
  exact ⟨h .proofType, h .age, h .citizenships, h .eventId, h .eventData, h .documentType,
    h .selector, h .maxIdentities, h .createdBy, h .participationEventId, h .keyFile,
    h .passportRoot, h .pollRoot, h .skipsExpiration⟩

theorem Policy.get_unset {t : ProofType} {part : Part} (h : part ≠ .proofType) :
    (unset t).get part = Policy.default.get part := by
  cases part with
  | proofType => exact absurd rfl h
  | _ => rfl

namespace Setting

def part : Setting → Policy.Part
  | .proofType _ => .proofType
  | .age _ => .age
  | .citizenships _ => .citizenships
  | .eventId _ => .eventId
  | .eventData _ => .eventData
  | .documentType _ => .documentType
  | .selector _ => .selector
  | .maxIdentities _ => .maxIdentities
  | .createdBy _ => .createdBy
  | .participationEventId _ => .participationEventId
  | .keyFile _ => .keyFile
  | .passportRoot _ => .passportRoot
  | .pollRoot _ => .pollRoot
  | .skipExpiration => .skipsExpiration

def value : (s : Setting) → s.part.Value
  | .proofType t => t
  | .age years => years
  | .citizenships accepted => accepted
  | .eventId id => id
  | .eventData rule => rule
  | .documentType code => code
  | .selector value => value
  | .maxIdentities limit => limit
  | .createdBy moment => some moment
  | .participationEventId id => id
  | .keyFile path => path
  | .passportRoot source => source
  | .pollRoot source => source
  | .skipExpiration => true

theorem get_apply_self (s : Setting) (p : Policy) : (s.apply p).get s.part = s.value := by
  cases s <;> rfl

theorem get_apply_of_ne {s : Setting} {part : Policy.Part} (h : s.part ≠ part) (p : Policy) :
    (s.apply p).get part = p.get part := by
  cases s <;> cases part <;> first | rfl | exact absurd rfl h

theorem part_ofAddress {address label : Json} {s : Setting} (h : ofAddress address label = .ok s) :
    s.part = .eventData := by
  obtain ⟨bound, rfl⟩ := ofAddress_eq_ok h
  rfl

end Setting

namespace Policy

variable {reset : Bool} {base p : Policy} {settings : List Setting} {part : Part}

theorem merge_append (reset : Bool) (base : Policy) (first second : List Setting) :
    merge reset base (first ++ second) = merge false (merge reset base first) second :=
  List.foldl_append

theorem get_merge_of_forall_ne (h : ∀ s ∈ settings, s.part ≠ part) :
    (merge false p settings).get part = p.get part := by
  refine merge_induction (P := fun q => q.get part = p.get part) rfl fun q s hs hq => ?_
  rw [Setting.get_apply_of_ne (h s hs), hq]

theorem get_merge_of_last {before after : List Setting} {s : Setting}
    (h : ∀ t ∈ after, t.part ≠ s.part) :
    (merge reset base (before ++ s :: after)).get s.part = s.value := by
  have hlast : merge reset base (before ++ s :: after) =
      merge false (s.apply (merge reset base before)) after := merge_append _ _ _ _
  rw [hlast, get_merge_of_forall_ne h, Setting.get_apply_self]

theorem get_merge_nil (reset : Bool) (base : Policy) (part : Part) :
    (merge reset base []).get part =
      if reset = true ∧ part ≠ .proofType then Policy.default.get part else base.get part := by
  cases reset with
  | false => exact (if_neg fun h => Bool.false_ne_true h.1).symm
  | true =>
    by_cases hpart : part = .proofType
    · subst hpart
      exact (if_neg fun h => h.2 rfl).symm
    · rw [if_pos ⟨rfl, hpart⟩]
      exact get_unset hpart

theorem get_merge_of_unwritten (h : ∀ s ∈ settings, s.part ≠ part) :
    (merge reset base settings).get part =
      if reset = true ∧ part ≠ .proofType then Policy.default.get part else base.get part := by
  have hstart : merge reset base settings = merge false (merge reset base []) settings :=
    merge_append reset base [] settings
  rw [hstart, get_merge_of_forall_ne h, get_merge_nil]

theorem apply_comm {s t : Setting} (h : s.part ≠ t.part) (p : Policy) :
    t.apply (s.apply p) = s.apply (t.apply p) := by
  refine eq_of_get fun part => ?_
  by_cases hs : s.part = part
  · subst hs
    rw [Setting.get_apply_of_ne h.symm, Setting.get_apply_self, Setting.get_apply_self]
  · have hskip : ∀ q : Policy, (s.apply q).get part = q.get part := Setting.get_apply_of_ne hs
    rw [hskip]
    by_cases ht : t.part = part
    · subst ht
      rw [Setting.get_apply_self, Setting.get_apply_self]
    · rw [Setting.get_apply_of_ne ht, Setting.get_apply_of_ne ht, hskip]

theorem merge_apply {s : Setting} (h : ∀ t ∈ settings, s.part ≠ t.part) (p : Policy) :
    merge false (s.apply p) settings = s.apply (merge false p settings) := by
  induction settings generalizing p with
  | nil => rfl
  | cons t rest ih =>
    have hrest : ∀ t ∈ rest, s.part ≠ t.part := fun t ht => h t (List.mem_cons_of_mem _ ht)
    calc merge false (t.apply (s.apply p)) rest
        = merge false (s.apply (t.apply p)) rest := by rw [apply_comm (h t List.mem_cons_self)]
      _ = s.apply (merge false (t.apply p) rest) := ih hrest _

theorem merge_swap {one other : List Setting} (h : ∀ s ∈ one, ∀ t ∈ other, s.part ≠ t.part)
    (p : Policy) : merge false p (one ++ other) = merge false p (other ++ one) := by
  induction one generalizing p with
  | nil => rw [List.nil_append, List.append_nil]
  | cons s rest ih =>
    have hrest : ∀ s ∈ rest, ∀ t ∈ other, s.part ≠ t.part :=
      fun s hs => h s (List.mem_cons_of_mem _ hs)
    calc merge false (s.apply p) (rest ++ other)
        = merge false (s.apply p) (other ++ rest) := ih hrest _
      _ = merge false (merge false (s.apply p) other) rest := merge_append _ _ _ _
      _ = merge false (s.apply (merge false p other)) rest := by
          rw [merge_apply (h s List.mem_cons_self)]
      _ = merge false p (other ++ s :: rest) := (merge_append false p other (s :: rest)).symm

theorem merge_swap_between {one other : List Setting}
    (h : ∀ s ∈ one, ∀ t ∈ other, s.part ≠ t.part) (reset : Bool) (base : Policy)
    (before after : List Setting) :
    merge reset base (before ++ (one ++ other) ++ after) =
      merge reset base (before ++ (other ++ one) ++ after) := by
  simp only [merge_append reset base, merge_swap h]

end Policy
end IdentityProof
