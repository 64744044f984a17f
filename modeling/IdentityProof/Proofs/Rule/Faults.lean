import IdentityProof.Proofs.Json.Integer
import IdentityProof.Proofs.Rule.Refusal
import IdentityProof.Proofs.Signal.Overlong

/-! Rules that meet a fault. A signal that cannot be read and a limit that cannot be shown are the
only things that keep a rule from accepting or refusing. -/

namespace IdentityProof

theorem not_meetsFault_refuse {e : RuleError} : ¬ MeetsFault (refuse e : Except (Raised RuleError) α) :=
  not_meetsFault_refused

theorem not_meetsFault_ite {c : Prop} [Decidable c] {x y : Check} (hx : ¬ MeetsFault x)
    (hy : ¬ MeetsFault y) : ¬ MeetsFault (if c then x else y) := by
  split
  · exact hx
  · exact hy

theorem DateMode.not_meetsFault_check {mode : DateMode} {point : Moment} {date : Date} :
    ¬ MeetsFault (mode.check point date) := by
  cases mode with
  | equal => exact not_meetsFault_ite not_meetsFault_ok not_meetsFault_refuse
  | before => exact not_meetsFault_ite not_meetsFault_refuse not_meetsFault_ok
  | after => exact not_meetsFault_ite not_meetsFault_refuse not_meetsFault_ok

namespace EventData

theorem not_meetsFault_checkAddress {bound : BoundAddress} {payload : Bytes} :
    ¬ MeetsFault (checkAddress bound payload) := by
  unfold checkAddress
  refine not_meetsFault_ite (not_meetsFault_ite not_meetsFault_ok not_meetsFault_refuse) ?_
  exact not_meetsFault_ite not_meetsFault_refuse <|
    not_meetsFault_ite not_meetsFault_ok not_meetsFault_refuse

theorem meetsFault_check {rule : EventData} {signal : String} :
    MeetsFault (rule.check signal) ↔ Overlong signal := by
  unfold check
  rw [meetsFault_bind, Fault.meetsFault_lift, isError_unpack, or_iff_left_iff_imp]
  rintro ⟨payload, -, h⟩
  cases rule with
  | address bound => exact absurd h not_meetsFault_checkAddress
  | bytes expected => exact absurd h (not_meetsFault_ite not_meetsFault_ok not_meetsFault_refuse)

end EventData

theorem Outcome.isError_ofCheck {check : Except (Raised ε) Unit} :
    IsError (ofCheck check) ↔ MeetsFault check := by
  unfold ofCheck
  split
  · exact iff_of_false not_isError_ok not_meetsFault_ok
  · exact iff_of_false not_isError_ok not_meetsFault_refused
  · exact iff_of_true isError_error ⟨_, rfl⟩

namespace Rule

theorem not_meetsFault_required {value : Json} : ¬ MeetsFault (Rule.required.check value) := by
  simp only [check]
  split
  · exact not_meetsFault_refuse
  · exact not_meetsFault_refuse
  · exact not_meetsFault_ok

theorem not_meetsFault_oneOf {accepted : List Json} {value : Json} :
    ¬ MeetsFault ((Rule.oneOf accepted).check value) :=
  not_meetsFault_ite not_meetsFault_ok not_meetsFault_refuse

theorem meetsFault_date {mode : DateMode} {point : Moment} {s : String} :
    MeetsFault ((Rule.date mode point).check (.text s)) ↔ Overlong s := by
  simp only [check]
  rw [meetsFault_bind, PackedDate.meetsFault_unpack, or_iff_left_iff_imp]
  rintro ⟨date, -, h⟩
  exact absurd h DateMode.not_meetsFault_check

theorem meetsFault_eventData {rule : EventData} {s : String} :
    MeetsFault ((Rule.eventData rule).check (.text s)) ↔ Overlong s := EventData.meetsFault_check

variable {rules : List Rule} {value : Json}

theorem isError_checkAll_cons {rule : Rule} : IsError (checkAll (rule :: rules) value) ↔
    MeetsFault (rule.check value) ∨ (rule.check value = .ok () ∧ IsError (checkAll rules value)) := by
  unfold checkAll
  rw [Outcome.isError_ofCheck, Outcome.isError_ofCheck]
  -- the loop is a bind at its first rule
  change MeetsFault (rule.check value >>= fun _ => rules.forM fun r => r.check value) ↔ _
  rw [meetsFault_bind]
  exact or_congr_right ⟨fun ⟨_, h⟩ => h, fun h => ⟨(), h⟩⟩

theorem exists_meetsFault_of_checkAll (h : IsError (checkAll rules value)) :
    ∃ rule ∈ rules, MeetsFault (rule.check value) := by
  induction rules with
  | nil => exact absurd h not_isError_ok
  | cons rule rest ih =>
    rcases isError_checkAll_cons.mp h with h | ⟨-, h⟩
    · exact ⟨rule, List.mem_cons_self, h⟩
    · obtain ⟨r, hr, hfault⟩ := ih h
      exact ⟨r, List.mem_cons_of_mem _ hr, hfault⟩

theorem not_isError_checkAll (h : ∀ rule ∈ rules, ¬ MeetsFault (rule.check value)) :
    ¬ IsError (checkAll rules value) := by
  intro he
  obtain ⟨rule, hr, hfault⟩ := exists_meetsFault_of_checkAll he
  exact h rule hr hfault

theorem isError_checkAll {P : Prop} (hne : rules ≠ [])
    (h : ∀ rule ∈ rules, MeetsFault (rule.check value) ↔ P) : IsError (checkAll rules value) ↔ P := by
  constructor
  · intro he
    obtain ⟨rule, hr, hfault⟩ := exists_meetsFault_of_checkAll he
    exact (h rule hr).mp hfault
  · intro hP
    obtain ⟨rule, rest, rfl⟩ := List.exists_cons_of_ne_nil hne
    exact isError_checkAll_cons.mpr (.inl ((h rule List.mem_cons_self).mpr hP))

theorem isError_checkAll_required {s : String} (hne : rules ≠ [])
    (h : ∀ rule ∈ rules, MeetsFault (rule.check (.text s)) ↔ Overlong s) :
    IsError (checkAll (.required :: rules) (.text s)) ↔ Overlong s := by
  rw [isError_checkAll_cons, or_iff_right not_meetsFault_required, isError_checkAll hne h,
    and_iff_right_iff_imp]
  intro hlong
  have hkept : ¬ Rule.required.Refuses (.text s) := mt required_refuses.mp hlong.ne_empty
  have hpass : ¬ MeetsFault (Rule.required.check (.text s)) := not_meetsFault_required
  cases hc : Rule.required.check (.text s) with
  | ok u => rfl
  | error e =>
    cases e with
    | refused e => exact absurd ⟨e, hc⟩ hkept
    | fault f => exact absurd ⟨f, hc⟩ hpass

end Rule

theorem Rule.meetsFault_atMost {limit : Json} {n a : Int} (h : limit.toInteger = .ok n) :
    MeetsFault ((Rule.atMost limit).check (.int a)) ↔ n < a ∧ Integer.IsUnwritable n := by
  simp only [Rule.check]
  rw [meetsFault_bind, Fault.meetsFault_lift, Json.int_greater h, or_iff_right not_isError_ok]
  have hlift : ∀ a' : Bool, Fault.lift (.ok a' : Except Fault Bool) =
      (.ok a' : Except (Raised RuleError) Bool) := fun _ => rfl
  simp only [hlift, Except.ok.injEq, exists_eq_left', decide_eq_true_eq]
  by_cases hlt : n < a
  · rw [if_pos hlt, meetsFault_bind, Fault.meetsFault_lift, Json.isError_shown h,
      and_iff_right hlt, or_iff_left_iff_imp]
    rintro ⟨shown, -, hr⟩
    exact absurd hr not_meetsFault_refuse
  · rw [if_neg hlt]
    exact iff_of_false not_meetsFault_ok fun hboth => hlt hboth.1

end IdentityProof
