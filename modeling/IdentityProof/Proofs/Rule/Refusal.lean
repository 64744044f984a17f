import IdentityProof.Proofs.Fault
import IdentityProof.Rule.Outcome

/-! What the rules refuse. A value fails a list of rules when one of them refuses it, provided that
no fault keeps the rules from being tried. -/

namespace IdentityProof

theorem Json.text_same {s : String} {value : Json} :
    (Json.text s).same value = true ↔ .text s = value := by
  cases value <;> simp [same, toNumber?]

theorem Json.ne_blank {option : Json} (hset : option.isUnset = false) : option ≠ .text "" := by
  rintro rfl
  exact nomatch hset

def PackedDate.Fails (bad : Date → Prop) (signal : String) : Prop :=
  (∃ e, unpack signal = .error (.refused e)) ∨ ∃ date, unpack signal = .ok date ∧ bad date

theorem PackedDate.fails_blank {bad : Date → Prop} : Fails bad "" := .inl ⟨_, rfl⟩

theorem PackedDate.fails_or {bad worse : Date → Prop} {signal : String} :
    Fails (fun date => bad date ∨ worse date) signal ↔ Fails bad signal ∨ Fails worse signal := by
  unfold Fails
  constructor
  · rintro (h | ⟨date, hd, hbad | hworse⟩)
    · exact .inl (.inl h)
    · exact .inl (.inr ⟨date, hd, hbad⟩)
    · exact .inr (.inr ⟨date, hd, hworse⟩)
  · rintro ((h | ⟨date, hd, hbad⟩) | (h | ⟨date, hd, hworse⟩))
    · exact .inl h
    · exact .inr ⟨date, hd, .inl hbad⟩
    · exact .inl h
    · exact .inr ⟨date, hd, .inr hworse⟩

def DateMode.Refuses (mode : DateMode) (point : Moment) (date : Date) : Prop :=
  match mode with
  | .equal => date ≠ point.date
  | .before => point < Moment.midnight date
  | .after => Moment.midnight date < point

theorem DateMode.check_eq_refused {mode : DateMode} {point : Moment} {date : Date} :
    (∃ e, mode.check point date = .error (.refused e)) ↔ mode.Refuses point date := by
  cases mode <;> simp only [check, Refuses] <;> split <;> simp_all [refuse]

theorem DateMode.check_eq_ok {mode : DateMode} {point : Moment} {date : Date} :
    mode.check point date = .ok () ↔ ¬ mode.Refuses point date := by
  cases mode <;> simp only [check, Refuses] <;> split <;> simp_all [refuse]

theorem EventData.bytes_check_iff {expected : Bytes} {signal : String} :
    (EventData.bytes expected).check signal = .ok () ↔ Packing.unpack signal = .ok expected := by
  unfold check
  rw [bind_eq_ok]
  simp only [Fault.lift_eq_ok]
  constructor
  · rintro ⟨payload, hp, h⟩
    by_cases he : payload = expected
    · rw [← he]
      exact hp
    · rw [if_neg he] at h
      exact nomatch h
  · intro hp
    exact ⟨expected, hp, if_pos rfl⟩

namespace Rule

def Refuses (rule : Rule) (value : Json) : Prop :=
  ∃ e, rule.check value = .error (.refused e)

theorem required_refuses {s : String} : Rule.required.Refuses (.text s) ↔ s = "" := by
  unfold Refuses
  simp only [check]
  split <;> simp_all [refuse]

theorem required_check_eq_ok {s : String} :
    Rule.required.check (.text s) = .ok () ↔ s ≠ "" := by
  simp only [check]
  split <;> simp_all [refuse]

theorem oneOf_refuses {accepted : List Json} {s : String} :
    (Rule.oneOf accepted).Refuses (.text s) ↔ .text s ∉ accepted := by
  have hany : accepted.any (Json.text s).same = true ↔ .text s ∈ accepted := by
    simp only [List.any_eq_true, Json.text_same, exists_eq_right']
  unfold Refuses
  simp only [check, ← hany]
  split <;> simp_all [refuse]

theorem date_refuses {mode : DateMode} {point : Moment} {s : String} :
    (Rule.date mode point).Refuses (.text s) ↔ PackedDate.Fails (mode.Refuses point) s := by
  unfold Refuses PackedDate.Fails
  simp only [check, bind_eq_error, exists_or, ← DateMode.check_eq_refused]
  constructor
  · rintro (h | ⟨e, date, hd, he⟩)
    · exact .inl h
    · exact .inr ⟨date, hd, e, he⟩
  · rintro (h | ⟨date, hd, e, he⟩)
    · exact .inl h
    · exact .inr ⟨e, date, hd, he⟩

theorem eventData_refuses {rule : EventData} {s : String} :
    (Rule.eventData rule).Refuses (.text s) ↔ ∃ e, rule.check s = .error (.refused e) := Iff.rfl

end Rule

namespace Outcome

variable {ε : Type}

theorem ofCheck_eq_pass {check : Except (Raised ε) Unit} :
    ofCheck check = .ok .pass ↔ check = .ok () := by
  unfold ofCheck
  split <;> simp

theorem ofCheck_eq_failed {check : Except (Raised ε) Unit} {e : ε} :
    ofCheck check = .ok (.failed e) ↔ check = .error (.refused e) := by
  unfold ofCheck
  split <;> simp

theorem ofCheck_ne_skipped {check : Except (Raised ε) Unit} : ofCheck check ≠ .ok .skipped := by
  unfold ofCheck
  split <;> simp

theorem ne_pass_iff {outcome : Outcome ε} :
    outcome ≠ .pass ↔ outcome = .skipped ∨ ∃ e, outcome = .failed e := by
  cases outcome <;> simp

end Outcome

namespace Rule

variable {rules : List Rule} {value : Json} {outcome : Outcome RuleError}

theorem forM_eq_ok {rules : List Rule} :
    (rules.forM fun rule => rule.check value) = .ok () ↔
      ∀ rule ∈ rules, rule.check value = .ok () := by
  induction rules with
  | nil => simp [List.forM, pure, Except.pure]
  | cons rule rest ih =>
    change (rule.check value >>= fun _ => rest.forM fun r => r.check value) = .ok () ↔ _
    rw [bind_eq_ok, List.forall_mem_cons, ← ih]
    exact ⟨fun ⟨_, h, hr⟩ => ⟨h, hr⟩, fun ⟨h, hr⟩ => ⟨(), h, hr⟩⟩

theorem exists_refuses_of_forM {e : RuleError}
    (h : (rules.forM fun rule => rule.check value) = .error (.refused e)) :
    ∃ rule ∈ rules, rule.Refuses value := by
  induction rules with
  | nil => exact nomatch h
  | cons rule rest ih =>
    change (rule.check value >>= fun _ => rest.forM fun r => r.check value) = _ at h
    rcases bind_eq_error.mp h with h | ⟨_, -, h⟩
    · exact ⟨rule, List.mem_cons_self, e, h⟩
    · obtain ⟨r, hr, hrefuses⟩ := ih h
      exact ⟨r, List.mem_cons_of_mem _ hr, hrefuses⟩

theorem checkAll_eq_pass_iff :
    checkAll rules value = .ok .pass ↔ ∀ rule ∈ rules, rule.check value = .ok () :=
  Outcome.ofCheck_eq_pass.trans forM_eq_ok

theorem checkAll_pass (h : checkAll rules value = .ok .pass) :
    ∀ rule ∈ rules, rule.check value = .ok () := checkAll_eq_pass_iff.mp h

theorem checkAll_failed (h : checkAll rules value = .ok outcome) :
    (∃ e, outcome = .failed e) ↔ ∃ rule ∈ rules, rule.Refuses value := by
  unfold checkAll at h
  constructor
  · rintro ⟨e, rfl⟩
    exact exists_refuses_of_forM (Outcome.ofCheck_eq_failed.mp h)
  · rintro ⟨rule, hr, e, he⟩
    cases outcome with
    | failed e => exact ⟨e, rfl⟩
    | skipped => exact absurd h Outcome.ofCheck_ne_skipped
    | pass =>
      have hok := checkAll_pass h rule hr
      rw [hok] at he
      exact nomatch he

theorem checkAll_ne_skipped : checkAll rules value ≠ .ok .skipped := Outcome.ofCheck_ne_skipped

theorem pass_of_not_failed (h : checkAll rules value = .ok outcome)
    (hf : ∀ e, outcome ≠ .failed e) : outcome = .pass := by
  cases outcome with
  | pass => rfl
  | skipped => exact absurd h checkAll_ne_skipped
  | failed e => exact absurd rfl (hf e)

theorem date_check_eq_ok {mode : DateMode} {point : Moment} {s : String} :
    (Rule.date mode point).check (.text s) = .ok () ↔
      ∃ date, PackedDate.unpack s = .ok date ∧ ¬ mode.Refuses point date := by
  refine bind_eq_ok.trans (exists_congr fun date => and_congr_right fun _ => ?_)
  exact DateMode.check_eq_ok

theorem checkIfSet_failed {isUnset : Bool} (h : checkIfSet isUnset rules value = .ok outcome) :
    (∃ e, outcome = .failed e) ↔
      isUnset = false ∧ ∃ rule ∈ .required :: rules, rule.Refuses value := by
  unfold checkIfSet at h
  cases isUnset with
  | true =>
    obtain rfl : .skipped = outcome := by simpa using h
    simp
  | false => simpa using checkAll_failed h

end Rule
end IdentityProof
