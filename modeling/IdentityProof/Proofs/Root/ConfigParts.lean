import IdentityProof.Proofs.Json.Text
import IdentityProof.Root.Config

/-! The parts of a configuration, each of which may be a value of any kind. A part is read, or it is
refused with its own text, or it has no text since an integer in it is too long; and a block may be
infinite. -/

namespace IdentityProof

theorem Binary64.isFinite_iff_of_positive {x : Binary64} (h : x.compare? .zero = some .gt) :
    x.isFinite = true ↔ x ≠ .infinity false := by
  cases x with
  | nan => exact nomatch h
  | infinity negative =>
    cases negative with
    | false => exact iff_of_false nofun (not_not_intro rfl)
    | true => exact nomatch h
  | finite => exact iff_of_true rfl nofun

theorem Number.zero_lt_float {x : Binary64} :
    0 < Number.float x ↔ x.compare? .zero = some .gt := by
  cases x with
  | nan => exact iff_of_false nofun nofun
  | infinity negative => cases negative <;> decide
  | finite negative m s =>
    have hcompare : ∀ u : Int, compare (0 * (Binary64.unitsPerOne : Int)) u = .lt ↔
        compare u 0 = .gt := by
      intro u
      rw [Int.zero_mul, Int.compare_eq_lt, Int.compare_eq_gt]
    exact (Option.some_inj.trans (hcompare _)).trans Option.some_inj.symm

theorem RemoteKind.ofName?_eq_some {name : String} {kind : RemoteKind} :
    ofName? name = some kind ↔ name = kind.name := by
  constructor
  · intro h
    have hname := List.find?_some (p := fun other : RemoteKind => other.name == name) h
    exact (beq_iff_eq.mp hname).symm
  · rintro rfl
    cases kind <;> rfl

theorem RemoteKind.name_ne_disabled (kind : RemoteKind) : kind.name ≠ "disabled" := by
  cases kind <;> decide

def refuseShowing (value : Json) (wording : String → ε) : Except (Raised ε) α :=
  Fault.lift value.quoted >>= fun shown => .error (.refused (wording shown))

section Showing

variable {value : Json} {wording : String → ε}

theorem refuseShowing_ne_ok {a : α} : refuseShowing value wording ≠ .ok a := by
  intro h
  obtain ⟨shown, -, h⟩ := bind_eq_ok.mp h
  exact nomatch h

theorem refuseShowing_bind {f : α → Except (Raised ε) β} :
    (refuseShowing value wording >>= f) = refuseShowing value wording := by
  unfold refuseShowing
  cases value.quoted <;> rfl

theorem meetsFault_refuseShowing :
    MeetsFault (refuseShowing value wording : Except (Raised ε) α) ↔ value.HoldsUnwritable := by
  unfold refuseShowing
  rw [meetsFault_bind_iff (P := False) fun _ => iff_of_false not_meetsFault_refused id,
    Fault.meetsFault_lift, Json.isError_quoted, and_false, or_false]

theorem refusesIn_refuseShowing :
    RefusesIn (fun e => ∃ shown, value.quoted = .ok shown ∧ e = wording shown)
      (refuseShowing value wording : Except (Raised ε) α) := by
  refine RefusesIn.lift.bind fun shown hshown => .refused ⟨shown, ?_, rfl⟩
  exact Fault.lift_eq_ok.mp hshown

end Showing

theorem meetsFault_shown_bind {value : Json} {f : String → Except (Raised ε) β} {P : Prop}
    (h : ∀ text, MeetsFault (f text) ↔ P) :
    MeetsFault (Fault.lift value.shown >>= f) ↔ value.HoldsUnwritable ∨ P := by
  rw [meetsFault_bind_iff h, Fault.meetsFault_lift, ← Json.isError_shown_iff]
  by_cases hshown : IsError value.shown
  · exact iff_of_true (.inl hshown) (.inl hshown)
  · obtain ⟨text, htext⟩ := not_isError_iff.mp hshown
    rw [or_iff_right hshown, or_iff_right hshown]
    exact and_iff_right ⟨text, Fault.lift_eq_ok.mpr htext⟩

namespace RootConfig

open Json (lookup)

/-! ## The kind -/

def NamesNoKind (value : Json) : Prop :=
  value ≠ .text "disabled" ∧ ∀ kind : RemoteKind, value ≠ .text kind.name

section Kind

variable {value : Json}

theorem kind_cases (value : Json) :
    value = .text "disabled" ∨ (∃ kind : RemoteKind, value = .text kind.name) ∨
      NamesNoKind value := by
  by_cases hdisabled : value = .text "disabled"
  · exact .inl hdisabled
  · by_cases hremote : ∃ kind : RemoteKind, value = .text kind.name
    · exact .inr (.inl hremote)
    · exact .inr (.inr ⟨hdisabled, not_exists.mp hremote⟩)

theorem readKind_name (kind : RemoteKind) : readKind (.text kind.name) = .ok (some kind) := by
  cases kind <;> rfl

theorem readKind_of_no_kind (h : NamesNoKind value) :
    readKind value = refuseShowing value .unknownKind := by
  cases value with
  | text s =>
    have hnone : RemoteKind.ofName? s = none := by
      refine Option.eq_none_iff_forall_ne_some.mpr fun kind hkind => ?_
      exact h.2 kind (congrArg Json.text (RemoteKind.ofName?_eq_some.mp hkind))
    unfold readKind
    split
    · rename_i hdisabled
      exact absurd hdisabled h.1
    · dsimp only
      rw [hnone]
      rfl
  | null | bool | number | array | object => rfl

theorem meetsFault_readKind : MeetsFault (readKind value) ↔ value.HoldsUnwritable := by
  rcases kind_cases value with rfl | ⟨kind, rfl⟩ | h
  · exact iff_of_false not_meetsFault_ok Json.not_holdsUnwritable_text
  · rw [readKind_name]
    exact iff_of_false not_meetsFault_ok Json.not_holdsUnwritable_text
  · rw [readKind_of_no_kind h]
    exact meetsFault_refuseShowing

end Kind

theorem isError_readFlag (value : Json) : IsError (readFlag value) ↔ value.HoldsUnwritable := by
  unfold readFlag
  split
  · exact iff_of_false not_isError_pure Json.not_holdsUnwritable_bool
  · rw [isError_bind_of_forall_not fun _ => not_isError_pure]
    exact Json.isError_shown_iff value

/-! ## The block -/

def IsEndlessBlock (value : Json) : Prop :=
  ∃ negative, value = .number (.float (.infinity negative))

def IsNoBlock (value : Json) : Prop := value.isGiven = true ∧ blockOf? value = .ok none

section Block

variable {value : Json}

theorem blockOf?_eq_error {f : Fault} (h : blockOf? value = .error f) :
    IsEndlessBlock value ∧ f = .integerFromInfinity := by
  unfold blockOf? at h
  split at h
  · exact nomatch h
  · exact ⟨⟨_, rfl⟩, (Except.error.inj h).symm⟩
  · exact nomatch h
  · exact nomatch h
  · exact nomatch h
  · exact nomatch h

theorem readBlock_of_endless (h : IsEndlessBlock value) :
    readBlock value = .error (.fault .integerFromInfinity) := by
  obtain ⟨negative, rfl⟩ := h
  cases negative <;> rfl

theorem readBlock_of_no_block (h : IsNoBlock value) :
    readBlock value = refuseShowing value .badBlock := by
  obtain ⟨hgiven, hnone⟩ := h
  unfold readBlock
  rw [hgiven, hnone]
  rfl

theorem block_cases (value : Json) :
    (∃ n, readBlock value = .ok n) ∨ IsEndlessBlock value ∨ IsNoBlock value := by
  by_cases hgiven : value.isGiven = true
  · cases hblock : blockOf? value with
    | error f => exact .inr (.inl (blockOf?_eq_error hblock).1)
    | ok n? =>
      cases n? with
      | none => exact .inr (.inr ⟨hgiven, hblock⟩)
      | some n =>
        refine .inl ⟨n, ?_⟩
        unfold readBlock
        rw [hgiven, hblock]
        rfl
  · refine .inl ⟨0, ?_⟩
    unfold readBlock
    rw [Bool.eq_false_iff.mpr hgiven]
    rfl

theorem meetsFault_block_bind {f : Int → Except (Raised ConfigError) β} {P : Prop}
    (h : ∀ n, MeetsFault (f n) ↔ P) :
    MeetsFault (readBlock value >>= f) ↔
      IsEndlessBlock value ∨ IsNoBlock value ∧ value.HoldsUnwritable ∨ ¬ IsNoBlock value ∧ P := by
  rw [meetsFault_bind_iff h]
  rcases block_cases value with ⟨n, hn⟩ | hendless | hno
  · have hendless : ¬ IsEndlessBlock value :=
      fun h => nomatch hn.symm.trans (readBlock_of_endless h)
    have hno : ¬ IsNoBlock value :=
      fun h => refuseShowing_ne_ok ((readBlock_of_no_block h).symm.trans hn)
    rw [hn, or_iff_right not_meetsFault_ok, and_iff_right ⟨n, rfl⟩, or_iff_right hendless,
      or_iff_right fun h => hno h.1, and_iff_right hno]
  · exact iff_of_true (.inl ⟨_, readBlock_of_endless hendless⟩) (.inl hendless)
  · have hendless : ¬ IsEndlessBlock value := by
      rintro ⟨negative, rfl⟩
      exact nomatch hno.2
    have hok : ¬ ∃ n, readBlock value = .ok n := by
      rw [readBlock_of_no_block hno]
      exact fun ⟨_, h⟩ => refuseShowing_ne_ok h
    rw [or_iff_left fun h => hok h.1, readBlock_of_no_block hno, meetsFault_refuseShowing,
      or_iff_right hendless, and_iff_right hno, or_iff_left fun h => h.1 hno]

theorem refusesIn_readBlock :
    RefusesIn (fun e => IsNoBlock value ∧ ∃ shown, value.quoted = .ok shown ∧ e = .badBlock shown)
      (readBlock value) := by
  rcases block_cases value with ⟨n, hn⟩ | hendless | hno
  · rw [hn]
    exact .ok
  · rw [readBlock_of_endless hendless]
    exact nofun
  · rw [readBlock_of_no_block hno]
    intro e he
    exact ⟨hno, refusesIn_refuseShowing e he⟩

end Block

/-! ## Seconds -/

def IsUnset (given : Option Json) : Prop :=
  given = none ∨ given = some .null ∨ given = some (.text "")

def SpellsSeconds (value : Json) (x : Binary64) : Prop :=
  ∃ text, value.shown = .ok text ∧ secondsOf? text = some x

def IsNoSeconds (given : Option Json) : Prop :=
  ¬ IsUnset given ∧
    ∃ value text, given = some value ∧ value.shown = .ok text ∧ secondsOf? text = none

section Seconds

variable {field : String} {standard : Binary64} {given : Option Json} {value : Json}

theorem readSeconds_of_unset (h : IsUnset given) :
    readSeconds field standard given = .ok standard := by
  rcases h with rfl | rfl | rfl <;> rfl

def secondsFrom (field : String) (standard : Binary64) (value : Json) (text : String) :
    Except (Raised ConfigError) Binary64 :=
  match secondsOf? text with
  | some seconds => .ok (if seconds.compare? .zero == some .gt then seconds else standard)
  | none => refuseShowing value (.badDuration field)

theorem readSeconds_of_set (h : ¬ IsUnset (some value)) :
    readSeconds field standard (some value) =
      Fault.lift value.shown >>= secondsFrom field standard value := by
  unfold readSeconds
  split
  · rename_i hnone
    exact nomatch hnone
  · rename_i hnull
    exact absurd (.inr (.inl hnull)) h
  · rename_i hempty
    exact absurd (.inr (.inr hempty)) h
  · rename_i other hother
    obtain rfl := Option.some.inj hother
    refine bind_congr fun text => ?_
    unfold secondsFrom
    cases secondsOf? text with
    | some x => rfl
    | none => rfl

theorem not_holdsUnwritable_of_unset (h : IsUnset (some value)) : ¬ value.HoldsUnwritable := by
  rcases h with h | h | h
  · exact nomatch h
  · rw [Option.some.inj h]
    exact Json.not_holdsUnwritable_null
  · rw [Option.some.inj h]
    exact Json.not_holdsUnwritable_text

theorem readSeconds_of_unwritable (field : String) (standard : Binary64)
    (h : value.HoldsUnwritable) : MeetsFault (readSeconds field standard (some value)) := by
  rw [readSeconds_of_set fun hunset => not_holdsUnwritable_of_unset hunset h]
  have hshown := (Json.isError_shown_iff value).mpr h
  exact meetsFault_bind.mpr (.inl (Fault.meetsFault_lift.mpr hshown))

theorem readSeconds_of_shown (hset : ¬ IsUnset (some value)) {text : String}
    (h : value.shown = .ok text) :
    readSeconds field standard (some value) = secondsFrom field standard value text := by
  rw [readSeconds_of_set hset, Fault.lift_eq_ok.mpr h, ok_bind]

theorem readSeconds_of_no_seconds (field : String) (standard : Binary64) (h : IsNoSeconds given) :
    ∃ value, given = some value ∧ ¬ value.HoldsUnwritable ∧
      readSeconds field standard given = refuseShowing value (.badDuration field) := by
  obtain ⟨hset, value, text, rfl, htext, hnone⟩ := h
  refine ⟨value, rfl, ?_, ?_⟩
  · rw [← Json.isError_shown_iff, htext]
    exact not_isError_ok
  · rw [readSeconds_of_shown hset htext, secondsFrom, hnone]

theorem seconds_cases (field : String) (standard : Binary64) (given : Option Json) :
    (∃ x, readSeconds field standard given = .ok x) ∨
      (∃ value, given = some value ∧ value.HoldsUnwritable) ∨ IsNoSeconds given := by
  by_cases hunset : IsUnset given
  · exact .inl ⟨_, readSeconds_of_unset hunset⟩
  · cases given with
    | none => exact absurd (.inl rfl) hunset
    | some value =>
      by_cases hshown : IsError value.shown
      · exact .inr (.inl ⟨value, rfl, (Json.isError_shown_iff value).mp hshown⟩)
      · obtain ⟨text, htext⟩ := not_isError_iff.mp hshown
        cases hseconds : secondsOf? text with
        | none => exact .inr (.inr ⟨hunset, value, text, rfl, htext, hseconds⟩)
        | some x =>
          rw [readSeconds_of_shown hunset htext, secondsFrom, hseconds]
          exact .inl ⟨_, rfl⟩

theorem meetsFault_seconds_bind {f : Binary64 → Except (Raised ConfigError) β} {P : Prop}
    (h : ∀ x, MeetsFault (f x) ↔ P) :
    MeetsFault (readSeconds field standard given >>= f) ↔
      (∃ value, given = some value ∧ value.HoldsUnwritable) ∨ ¬ IsNoSeconds given ∧ P := by
  rw [meetsFault_bind_iff h]
  rcases seconds_cases field standard given with ⟨x, hx⟩ | hheld | hno
  · have hwritable : ¬ ∃ value, given = some value ∧ value.HoldsUnwritable := by
      rintro ⟨value, rfl, hheld⟩
      exact not_meetsFault_ok (hx ▸ readSeconds_of_unwritable field standard hheld)
    have hseconds : ¬ IsNoSeconds given := by
      intro hno
      obtain ⟨value, -, -, hrefused⟩ := readSeconds_of_no_seconds field standard hno
      exact refuseShowing_ne_ok (hrefused.symm.trans hx)
    rw [hx, or_iff_right not_meetsFault_ok, and_iff_right ⟨x, rfl⟩, or_iff_right hwritable,
      and_iff_right hseconds]
  · refine iff_of_true (.inl ?_) (.inl hheld)
    obtain ⟨value, rfl, hheld⟩ := hheld
    exact readSeconds_of_unwritable field standard hheld
  · obtain ⟨value, rfl, hwritable, hrefused⟩ := readSeconds_of_no_seconds field standard hno
    rw [hrefused, meetsFault_refuseShowing]
    refine iff_of_false ?_ ?_
    · rintro (hheld | ⟨⟨x, hx⟩, -⟩)
      · exact hwritable hheld
      · exact refuseShowing_ne_ok hx
    · rintro (⟨other, hother, hheld⟩ | ⟨hseconds, -⟩)
      · obtain rfl := Option.some.inj hother
        exact hwritable hheld
      · exact hseconds hno

theorem refusesIn_readSeconds :
    RefusesIn (fun e => ∃ value, given = some value ∧ IsNoSeconds given ∧
      ∃ shown, value.quoted = .ok shown ∧ e = .badDuration field shown)
        (readSeconds field standard given) := by
  rcases seconds_cases field standard given with ⟨x, hx⟩ | ⟨value, rfl, hheld⟩ | hno
  · rw [hx]
    exact .ok
  · obtain ⟨f, hf⟩ := readSeconds_of_unwritable field standard hheld
    rw [hf]
    exact nofun
  · obtain ⟨value, hvalue, -, hrefused⟩ := readSeconds_of_no_seconds field standard hno
    rw [hrefused]
    intro e he
    exact ⟨value, hvalue, hno, refusesIn_refuseShowing e he⟩

def IsEndless (given : Option Json) : Prop :=
  ∃ value, given = some value ∧ SpellsSeconds value (.infinity false)

theorem not_isEndless_of_unset (h : IsUnset given) : ¬ IsEndless given := by
  rintro ⟨value, hvalue, text, htext, hseconds⟩
  rcases h with rfl | rfl | rfl
  · exact nomatch hvalue
  · obtain rfl := Option.some.inj hvalue
    obtain rfl := Except.ok.inj htext
    exact absurd hseconds (by decide)
  · obtain rfl := Option.some.inj hvalue
    obtain rfl := Except.ok.inj htext
    exact absurd hseconds (by decide)

theorem readSeconds_checked {x : Binary64} (hpositive : standard.compare? .zero = some .gt)
    (hfinite : standard.isFinite = true) (h : readSeconds field standard given = .ok x) :
    x.compare? .zero = some .gt ∧ (x.isFinite = true ↔ ¬ IsEndless given) := by
  by_cases hunset : IsUnset given
  · rw [readSeconds_of_unset hunset] at h
    obtain rfl := Except.ok.inj h
    exact ⟨hpositive, iff_of_true hfinite (not_isEndless_of_unset hunset)⟩
  · cases given with
    | none => exact absurd (.inl rfl) hunset
    | some value =>
      rw [readSeconds_of_set hunset] at h
      obtain ⟨text, htext, h⟩ := bind_eq_ok.mp h
      rw [Fault.lift_eq_ok] at htext
      unfold secondsFrom at h
      split at h
      · rename_i seconds hseconds
        have hendless : IsEndless (some value) ↔ seconds = .infinity false := by
          constructor
          · rintro ⟨other, hother, otherText, hshown, hspelled⟩
            obtain rfl := Option.some.inj hother
            obtain rfl := Except.ok.inj (htext.symm.trans hshown)
            exact Option.some.inj (hseconds.symm.trans hspelled)
          · rintro rfl
            exact ⟨value, rfl, text, htext, hseconds⟩
        obtain rfl := Except.ok.inj h
        by_cases hsome : seconds.compare? .zero = some .gt
        · rw [if_pos (beq_iff_eq.mpr hsome), hendless]
          exact ⟨hsome, Binary64.isFinite_iff_of_positive hsome⟩
        · rw [if_neg fun h => hsome (beq_iff_eq.mp h), hendless]
          refine ⟨hpositive, iff_of_true hfinite ?_⟩
          rintro rfl
          exact hsome rfl
      · exact absurd h refuseShowing_ne_ok

end Seconds

end RootConfig
end IdentityProof
