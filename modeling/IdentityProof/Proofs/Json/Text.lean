import Mathlib.Data.List.Basic
import IdentityProof.Proofs.Json.Integer

/-! The texts of values. A value has a text unless an integer that is too long stands in it, and
the text of a value that counts as given is not empty. -/

namespace IdentityProof

theorem Binary64.layOut_ne_nil (digits : List Char) (point : Int) : layOut digits point ≠ [] := by
  unfold layOut
  dsimp only
  split
  · split
    · exact List.cons_ne_nil _ _
    · split
      · exact List.append_ne_nil_of_right_ne_nil _ (List.cons_ne_nil _ _)
      · exact List.append_ne_nil_of_right_ne_nil _ (List.cons_ne_nil _ _)
  · exact List.append_ne_nil_of_right_ne_nil _ (List.cons_ne_nil _ _)

theorem ofList_ne_empty {cs : List Char} (h : cs ≠ []) : String.ofList cs ≠ "" := by
  intro hempty
  rw [← String.toList_inj, String.toList_ofList] at hempty
  exact h hempty

theorem Binary64.text_ne_empty (x : Binary64) : x.text ≠ "" := by
  unfold text
  split
  · decide
  · split <;> decide
  · rename_i negative m s
    refine ofList_ne_empty ?_
    split
    · exact List.cons_ne_nil _ _
    · split
      · exact List.cons_ne_nil _ _
      · cases shortestDigits m s with
        | mk digits point => exact layOut_ne_nil digits point

namespace Json

/-- Somewhere in the value stands an integer that has more digits than are written. -/
inductive HoldsUnwritable : Json → Prop
  | integer {n : Int} (h : Integer.IsUnwritable n) : HoldsUnwritable (.number (.int n))
  | item {items : List Json} {item : Json} (hmem : item ∈ items) (h : HoldsUnwritable item) :
      HoldsUnwritable (.array items)
  | member {members : List (String × Json)} {m : String × Json} (hmem : m ∈ members)
      (h : HoldsUnwritable m.2) : HoldsUnwritable (.object members)

theorem not_holdsUnwritable_null : ¬ HoldsUnwritable .null := nofun

theorem not_holdsUnwritable_bool {b : Bool} : ¬ HoldsUnwritable (.bool b) := nofun

theorem not_holdsUnwritable_float {x : Binary64} : ¬ HoldsUnwritable (.number (.float x)) := nofun

theorem not_holdsUnwritable_text {s : String} : ¬ HoldsUnwritable (.text s) := nofun

theorem holdsUnwritable_array {items : List Json} :
    (array items).HoldsUnwritable ↔ ∃ item ∈ items, item.HoldsUnwritable := by
  constructor
  · rintro (_ | ⟨hmem, h⟩)
    exact ⟨_, hmem, h⟩
  · rintro ⟨item, hmem, h⟩
    exact .item hmem h

theorem holdsUnwritable_object {members : List (String × Json)} :
    (object members).HoldsUnwritable ↔ ∃ m ∈ members, m.2.HoldsUnwritable := by
  constructor
  · rintro (_ | _ | ⟨hmem, h⟩)
    exact ⟨_, hmem, h⟩
  · rintro ⟨m, hmem, h⟩
    exact .member hmem h

mutual

theorem isError_quoted : ∀ value : Json, IsError value.quoted ↔ value.HoldsUnwritable
  | .null => iff_of_false not_isError_ok not_holdsUnwritable_null
  | .bool _ => iff_of_false not_isError_ok not_holdsUnwritable_bool
  | .number (.int n) => by
    unfold quoted
    rw [isError_integerText]
    exact ⟨.integer, fun | .integer h => h⟩
  | .number (.float _) => iff_of_false not_isError_ok not_holdsUnwritable_float
  | .text _ => iff_of_false not_isError_ok not_holdsUnwritable_text
  | .array items => by
    unfold quoted
    rw [isError_bind_of_forall_not fun _ => not_isError_pure, isError_quotedItems items,
      holdsUnwritable_array]
  | .object members => by
    unfold quoted
    rw [isError_bind_of_forall_not fun _ => not_isError_pure, isError_quotedMembers members,
      holdsUnwritable_object]

theorem isError_quotedItems :
    ∀ items : List Json, IsError (quotedItems items) ↔ ∃ item ∈ items, item.HoldsUnwritable
  | [] => iff_of_false not_isError_ok nofun
  | item :: items => by
    unfold quotedItems
    rw [List.exists_mem_cons_iff, ← isError_quoted item, ← isError_quotedItems items]
    exact isError_bind fun _ _ => isError_bind_of_forall_not fun _ => not_isError_pure

theorem isError_quotedMembers : ∀ members : List (String × Json),
    IsError (quotedMembers members) ↔ ∃ m ∈ members, m.2.HoldsUnwritable
  | [] => iff_of_false not_isError_ok nofun
  | (key, value) :: members => by
    unfold quotedMembers
    rw [List.exists_mem_cons_iff, ← isError_quoted value, ← isError_quotedMembers members]
    exact isError_bind fun _ _ => isError_bind_of_forall_not fun _ => not_isError_pure

end

theorem isError_shown_iff (value : Json) : IsError value.shown ↔ value.HoldsUnwritable := by
  unfold shown
  split
  · exact iff_of_false not_isError_ok not_holdsUnwritable_text
  · exact isError_quoted value

theorem integerText_ne_empty {n : Int} {s : String} (h : integerText n = .ok s) : s ≠ "" := by
  unfold integerText Integer.text? at h
  split at h
  · rename_i hsome
    split at hsome
    · exact nomatch hsome
    · obtain rfl := Option.some.inj hsome
      obtain rfl := Except.ok.inj h
      cases n with
      | ofNat n => exact Nat.repr_ne_empty
      | negSucc n => exact fun hempty => absurd (String.append_eq_empty_iff.mp hempty).1 (by decide)
  · exact nomatch h

theorem enclosed_ne_empty {opening closing s : String} (h : opening ≠ "") :
    opening ++ s ++ closing ≠ "" :=
  fun hempty => h (String.append_eq_empty_iff.mp (String.append_eq_empty_iff.mp hempty).1).1

theorem quoted_ne_empty {value : Json} {s : String} (h : value.quoted = .ok s)
    (hkind : value.kind ≠ .text) : s ≠ "" := by
  cases value with
  | null =>
    obtain rfl := Except.ok.inj h
    decide
  | bool b =>
    obtain rfl := Except.ok.inj h
    cases b <;> decide
  | number n =>
    cases n with
    | int n =>
      unfold quoted at h
      exact integerText_ne_empty h
    | float x =>
      obtain rfl := Except.ok.inj h
      exact x.text_ne_empty
  | text s => exact absurd rfl hkind
  | array items =>
    unfold quoted at h
    obtain ⟨shown, -, h⟩ := bind_eq_ok.mp h
    obtain rfl := pure_eq_ok.mp h
    exact enclosed_ne_empty (by decide)
  | object members =>
    unfold quoted at h
    obtain ⟨shown, -, h⟩ := bind_eq_ok.mp h
    obtain rfl := pure_eq_ok.mp h
    exact enclosed_ne_empty (by decide)

theorem shown_ne_empty {value : Json} {s : String} (hgiven : value.isGiven = true)
    (h : value.shown = .ok s) : s ≠ "" := by
  cases value with
  | text t =>
    obtain rfl := Except.ok.inj h
    simpa [isGiven] using hgiven
  | number n => exact quoted_ne_empty h (by cases n <;> nofun)
  | null | bool | array | object => exact quoted_ne_empty h nofun

end Json
end IdentityProof
