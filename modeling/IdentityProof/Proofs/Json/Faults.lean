import IdentityProof.Json.Text
import IdentityProof.Proofs.Json.Nesting

/-! The kinds of faults that values meet. Parts that are missing or cannot be had, integers that
have no text, and text that is no value are all there is. -/

namespace IdentityProof

def FaultsIn (kinds : FaultKind → Prop) (x : Except Fault α) : Prop :=
  ∀ f, x = .error f → kinds f.kind

/-- The operation refuses as it likes, but every fault that it meets is of one of some kinds. -/
def RaisesIn (kinds : FaultKind → Prop) (x : Except (Raised ε) α) : Prop :=
  ∀ f, x = .error (.fault f) → kinds f.kind

variable {kinds : FaultKind → Prop}

namespace FaultsIn

theorem ok {a : α} : FaultsIn kinds (.ok a) := fun _ => nofun

theorem error {f : Fault} (h : kinds f.kind) : FaultsIn kinds (.error f : Except Fault α) := by
  intro g hg
  obtain rfl := Except.error.inj hg
  exact h

theorem mono {more : FaultKind → Prop} {x : Except Fault α} (h : FaultsIn kinds x)
    (hmore : ∀ kind, kinds kind → more kind) : FaultsIn more x := fun f hf => hmore _ (h f hf)

theorem bind {x : Except Fault α} {f : α → Except Fault β} (hx : FaultsIn kinds x)
    (hf : ∀ a, x = .ok a → FaultsIn kinds (f a)) : FaultsIn kinds (x >>= f) := by
  intro fault h
  rcases bind_eq_error.mp h with h | ⟨a, ha, h⟩
  · exact hx fault h
  · exact hf a ha fault h

theorem mapError {x : Except ε α} {f : ε → Fault} (h : ∀ e, x = .error e → kinds (f e).kind) :
    FaultsIn kinds (x.mapError f) := by
  intro fault hfault
  obtain ⟨e, he, rfl⟩ := mapError_eq_error.mp hfault
  exact h e he

theorem mapM {f : α → Except Fault β} {as : List α} (h : ∀ a ∈ as, FaultsIn kinds (f a)) :
    FaultsIn kinds (as.mapM f) := by
  induction as with
  | nil => exact ok
  | cons a as ih =>
    obtain ⟨ha, has⟩ := List.forall_mem_cons.mp h
    rw [List.mapM_cons]
    exact ha.bind fun _ _ => (ih has).bind fun _ _ => ok

end FaultsIn

namespace RaisesIn

theorem ok {a : α} : RaisesIn kinds (.ok a : Except (Raised ε) α) := fun _ => nofun

theorem refused {e : ε} : RaisesIn kinds (.error (.refused e) : Except (Raised ε) α) := fun _ => nofun

theorem lift {x : Except Fault α} (h : FaultsIn kinds x) :
    RaisesIn kinds (Fault.lift x : Except (Raised ε) α) := by
  intro f hf
  obtain ⟨g, hg, hsame⟩ := Fault.lift_eq_error.mp hf
  obtain rfl := Raised.fault.inj hsame
  exact h _ hg

theorem bind {x : Except (Raised ε) α} {f : α → Except (Raised ε) β} (hx : RaisesIn kinds x)
    (hf : ∀ a, x = .ok a → RaisesIn kinds (f a)) : RaisesIn kinds (x >>= f) := by
  intro fault h
  rcases bind_eq_error.mp h with h | ⟨a, ha, h⟩
  · exact hx fault h
  · exact hf a ha fault h

theorem mapM {f : α → Except (Raised ε) β} {as : List α} (h : ∀ a ∈ as, RaisesIn kinds (f a)) :
    RaisesIn kinds (as.mapM f) := by
  induction as with
  | nil => exact ok
  | cons a as ih =>
    obtain ⟨ha, has⟩ := List.forall_mem_cons.mp h
    rw [List.mapM_cons]
    exact ha.bind fun _ _ => (ih has).bind fun _ _ => ok

end RaisesIn

namespace FaultKind

def SpoilsProof (kind : FaultKind) : Prop := kind.isValue = true ∨ kind = .noIndex ∨ kind = .wrongType

def SpoilsKey (kind : FaultKind) : Prop := kind.SpoilsProof ∨ kind = .noKey

theorem spoilsProof_badValue : badValue.SpoilsProof := .inl rfl

theorem spoilsProof_noIndex : noIndex.SpoilsProof := .inr (.inl rfl)

theorem spoilsProof_wrongType : wrongType.SpoilsProof := .inr (.inr rfl)

end FaultKind

namespace Json

open FaultKind

theorem faultsIn_key (value : Json) (name : String) : FaultsIn SpoilsKey (value.key name) := by
  unfold key
  split
  · split
    · exact .ok
    · exact .error (.inr rfl)
  · exact .error (.inl spoilsProof_wrongType)
  · exact .error (.inl spoilsProof_wrongType)
  · exact .error (.inl spoilsProof_wrongType)

theorem faultsIn_entry {value : Json} (hindex : kinds .noIndex) (htype : kinds .wrongType)
    (hkey : value.kind = .object → kinds .noKey) (index : Nat) :
    FaultsIn kinds (value.entry index) := by
  unfold entry
  split
  · split
    · exact .ok
    · exact .error hindex
  · split
    · exact .ok
    · exact .error hindex
  · exact .error (hkey rfl)
  · exact .error htype

theorem faultsIn_entries (value : Json) : FaultsIn SpoilsKey value.entries := by
  unfold entries
  split
  · exact .ok
  · exact .ok
  · exact .ok
  · exact .error (.inl spoilsProof_wrongType)

theorem faultsIn_integerText (n : Int) : FaultsIn SpoilsProof (integerText n) := by
  unfold integerText
  split
  · exact .ok
  · exact .error spoilsProof_badValue

mutual

theorem faultsIn_quoted : ∀ value : Json, FaultsIn SpoilsProof value.quoted
  | .null => .ok
  | .bool _ => .ok
  | .number (.int n) => by
    unfold quoted
    exact faultsIn_integerText n
  | .number (.float _) => .ok
  | .text _ => .ok
  | .array items => by
    unfold quoted
    exact (faultsIn_quotedItems items).bind fun _ _ => .ok
  | .object members => by
    unfold quoted
    exact (faultsIn_quotedMembers members).bind fun _ _ => .ok

theorem faultsIn_quotedItems : ∀ items : List Json, FaultsIn SpoilsProof (quotedItems items)
  | [] => .ok
  | item :: items => by
    unfold quotedItems
    exact (faultsIn_quoted item).bind fun _ _ => (faultsIn_quotedItems items).bind fun _ _ => .ok

theorem faultsIn_quotedMembers :
    ∀ members : List (String × Json), FaultsIn SpoilsProof (quotedMembers members)
  | [] => .ok
  | (_, value) :: members => by
    unfold quotedMembers
    exact (faultsIn_quoted value).bind fun _ _ =>
      (faultsIn_quotedMembers members).bind fun _ _ => .ok

end

theorem faultsIn_shown (value : Json) : FaultsIn SpoilsProof value.shown := by
  unfold shown
  split
  · exact .ok
  · exact faultsIn_quoted value

end Json

namespace Source

def text? : Source → Option (List Char)
  | .text s | .value (.text s) => some s.toList
  | .bytes b => (Text.decodeJsonBytes b).toOption
  | _ => none

/-- No text is nested deeper than reading can follow. -/
def IsShallow (source : Source) : Prop :=
  ∀ text, source.text? = some text → Json.nesting text ≤ Json.depthLimit

theorem faultsIn_read {source : Source} (h : source.IsShallow) :
    FaultsIn FaultKind.SpoilsProof source.read := by
  have hread : ∀ e : Json.ReadError, (∀ container, e ≠ .tooDeep container) →
      (Fault.json e).kind.SpoilsProof := by
    intro e he
    cases e with
    | malformed e => exact .inl rfl
    | integer e => exact .inl rfl
    | tooDeep container => exact absurd rfl (he container)
    | undecodable e => exact .inl rfl
  have htext : ∀ s : String, Json.nesting s.toList ≤ Json.depthLimit →
      FaultsIn FaultKind.SpoilsProof ((Json.read s.toList).mapError .json) := by
    intro s hs
    refine .mapError fun e he => hread e fun container hdeep => ?_
    rw [hdeep] at he
    exact Nat.not_lt.mpr hs (Json.depthLimit_lt_nesting he)
  unfold read
  split
  · exact .error FaultKind.spoilsProof_wrongType
  · exact htext _ (h _ rfl)
  · exact htext _ (h _ rfl)
  · refine .mapError fun e he => hread e fun container hdeep => ?_
    rw [hdeep] at he
    obtain ⟨text, hdecoded, hlimit⟩ := Json.depthLimit_lt_nesting_decoded he
    exact Nat.not_lt.mpr (h text (toOption_eq_some.mpr hdecoded)) hlimit
  · exact .error FaultKind.spoilsProof_wrongType

end Source
end IdentityProof
