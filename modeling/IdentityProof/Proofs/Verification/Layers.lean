import IdentityProof.Proofs.Policy.Parts
import IdentityProof.Proofs.Verification.Faults

/-! Settings in two layers. What a verifier does with the settings of a call is what a verifier made
with those settings after its own would do, call by call. -/

namespace IdentityProof

structure Request where
  now : Moment
  settings : List Setting
  proof : Proof

namespace Verifier

variable {σ : Type}

def session (b : Bytes → Behaviour σ) (v : Verifier) : List Request → σ → List (Run σ)
  | [], _ => []
  | request :: rest, s =>
    v.run (b v.key) request.now request.settings request.proof s ::
      v.session b rest (v.run (b v.key) request.now request.settings request.proof s).state

/-- The runs of verifiers that are made for one call each, which brings no setting of its own. -/
inductive MadeForEach (b : Bytes → Behaviour σ) (files : Files) (key : Source)
    (stored : List Setting) : List Request → σ → List (Run σ) → Prop where
  | nil (s : σ) : MadeForEach b files key stored [] s []
  | cons {request : Request} {rest : List Request} {s : σ} {w : Verifier} {runs : List (Run σ)}
    (made : make files key (stored ++ request.settings) = .ok w)
    (later : MadeForEach b files key stored rest
      (w.run (b w.key) request.now [] request.proof s).state runs) :
    MadeForEach b files key stored (request :: rest) s
      (w.run (b w.key) request.now [] request.proof s :: runs)

def layered (v : Verifier) (settings : List Setting) : Verifier :=
  { v with policy := Policy.merge false v.policy settings }

theorem readKey_congr {files : Files} {key : Source} {p q : Policy} (h : p.keyFile = q.keyFile) :
    readKey files p key = readKey files q key := by
  unfold readKey
  rw [h]

theorem make_eq (files : Files) (key : Source) (settings : List Setting) :
    make files key settings = (readKey files (Policy.merge true .default settings) key).map
      fun bytes => { policy := Policy.merge true .default settings, key := bytes } := by
  simp only [make]
  cases readKey files (Policy.merge true .default settings) key <;> rfl

theorem make_append (files : Files) (key : Source) (stored : List Setting) {called : List Setting}
    (h : ∀ s ∈ called, s.part ≠ .keyFile) :
    make files key (stored ++ called) = (make files key stored).map (layered · called) := by
  have hget : (Policy.merge false (Policy.merge true .default stored) called).get .keyFile =
      (Policy.merge true .default stored).get .keyFile := Policy.get_merge_of_forall_ne h
  have hfile : (Policy.merge true .default (stored ++ called)).keyFile =
      (Policy.merge true .default stored).keyFile := by
    rw [Policy.merge_append]
    exact hget
  rw [make_eq, make_eq, readKey_congr hfile, Policy.merge_append]
  cases readKey files (Policy.merge true .default stored) key <;> rfl

theorem run_layered (b : Behaviour σ) (now : Moment) (v : Verifier) (settings : List Setting)
    (proof : Proof) (s : σ) :
    (v.layered settings).run b now [] proof s = v.run b now settings proof s := rfl

theorem session_madeForEach {b : Bytes → Behaviour σ} {files : Files} {key : Source}
    {stored : List Setting} {v : Verifier} (hv : make files key stored = .ok v)
    {requests : List Request} (h : ∀ r ∈ requests, ∀ s ∈ r.settings, s.part ≠ .keyFile) (s : σ) :
    MadeForEach b files key stored requests s (v.session b requests s) := by
  induction requests generalizing s with
  | nil => exact .nil s
  | cons request rest ih =>
    have hmade : make files key (stored ++ request.settings) =
        .ok (v.layered request.settings) := by
      rw [make_append files key stored (h request List.mem_cons_self), hv]
      rfl
    have hrest : ∀ r ∈ rest, ∀ s ∈ r.settings, s.part ≠ .keyFile :=
      fun r hr => h r (List.mem_cons_of_mem _ hr)
    rw [session, ← run_layered]
    exact .cons hmade (ih hrest _)

/-- The last setting of a part counts, parts that no setting writes are as at the start, and
settings of different parts can change places. So the settings of a call count as if they had been
given last when the verifier was made, and only for that call. -/
theorem settings_layered (b : Bytes → Behaviour σ) (files : Files) (key : Source) :
    (∀ (reset : Bool) (base : Policy) (before after : List Setting) (s : Setting),
      (∀ t ∈ after, t.part ≠ s.part) →
        (Policy.merge reset base (before ++ s :: after)).get s.part = s.value) ∧
    (∀ (reset : Bool) (base : Policy) (settings : List Setting) (part : Policy.Part),
      (∀ s ∈ settings, s.part ≠ part) → (Policy.merge reset base settings).get part =
        if reset = true ∧ part ≠ .proofType then Policy.default.get part else base.get part) ∧
    (∀ bytes, (Setting.ofEventData bytes).part = .eventData) ∧
    (∀ address label s, Setting.ofAddress address label = .ok s → s.part = .eventData) ∧
    (∀ (reset : Bool) (base : Policy) (before one other after : List Setting),
      (∀ s ∈ one, ∀ t ∈ other, s.part ≠ t.part) →
        Policy.merge reset base (before ++ (one ++ other) ++ after) =
          Policy.merge reset base (before ++ (other ++ one) ++ after)) ∧
    (∀ stored called : List Setting, (∀ s ∈ called, s.part ≠ .keyFile) →
      make files key (stored ++ called) = (make files key stored).map (layered · called)) ∧
    ∀ (stored : List Setting) (v : Verifier) (requests : List Request) (s : σ),
      make files key stored = .ok v → (∀ r ∈ requests, ∀ t ∈ r.settings, t.part ≠ .keyFile) →
        MadeForEach b files key stored requests s (v.session b requests s) := by
  refine ⟨fun reset base before after s h => Policy.get_merge_of_last h,
    fun reset base settings part h => Policy.get_merge_of_unwritten h, fun _ => rfl,
    fun address label s h => Setting.part_ofAddress h, ?_, ?_, ?_⟩
  · intro reset base before one other after h
    exact Policy.merge_swap_between h reset base before after
  · intro stored called h
    exact make_append files key stored h
  · intro stored v requests s hv h
    exact session_madeForEach hv h s

def twoAges : List Request := [
  { now := passportDate, settings := [.age (.int 21)], proof := .ofPassport "0" },
  { now := passportDate, settings := [], proof := .ofPassport "0" }]

theorem second_age_counts :
    let v := ofPassports [.age (.int 18)]
    let bound := Setting.eventData (some (.address ⟨"a1qy089ch6", "a", [0, 4], [1]⟩))
    make [] (.bytes [123, 125]) [.age (.int 18)] = .ok v ∧
      (Policy.merge false v.policy [.age (.int 21), .eventId (.text "7")]).age = .int 21 ∧
      (Policy.merge false v.policy [.eventId (.text "7")]).age = .int 18 ∧
      Setting.ofAddress (.text "a1qy089ch6") (.text "a") = .ok bound ∧ bound.part = .eventData ∧
      Policy.merge true .default [.age (.int 18), .eventId (.text "7")] =
        Policy.merge true .default [.eventId (.text "7"), .age (.int 18)] ∧
      make [] (.bytes [123, 125]) [.age (.int 18), .eventId (.text "7")] =
        .ok (v.layered [.eventId (.text "7")]) ∧
      MadeForEach (fun _ => Behaviour.accepting) [] (.bytes [123, 125]) [.age (.int 18)] twoAges ()
        (v.session (fun _ => Behaviour.accepting) twoAges ()) := by
  intro v bound
  have hmake : make [] (.bytes [123, 125]) [.age (.int 18)] = .ok v := rfl
  have haddress : Setting.ofAddress (.text "a1qy089ch6") (.text "a") = .ok bound := rfl
  have heventId : ∀ part : Policy.Part, Policy.Part.eventId ≠ part →
      ∀ t ∈ [Setting.eventId (.text "7")], t.part ≠ part := by
    intro part hne t ht
    obtain rfl := List.mem_singleton.mp ht
    exact hne
  obtain ⟨hlast, hstart, -, hbound, hswap, hmakes, hsession⟩ :=
    settings_layered (fun _ => Behaviour.accepting) [] (.bytes [123, 125])
  refine ⟨hmake, ?_, ?_, haddress, hbound _ _ _ haddress, ?_, ?_, ?_⟩
  · exact hlast false v.policy [] [.eventId (.text "7")] (.age (.int 21)) (heventId .age nofun)
  · exact hstart false v.policy [.eventId (.text "7")] .age (heventId .age nofun)
  · refine hswap true .default [] [.age (.int 18)] [.eventId (.text "7")] [] ?_
    intro s hs t ht
    obtain rfl := List.mem_singleton.mp hs
    exact (heventId .age nofun t ht).symm
  · exact hmakes [.age (.int 18)] [.eventId (.text "7")] (heventId .keyFile nofun)
  · refine hsession [.age (.int 18)] v twoAges () hmake ?_
    simp only [twoAges, List.forall_mem_cons]
    exact ⟨⟨nofun, nofun⟩, nofun, nofun⟩

end Verifier
end IdentityProof
