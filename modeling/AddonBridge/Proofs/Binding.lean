import AddonBridge.Proofs.HostRun
import AddonBridge.Proofs.Installing

/-!
# Log records after a failed create

A create sends log records to its interface before it knows whether anything comes of it. When it
installs nothing, records do not go to the interface any more, nor back to where they went before:
`create_unbinds` says where they go then, and `create_silences` that an addon which is created can
lose its host that way.
-/

namespace AddonBridge

open Act World

variable {σ ν : Type} {env : Env σ ν} {m : String} {w u : World σ ν} {t : TableId}

namespace World

def Unbound (w u : World σ ν) : Prop := u.sink = w.sink ∨ u.sink = none

theorem Unbound.lenient : Lenient (Unbound : World σ ν → World σ ν → Prop) where
  refl _ := .inl rfl
  trans _ _ _ before after := by
    rcases after with same | none
    · rwa [Unbound, same]
    · exact .inr none
  stirs _ _ stirs := .inl stirs.sink
  raised _ _ := .inl rfl
  marked _ _ := .inl rfl
  reseat _ _ _ _ _ _ _ _ := .inl rfl
  released _ _ _ _ h := h
  moved _ _ _ := .inl rfl
  emptied _ _ _ := .inl rfl
  withdrawn _ _ _ _ _ _ h := h
  unbound _ := .inr rfl

/-- Calls that create nothing leave log records going where they went, or nowhere. -/
abbrev Unbinds (w u : World σ ν) : Prop :=
  w.IfEnters (fun _ c => ∀ t api, c ≠ .create t api) Unbound u

theorem Unbinds.lenient : Lenient (Unbinds : World σ ν → World σ ν → Prop) :=
  Unbound.lenient.ifEnters

end World

namespace Exports

theorem env_unbinds (modules : Modules σ ν) (unloading : Bool) (depth : Nat) :
    (Exports.env modules unloading depth).Within Unbinds {} :=
  Unbinds.lenient.env_within (fun depth _ _ t api =>
    call_disallowed (env_spares modules unloading depth) fun barred => barred t api rfl) depth

/-- After a create that installs nothing, log records do not go to its interface, wherever they went
before. Unless code called a create function meanwhile they go nowhere. A create without an interface
leaves them alone. -/
theorem create_unbinds (modules : Modules σ ν) (unloading : Bool) (depth : Nat) (m : String)
    (addon : modules.native m = none) (w : World σ ν) (api : Option CString) :
    Ensures (call (Exports.env modules unloading depth) m (.create none api)) w
      (fun answer u => answer = .status Status.permanentFailure.toRaw ∧ u.sink = w.sink)
      (fun _ _ => False) ∧
    ∀ t, Ensures (call (Exports.env modules unloading depth) m (.create (some t) api)) w
      (fun _ u => ¬w.Shows u (.installed ⟨t, w.made t⟩) →
        u.sink ≠ some t ∧
        ((w.entered m (.create (some t) api)).Enters (fun _ c => ∀ t api, c ≠ .create t api) u →
          u.sink = none))
      fun stop _ => stop = .aborted := by
  have spares := env_spares modules unloading depth
  have permits := Unbinds.lenient.permits (env_unbinds modules unloading depth)
  have addon : (Exports.env modules unloading depth).modules.native m = none := by
    rwa [env_modules]
  refine ⟨?_, fun t => ?_⟩
  · rw [ensures_call addon, callAddon, ensures_bind]
    exact guard_returns (Log.error_talks.before fun _ _ idle => ⟨rfl, idle.sink⟩)
  · rw [ensures_call addon, callAddon, ensures_bind]
    let begun : World σ ν := w.entered m (.create (some t) api)
    let Unbound (u : World σ ν) : Prop := u.sink ≠ some t ∧
      (begun.Enters (fun _ c => ∀ t api, c ≠ .create t api) u → u.sink = none)
    have talk (u v : World σ ν) (idle : u.Idle v) (unbound : Unbound u) : Unbound v := by
      obtain ⟨away, none⟩ := unbound
      rw [← idle.sink] at away none
      exact ⟨away, fun enters => none (enters.left idle.stirs.trace)⟩
    refine (create_settles (J := Unbound) spares permits
      (fun _ => ⟨List.suffix_rfl, fun _ => .inl rfl⟩) talk fun u unbinds => ?_).mono
        (fun _ u settled absent => ?_) fun _ _ => id
    -- What is bound when nothing was installed is the interface itself, or nothing.
    · split
      · exact ⟨nofun, fun _ => rfl⟩
      · next other =>
        exact ⟨other, fun enters => (unbinds.holds enters).resolve_left other⟩
    · rcases settled with shown | unbound
      · exact absurd (shown.earlier (List.suffix_cons _ _)) absent
      · exact unbound

/-- A second addon that cannot be built is given up, and its records go nowhere. -/
theorem create_unbinds_once :
    let blank : Loaded := { module := "once", libPath := .empty, host := {}, hostTable := none }
    let w : World Bool Unit :=
      { memory := fun _ => true, loaded := [(⟨1, 0⟩, blank)], sink := some ⟨0, 0⟩ }
    ∃ answer u, call (Exports.env Modules.once false 2) "once" (.create (some ⟨1, 0⟩) none) w =
      .ok answer u ∧ ¬w.Shows u (.installed ⟨⟨1, 0⟩, 0⟩) ∧ u.sink = none := by
  intro blank w
  have unbinds := (create_unbinds Modules.once false 2 "once" rfl w none).2 ⟨1, 0⟩
  obtain ⟨answer, u, ended, trace⟩ : ∃ answer u,
      call (Exports.env Modules.once false 2) "once" (.create (some ⟨1, 0⟩) none) w = .ok answer u ∧
      u.trace = [.building ⟨⟨1, 0⟩, 0⟩ ⟨"once", ⟨1, 0⟩⟩] ++
        (w.entered "once" (.create (some ⟨1, 0⟩) none)).trace := ⟨_, _, rfl, rfl⟩
  have absent : ¬w.Shows u (.installed ⟨⟨1, 0⟩, 0⟩) := by
    intro shown
    have member := (Shows.of_trace (trace.trans (List.append_assoc _ [_] []).symm)).mp shown
    simp at member
  obtain ⟨-, unbound⟩ := (ensures_ok ended).mp unbinds absent
  refine ⟨answer, u, ended, absent, unbound fun m c shown => ?_⟩
  have member := (Shows.of_trace trace).mp shown
  simp at member

/-- A created addon whose records go to its host loses it when another addon of its module cannot be
built. -/
theorem create_silences :
    let env := Exports.env Modules.once false 2
    ∃ w u c, LoadedAddon.run env
        [.load ⟨0, 0⟩ "once" {} "once.so", .load ⟨1, 0⟩ "once" {} "once.so",
          .operate ⟨0, 0⟩ (.create "1.0")] { memory := fun _ => false } = .ok () w ∧
      w.sink = some ⟨0, 0⟩ ∧
      call env "once" (.create (some ⟨1, 0⟩) none) w =
        .ok (.status Status.permanentFailure.toRaw) u ∧
      u.contexts.get? (.module "once") = some c ∧ c.root.site.table = ⟨0, 0⟩ ∧ u.sink = none := by
  have ends : endsWith (LoadedAddon.run (Exports.env Modules.once false 2)
      [.load ⟨0, 0⟩ "once" {} "once.so", .load ⟨1, 0⟩ "once" {} "once.so",
        .operate ⟨0, 0⟩ (.create "1.0")]) { memory := fun _ => false } (fun _ w =>
      w.sink = some ⟨0, 0⟩ && endsWith (call (Exports.env Modules.once false 2) "once"
        (.create (some ⟨1, 0⟩) none)) w fun answer u =>
          answer = .status Status.permanentFailure.toRaw ∧ u.sink = none ∧
            (u.contexts.get? (.module "once")).any fun c => c.root.site.table = ⟨0, 0⟩) := by
    decide +kernel
  obtain ⟨_, w, ran, read⟩ := exists_ended ends
  obtain ⟨bound, failed⟩ := Bool.and_eq_true_iff.mp read
  obtain ⟨answer, u, ended, read⟩ := exists_ended failed
  obtain ⟨rfl, silent, seated⟩ := of_decide_eq_true read
  obtain ⟨c, here, table⟩ := (Option.any_eq_true _ _).mp seated
  exact ⟨w, u, c, ran, of_decide_eq_true bound, ended, here, of_decide_eq_true table, silent⟩

end Exports

end AddonBridge
