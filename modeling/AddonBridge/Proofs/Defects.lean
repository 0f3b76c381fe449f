import AddonBridge.Proofs.Serving

/-!
# Defects abort

A call of a module either comes back, and then no defect was found while it ran, or it aborts, and
then one was. Code that panics with a defect of its own making is left out.
-/

namespace AddonBridge

open Act

variable {σ ν : Type}

/-- Code that does not panic with a defect. -/
def Conduct.honest : Conduct σ := { panics := fun q => ∀ d, q ≠ .defect d }

def World.Raised (w u : World σ ν) : Prop := ∃ ds, ds ≠ [] ∧ u.defects = ds ++ w.defects

/-- A defect was found if and only if an act aborted or unwinds with one. -/
def Reporting : Change σ ν := fun w k u =>
  match k with
  | some .aborted | some (.unwinding (.defect _)) => w.Raised u
  | none | some (.unwinding _) => u.defects = w.defects

theorem Reporting.ordinary {w u : World σ ν} {q : Payload} (h : ∀ d, q ≠ .defect d) :
    Reporting w (some (.unwinding q)) u ↔ u.defects = w.defects := by
  cases q with
  | defect d => exact absurd rfl (h d)
  | text message => rfl
  | other => rfl

theorem Reporting.law : Law (Reporting : Change σ ν) where
  refl _ := rfl
  trans {w k u v} (first : u.defects = w.defects) second := by
    unfold Reporting World.Raised at *
    rwa [first] at second
  cleanup {w q u v} first (second : v.defects = u.defects) := by
    unfold Reporting World.Raised at *
    rwa [second]
  cleanup_aborted {w q u v} first second := by
    obtain ⟨ds, some_found, after⟩ := (second : u.Raised v)
    have unchanged : u.defects = w.defects → w.Raised v :=
      fun same => ⟨ds, some_found, same ▸ after⟩
    cases q with
    | defect d =>
      obtain ⟨es, -, before⟩ := (first : w.Raised u)
      exact ⟨ds ++ es, by simp [some_found], by rw [after, before, List.append_assoc]⟩
    | text message => exact unchanged first
    | other => exact unchanged first
  caught first ordinary := (Reporting.ordinary ordinary).mp first
  fatal first := first

variable {env : Env σ ν}

theorem Reporting.permits (modules : env.modules.Follow .honest) (quiet : env.IsQuiet)
    (nested : ∀ c, Obeys Reporting (env.nested c)) : env.Permits Reporting .honest where
  law := Reporting.law
  talk _ _ idle := idle.stirs.defects
  panic _ honest _ := (Reporting.ordinary honest).mpr rfl
  modules := modules
  nested c _ := nested c
  quiet := quiet
  stirs _ _ stirs := stirs.defects

theorem Reporting.opens (permits : env.Permits Reporting .honest) :
    env.Opens Reporting (fun _ => Reporting) .honest where
  toPermits := permits
  tends _ :=
    { toPermits := permits
      raised := fun _ d => ⟨[d], by simp, rfl⟩
      reseat := fun _ _ _ _ _ _ _ => rfl }
  releases.held _ _ _ _ _ _ h := h
  releases.halted _ _ _ _ h := h
  entered _ _ _ := rfl
  locates := .of_free Reporting.law fun _ _ _ => rfl
  apart _ _ _ _ _ trace := congrArg (List.filterMap Event.raised?) trace
  emptied _ _ _ := rfl
  filled _ _ _ := rfl

theorem Exports.env_reporting {modules : Modules σ ν} (honest : modules.Follow .honest)
    (unloading : Bool) (depth : Nat) (c : RawCall) :
    Obeys Reporting ((Exports.env modules unloading depth).nested c) :=
  env_obeys (p := .honest) True (fun _ _ _ => True.intro)
    (fun depth nested => (Reporting.opens (Reporting.permits (by rwa [env_modules])
      (env_quiet modules unloading depth) fun c => nested c True.intro)).serves)
    Reporting.law depth c True.intro

/-- A call aborts if and only if a defect is found during it, and otherwise comes back. -/
theorem Exports.call_reporting {modules : Modules σ ν} (honest : modules.Follow .honest)
    (unloading : Bool) (depth : Nat) (m : String) (c : EntryCall) (w : World σ ν) :
    Ensures (call (Exports.env modules unloading depth) m c) w (fun _ u => u.defects = w.defects)
      (fun e u => e = .aborted ∧ w.Raised u) := by
  have quiet := env_quiet modules unloading depth
  have opens := Reporting.opens (Reporting.permits (by rwa [env_modules]) quiet
    (env_reporting honest unloading depth))
  have obeyed := call_obeys opens.serves m (c := c) (fun _ _ _ => True.intro) w
  refine (obeyed.and (call_quiet quiet m c w)).mono (fun _ _ ended => ended.1) ?_
  rintro e u ⟨raised, rfl⟩
  exact ⟨rfl, raised⟩

end AddonBridge
