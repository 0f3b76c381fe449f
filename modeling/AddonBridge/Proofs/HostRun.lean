import AddonBridge.Machine.LoadedAddon
import AddonBridge.Proofs.Serving

/-!
# Runs of a host

A host loads addons, each on an interface of its own, and does operations with those it has loaded, in
any order. What every move preserves holds after every run, and a law that calls obey is obeyed by
moves and runs if it allows what the host itself does to the interfaces.
-/

namespace AddonBridge

open Act

variable {σ ν δ : Type} [Panics δ]

namespace LoadedAddon

inductive Move where
  /-- Loads a module's addon on an interface that no loaded addon has. -/
  | load (table : TableId) (module : String) (host : Host) (libPath : String)
  /-- Does an operation with the addon that is loaded on an interface. -/
  | operate (table : TableId) (operation : Operation)

/-- Makes a move. One that needs an addon to be loaded, or none to be, does nothing otherwise. -/
def step (env : Env σ ν δ) : Move → Act σ ν Unit
  | .load t module host libPath => do
    match ← Act.loaded? t with
    | none => discard (load t module host libPath)
    | some _ => pure ()
  | .operate t operation => do
    match ← Act.loaded? t with
    | some l => discard (perform env t l operation)
    | none => pure ()

def run (env : Env σ ν δ) : List Move → Act σ ν Unit
  | [] => pure ()
  | move :: moves => do
    step env move
    run env moves

variable {env : Env σ ν δ} {S : Change σ ν} {T : String → Change σ ν} {p : Conduct σ}
  {creating : Prop} {t : TableId} {l : Loaded}

/-! ### No panic leaves an operation -/

theorem send_quiet (quiet : env.IsQuiet) (c : Except HostError (String × EntryCall)) :
    Quiet (send env c) := by
  unfold send
  split
  · exact .bind (Exports.call_quiet quiet _ _) fun _ => .pure _
  · exact .pure _

theorem destroy_quiet (quiet : env.IsQuiet) : Quiet (destroy env t l) := by
  unfold destroy
  split
  · exact .bind (fun _ => True.intro) fun _ =>
      .bind (Exports.call_quiet quiet _ _) fun _ => .pure _
  · exact .pure _

theorem perform_quiet (quiet : env.IsQuiet) (operation : Operation) :
    Quiet (perform env t l operation) := by
  cases operation with
  | create api =>
    refine .bind ?_ fun _ => .pure _
    unfold create
    split
    · exact .pure _
    · split
      · exact .pure _
      · exact .bind (fun _ => True.intro) fun _ =>
          .bind (Exports.call_quiet quiet _ _) fun _ => .pure _
  | status => exact .bind (.bind (send_quiet quiet _) fun _ => .pure _) fun _ => .pure _
  | setSetting name value =>
    exact .bind (.bind (send_quiet quiet _) fun _ => .pure _) fun _ => .pure _
  | createInstance ty id host version parent =>
    exact .bind (.bind (send_quiet quiet _) fun _ => .pure _) fun _ => .pure _
  | destroyInstance ty handle =>
    exact .bind (.bind (send_quiet quiet _) fun _ => .pure _) fun _ => .pure _
  | setFirstInstance h => exact .bind (fun _ => True.intro) fun _ => .pure _
  | destroy => exact .bind (destroy_quiet quiet) fun _ => .pure _
  | drop =>
    exact .bind (.bind (destroy_quiet quiet) fun _ _ => True.intro) fun _ => .pure _

theorem step_quiet (quiet : env.IsQuiet) (move : Move) : Quiet (step env move) := by
  cases move with
  | load t module host libPath =>
    refine .bind Talks.loaded?.quiet fun l => ?_
    cases l with
    | none =>
      refine .bind ?_ fun _ => .pure _
      unfold load
      split
      · exact .pure _
      · exact .bind (fun _ => True.intro) fun _ => .pure _
    | some l => exact .pure _
  | operate t operation =>
    refine .bind Talks.loaded?.quiet fun l => ?_
    cases l with
    | none => exact .pure _
    | some l => exact .bind (perform_quiet quiet operation) fun _ => .pure _

/-- What every move preserves holds after a run, and so does what the last move brings about. Only a
move that aborts ends a run early. -/
theorem run_ensures {P : World σ ν → Prop} {R : Move → World σ ν → Prop} (quiet : env.IsQuiet)
    (preserved : ∀ move w, P w →
      Ensures (step env move) w (fun _ u => P u ∧ R move u) fun _ _ => True)
    (moves : List Move) (w : World σ ν) (start : P w) :
    Ensures (run env moves) w (fun _ u => P u ∧ ∀ move, moves.getLast? = some move → R move u)
      fun e _ => e = .aborted := by
  induction moves generalizing w with
  | nil => exact ⟨start, nofun⟩
  | cons move moves ih =>
    rw [run, ensures_bind]
    have first := preserved move w start
    refine (first.and (step_quiet quiet move w)).mono (fun _ u between => ?_)
      fun _ _ stopped => stopped.2
    obtain ⟨⟨kept, brought⟩, -⟩ := between
    have ih := ih u kept
    cases moves with
    | nil =>
      refine ⟨kept, ?_⟩
      rintro move ⟨⟩
      exact brought
    | cons next rest => exact ih

/-! ### Creates -/

/-- A create changes nothing, or it makes the addon count as created and calls its module. -/
theorem create_exits {api : String} {w : World σ ν} {P : World σ ν → Prop}
    {E : Stop → World σ ν → Prop} (unchanged : P w)
    (called : l.isCreated = false → ∀ api', CString.ofText? api = some api' →
      Ensures (Exports.call env l.module (.create (some t) (some api')))
        { w with loaded := w.loaded.modify t fun l => { l with isCreated := true } }
        (fun _ u => P u) E) :
    Ensures (create env t l api) w (fun _ u => P u) E := by
  rw [create, ensures_ite]
  refine ⟨fun _ => unchanged, fun fresh => ?_⟩
  split
  · exact unchanged
  · next api' crossed =>
    rw [ensures_bind, ensures_modifyLoaded, ensures_bind]
    exact (called (by simpa using fresh) api' crossed).mono (fun _ _ after => after) fun _ _ => id

/-! ### Operations that make at most one call -/

def Operation.IsPlain : Operation → Prop
  | .create _ | .destroy | .drop => False
  | _ => True

section

variable (law : Law S)
  (calls : ∀ m c, (∀ t api, c ≠ .create t api) → Obeys S (Exports.call env m c))

include law calls

theorem send_obeys {c : Except HostError (String × EntryCall)}
    (h : ∀ m t api, c ≠ .ok (m, .create t api)) : Obeys S (send env c) := by
  unfold send
  split
  · next m call =>
    refine .bind law (calls m call fun t api same => ?_) fun _ => .pure law _
    exact absurd (by rw [same]) (h m t api)
  · exact .pure law _

theorem plain_obeys (first : ∀ h, Obeys S (setFirstInstance t h : Act σ ν Unit))
    {operation : Operation} (plain : operation.IsPlain) : Obeys S (perform env t l operation) := by
  cases operation with
  | create api => exact plain.elim
  | destroy => exact plain.elim
  | drop => exact plain.elim
  | setFirstInstance h => exact .bind law (first h) fun _ => .pure law _
  | status =>
    refine .bind law (.bind law (send_obeys law calls fun m t api => ?_) fun _ => .pure law _)
      fun _ => .pure law _
    cases registered l .getStatus <;> nofun
  | setSetting name value =>
    refine .bind law (.bind law (send_obeys law calls fun m t api => ?_) fun _ => .pure law _)
      fun _ => .pure law _
    cases registered l .setSetting <;> cases encoded name <;> nofun
  | createInstance ty id host version parent =>
    refine .bind law (.bind law (send_obeys law calls fun m t api => ?_) fun _ => .pure law _)
      fun _ => .pure law _
    cases registered l .createInstance <;> cases encoded id <;> cases encoded version <;> nofun
  | destroyInstance ty handle =>
    refine .bind law (.bind law (send_obeys law calls fun m t api => ?_) fun _ => .pure law _)
      fun _ => .pure law _
    cases registered l .destroyInstance <;> nofun

end

theorem perform_obeys (serves : env.Serves S T p creating)
    (first : ∀ h, Obeys S (setFirstInstance t h : Act σ ν Unit)) {operation : Operation}
    (plain : operation.IsPlain) : Obeys S (perform env t l operation) :=
  plain_obeys serves.law (fun m _ other =>
    Exports.call_obeys serves m fun t api same => absurd same (other t api)) first plain

/-! ### Moves and runs within a law -/

/-- A law allows what a move does to the interfaces, beside calling modules. -/
structure Relinks (S : Change σ ν) (move : Move) : Prop where
  loads : ∀ w t (l : Loaded), w.loaded.get? t = none →
    S w none { w with loaded := w.loaded.set t l }
  creates : ∀ w t, S w none { w with
    loaded := w.loaded.modify t fun l => { l with isCreated := true } }
  destroys : ∀ w t, move = .operate t .destroy ∨ move = .operate t .drop →
    S w none { w with loaded := w.loaded.modify t fun l => { l with isCreated := false } }
  drops : ∀ w t, move = .operate t .drop → S w none { w with loaded := w.loaded.erase t }
  shares : ∀ w t first, S w none { w with
    loaded := w.loaded.modify t fun l => { l with firstInstance := first } }

theorem Relinks.apart (opens : env.Opens S T p) (move : Move) : Relinks S move where
  loads w _ _ _ := opens.apart w _ rfl rfl rfl rfl
  creates w _ := opens.apart w _ rfl rfl rfl rfl
  destroys w _ _ := opens.apart w _ rfl rfl rfl rfl
  drops w _ _ := opens.apart w _ rfl rfl rfl rfl
  shares w _ _ := opens.apart w _ rfl rfl rfl rfl

theorem step_obeys (law : Law S) (calls : ∀ m c, Obeys S (Exports.call env m c)) {move : Move}
    (relinks : Relinks S move) : Obeys S (step env move) := by
  intro w
  cases move with
  | load t module host libPath =>
    rw [step, ensures_bind, ensures_loaded?]
    cases free : w.loaded.get? t with
    | some l => exact law.refl w
    | none =>
      dsimp only
      rw [ensures_discard, load]
      split
      · exact law.refl w
      · exact relinks.loads w t _ free
  | operate t operation =>
    have destroyed {l : Loaded} (last : operation = .destroy ∨ operation = .drop) :
        Obeys S (destroy env t l) := by
      refine .ite (.bind law (fun w => relinks.destroys w t ?_) fun _ =>
        .bind law (calls _ _) fun _ => .pure law _) (.pure law _)
      exact last.imp (congrArg _) (congrArg _)
    rw [step, ensures_bind, ensures_loaded?]
    cases w.loaded.get? t with
    | none => exact law.refl w
    | some l =>
      dsimp only
      rw [ensures_discard]
      by_cases plain : operation.IsPlain
      · exact plain_obeys law (fun m c _ => calls m c) (fun h w => relinks.shares w t h) plain w
      · cases operation with
        | create api =>
          refine Obeys.bind law (.ite (.pure law _) ?_) (fun _ => .pure law _) w
          split
          · exact .pure law _
          · exact .bind law (fun w => relinks.creates w t) fun _ =>
              .bind law (calls _ _) fun _ => .pure law _
        | destroy => exact Obeys.bind law (destroyed (.inl rfl)) (fun _ => .pure law _) w
        | drop =>
          refine Obeys.bind law (.bind law (destroyed (.inr rfl)) fun _ => ?_)
            (fun _ => .pure law _) w
          exact fun w => relinks.drops w t rfl
        | _ => exact absurd True.intro plain

theorem run_obeys (law : Law S) {moves : List Move}
    (steps : ∀ move ∈ moves, Obeys S (step env move)) : Obeys S (run env moves) := by
  induction moves with
  | nil => exact .pure law _
  | cons move moves ih =>
    exact .bind law (steps move List.mem_cons_self) fun _ =>
      ih fun next member => steps next (List.mem_cons_of_mem _ member)

theorem run_opens (opens : env.Opens S T p) (moves : List Move) : Obeys S (run env moves) :=
  run_obeys opens.law fun move _ => step_obeys opens.law
    (fun m _ => Exports.call_obeys opens.serves m fun _ _ _ => True.intro) (.apart opens move)

theorem run_quiet (quiet : env.IsQuiet) (moves : List Move) : Quiet (run env moves) := by
  induction moves with
  | nil => exact .pure _
  | cons move moves ih => exact .bind (step_quiet quiet move) fun _ => ih

end LoadedAddon

end AddonBridge
