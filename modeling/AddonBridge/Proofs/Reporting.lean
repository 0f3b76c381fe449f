import AddonBridge.Proofs.Installing
import AddonBridge.Proofs.Transport

/-!
# Creates that fail

Log records go to the interface of a create while its addon is built and installed. `creates_report`
says what the host behind the interface hears when nothing is installed: why, unless the addon's own
code panicked. A panic is logged where it is caught, and by then log records do not go to the
interface any more; `create_panics_unheard` is such a create.
-/

namespace AddonBridge

open Act World

open Text (withoutNul)

variable {σ ν α : Type} {env : Env σ ν} {m : String} {w u v : World σ ν} {c : Context σ}
  {t : TableId} {api : Option CString} {l : Loaded} {p : Payload}

abbrev World.registered (w : World σ ν) (m : String) (t : TableId) : World σ ν :=
  { w with loaded := w.loaded.modify t fun l => { l with addonTable := .full m } }

def Event.isError : Event ν → Bool
  | .host _ (.log .error _) => true
  | _ => false

abbrev Event.errs (t : TableId) (message : String) : Event ν :=
  .host t (.log .error (withoutNul message))

namespace Log

theorem error_heard (here : w.loaded.get? t = some l) (hears : l.Hears) (bound : w.sink = some t)
    (passes : w.facade.passes .error) (message : String) :
    Ensures (error message) w (fun _ u => w.Shows u (.errs t message)) fun _ _ => False := by
  obtain ⟨table, linked, based, offered⟩ := hears
  have heard : table.heard .error message = [(.error, withoutNul message)] := by
    rw [HostTable.heard, if_pos ⟨offered, based⟩, CString.text_strip]
    rfl
  refine (ensures_ok (emit_at here linked bound passes message)).mpr ?_
  exact ⟨_, rfl, by simp [heard, RecordLevel.toHost]⟩

theorem emit_unbound (unbound : w.sink = none) (level : RecordLevel) (message : String) :
    emit level message w = .ok () w := by
  have asked : (get : Act σ ν _) w = .ok w w := rfl
  rw [emit, bind_of_ok asked]
  split
  · rw [toSink, bind_of_ok asked, unbound]
    rfl
  · rfl

end Log

namespace Exports

/-- A create up to the end of the addon's own code. -/
def begin (env : Env σ ν) (m : String) (t : TableId) (api : Option CString) :
    Act σ ν (Except AddonError (Context σ)) := do
  Log.debug ("Creating addon for host API version '" ++ CString.textOrEmpty api ++ "'")
  Dispatch.build env m t

/-- Why nothing is installed after the addon's own code: the status of the create, and the message
for the host. -/
def shortfall? (l : Loaded) (busy : Prop) [Decidable busy] :
    Except AddonError (Context σ) → Option (Status × String)
  | .error e => some (e.toStatus, "Failed to create addon: " ++ e.message)
  | .ok _ =>
    if ¬l.addonTableLinked then
      some (.permanentFailure, "Host did not provide a function table to register the addon into")
    else if busy then some (.unknown, "Host re-entered the addon during 'create'")
    else none

/-! ### Steps of a create -/

theorem begin_obeys (tells : env.Tells) : Obeys Stirring (begin env m t api) :=
  .bind tells.permits.law (Log.debug_talks.obeys tells.permits.talk) fun _ =>
    Dispatch.build_obeys tells.permits

theorem begin_binds (tells : env.Tells) {built : Except AddonError (Context σ)}
    (began : begin env m t api (w.creating m t api) = .ok built v)
    (still : (w.creating m t api).Still v) :
    v.sink = some t ∧ v.busy = w.busy ∧ (w.facade.installed.passes .error → v.facade.passes .error) := by
  have stirred := ((ensures_ok began).mp (begin_obeys tells _)).returned.holds still
  refine ⟨stirred.sink, stirred.busy, fun passes => ?_⟩
  rwa [stirred.facade.of_some (Facade.passes_iff.mp passes).1]

theorem registerFunctions_at (here : w.loaded.get? t = some l) :
    registerFunctions m t w =
      if l.addonTableLinked then .ok true (w.registered m t) else .ok false w := by
  have found : (Act.loaded? t : Act σ ν _) w = .ok (some l) w :=
    congrArg (EStateM.Result.ok · w) here
  rw [registerFunctions, bind_of_ok found]
  dsimp only
  split <;> rfl

theorem dropContext_grows (grows : env.Permits Growing {}) {e : Event ν} (shown : v.Shows u e) :
    Ensures (Dispatch.dropContext env c) u (fun _ x => v.Shows x e)
      fun e' x => e' = .aborted ∧ v.Shows x e :=
  ((Dispatch.dropContext_obeys grows u).and (Dispatch.dropContext_quiet grows.quiet c u)).mono
    (fun _ _ ended => shown.later ended.1) fun _ _ stopped => ⟨stopped.2, shown.later stopped.1⟩

/-! ### Creates that install nothing -/

theorem install_turns_away (grows : env.Permits Growing {}) (held : m ∈ w.busy)
    (here : w.loaded.get? t = some l) (hears : l.Hears) (bound : w.sink = some t)
    (passes : w.facade.passes .error) :
    Ensures (install env m c) w
      (fun installed x => installed = false ∧
        w.Shows x (.errs t "Host re-entered the addon during 'create'"))
      fun e x => e = .aborted ∧
        w.Shows x (.errs t "Host re-entered the addon during 'create'") := by
  rw [install, ensures_bind, ensures_isBusy, ensures_ite]
  refine ⟨fun _ => ?_, fun free => absurd held (by simpa using free)⟩
  rw [ensures_bind]
  refine (Log.error_heard here hears bound passes _).mono (fun _ u shown => ?_) fun _ _ => False.elim
  rw [ensures_bind]
  exact (dropContext_grows grows shown).mono (fun _ _ shown => ⟨rfl, shown⟩) fun _ _ => id

theorem construct_falls_short (tells : env.Tells) (grows : env.Permits Growing {})
    {built : Except AddonError (Context σ)}
    (began : begin env m t api (w.creating m t api) = .ok built v)
    (still : (w.creating m t api).Still v) (here : v.loaded.get? t = some l) (hears : l.Hears)
    (passes : w.facade.installed.passes .error) {status : Status} {message : String}
    (short : shortfall? l (m ∈ w.busy) built = some (status, message)) :
    Ensures (construct env m t api) (w.creating m t api)
      (fun single x => single = .error status ∧ v.Shows x (.errs t message))
      fun e x => e = .aborted ∧ v.Shows x (.errs t message) := by
  obtain ⟨bound, busy, passing⟩ := begin_binds tells began still
  have passes := passing passes
  obtain ⟨_, u, logged, ended⟩ := bind_ok began
  rw [Ensures, construct, bind_of_ok logged, bind_of_ok ended, ← Ensures]
  cases built with
  | error e =>
    cases short
    dsimp only
    rw [ensures_bind]
    exact (Log.error_heard here hears bound passes _).mono (fun _ _ shown => ⟨rfl, shown⟩) fun _ _ =>
      False.elim
  | ok c =>
    have registered := registerFunctions_at (m := m) here
    by_cases linked : l.addonTableLinked
    · -- The functions are registered, and the slot turns the context away.
      rw [if_pos linked] at registered
      have turned : m ∈ w.busy ∧ (Status.unknown, "Host re-entered the addon during 'create'") =
          (status, message) := by
        simpa [shortfall?, linked] using short
      obtain ⟨held, same⟩ := turned
      cases same
      rw [ensures_bind]
      refine (ensures_ok registered).mpr ?_
      rw [if_pos rfl, ensures_bind]
      refine (install_turns_away (w := v.registered m t) (l := { l with addonTable := .full m })
        grows (busy ▸ held) ?_ hears bound passes).mono ?_ fun _ _ => id
      · simp [Assoc.get?_modify, here]
      · rintro _ x ⟨rfl, shown⟩
        exact ⟨rfl, shown⟩
    · rw [if_neg linked] at registered
      simp only [shortfall?, linked] at short
      cases short
      rw [ensures_bind]
      refine (ensures_ok registered).mpr ?_
      rw [if_neg (by simp), ensures_bind]
      refine (Log.error_heard here hears bound passes _).mono (fun _ x shown => ?_) fun _ _ =>
        False.elim
      rw [ensures_bind]
      exact (dropContext_grows grows shown).mono (fun _ _ shown => ⟨rfl, shown⟩) fun _ _ => id

theorem create_falls_short (addon : env.modules.native m = none) {status : Status} {e : Event ν}
    (constructed : Ensures (construct env m t api) (w.creating m t api)
      (fun single x => single = .error status ∧ v.Shows x e)
      fun stop x => stop = .aborted ∧ v.Shows x e) :
    Ensures (call env m (.create (some t) api)) w
      (fun answer x => answer = .status status.toRaw ∧ v.Shows x e)
      fun stop x => stop = .aborted ∧ v.Shows x e := by
  rw [ensures_call addon, callAddon, ensures_bind]
  refine guard_exits (F := fun x => v.Shows x e) ?_
  dsimp only
  rw [ensures_bind, ensures_discard, Log.ensures_install, ensures_bind, ensures_setSink, ensures_bind,
    ensures_observe]
  refine constructed.mono ?_ ?_
  · rintro _ x ⟨rfl, shown⟩
    dsimp only
    rw [ensures_bind, ensures_unbind, ensures_pure]
    refine ⟨rfl, ?_⟩
    split <;> exact shown
  · rintro _ x ⟨rfl, shown⟩
    exact shown

/-! ### Creates that install a context -/

theorem construct_succeeds (tells : env.Tells)
    (began : begin env m t api (w.creating m t api) = .ok (.ok c) v)
    (still : (w.creating m t api).Still v) (here : v.loaded.get? t = some l)
    (fits : shortfall? l (m ∈ w.busy) (.ok c : Except AddonError (Context σ)) = none) :
    Ensures (construct env m t api) (w.creating m t api)
      (fun single x => (∃ h, single = .ok h) ∧ v.Shows x (.installed c.root.object))
      fun e _ => e = .aborted := by
  obtain ⟨-, busy, -⟩ := begin_binds tells began still
  obtain ⟨_, u, logged, ended⟩ := bind_ok began
  have free : l.addonTableLinked = true ∧ m ∉ w.busy := by
    cases linked : l.addonTableLinked <;> by_cases held : m ∈ w.busy <;> simp_all [shortfall?]
  have registered := registerFunctions_at (m := m) here
  rw [if_pos free.1] at registered
  rw [Ensures, construct, bind_of_ok logged, bind_of_ok ended, ← Ensures]
  dsimp only
  rw [ensures_bind]
  refine (ensures_ok registered).mpr ?_
  rw [if_pos rfl, ensures_bind]
  have seated := install_seats (c := c) (w := v.registered m t) tells (busy ▸ free.2)
  have shown := install_shows (m := m) (c := c) (w := v.registered m t) tells.spares tells.permits
  refine (seated.and shown).mono ?_ fun _ _ stopped => stopped.1
  rintro _ x ⟨⟨rfl, -⟩, shown⟩
  exact ⟨⟨_, rfl⟩, shown⟩

theorem create_succeeds (tells : env.Tells) (addon : env.modules.native m = none) {e : Event ν}
    (constructed : Ensures (construct env m t api) (w.creating m t api)
      (fun single x => (∃ h, single = .ok h) ∧ v.Shows x e) fun stop _ => stop = .aborted) :
    Ensures (call env m (.create (some t) api)) w (fun _ x => v.Shows x e)
      fun stop _ => stop = .aborted := by
  rw [ensures_call addon, callAddon, ensures_bind]
  refine (create_exits (I := fun x => v.Shows x e) (fun _ _ idle shown =>
    shown.later idle.stirs.trace) (constructed.mono ?_ fun _ _ aborted going =>
      absurd aborted going))
  rintro _ x ⟨⟨h, rfl⟩, shown⟩
  exact (announced_obeys tells.spares x).mono (fun _ _ after => shown.later after.returned.trace)
    fun _ _ stopped going => shown.later (stopped.stopped going).trace

/-! ### Panics -/

theorem guard_panics {operation : String} {fallback : α} {act : Act σ ν α}
    (ordinary : ∀ d, p ≠ .defect d) (panicked : act w = .error (.unwinding p) u)
    (unbound : u.sink = none) : guard operation fallback act w = .ok fallback u := by
  have caught : observe act w = .ok (.error p) u := by rw [observe_eq, panicked]
  rw [guard, bind_of_ok caught]
  cases p with
  | defect d => exact absurd rfl (ordinary d)
  | text message => exact bind_of_ok (Log.emit_unbound unbound _ _)
  | other => exact bind_of_ok (Log.emit_unbound unbound _ _)

theorem create_panics (tells : env.Tells) (addon : env.modules.native m = none)
    (ordinary : ∀ d, p ≠ .defect d)
    (began : begin env m t api (w.creating m t api) = .error (.unwinding p) v)
    (still : (w.creating m t api).Still v) :
    call env m (.create (some t) api) w =
      .ok (.status Status.permanentFailure.toRaw) { v with sink := none } := by
  have bound : v.sink = some t :=
    (((ensures_error began).mp (begin_obeys tells _)).unwound.holds still).sink
  have constructed : construct env m t api (w.creating m t api) = .error (.unwinding p) v := by
    rcases bind_error began with stopped | ⟨_, u, logged, stopped⟩
    · exact ((ensures_error stopped).mp (Log.debug_talks.idles _)).elim
    · rw [construct, bind_of_ok logged, bind_of_error stopped]
  have observed : observe (construct env m t api) (w.creating m t api) = .ok (.error p) v := by
    rw [observe_eq, constructed]
  -- The sink is unbound on the way out, before the guard logs the panic.
  have unbound : (Act.unbind t : Act σ ν Unit) v = .ok () { v with sink := none } :=
    congrArg (EStateM.Result.ok ()) (if_pos bound)
  have created : create env m (some t) api (w.entered m (.create (some t) api)) =
      .ok .permanentFailure { v with sink := none } := by
    refine guard_panics ordinary ?_ rfl
    dsimp only
    exact (bind_of_ok rfl).trans ((bind_of_ok observed).trans (bind_of_ok unbound))
  have called : call env m (.create (some t) api) w =
      callAddon env m (.create (some t) api) (w.entered m (.create (some t) api)) := by
    rw [call, addon]
    rfl
  rw [called]
  exact bind_of_ok created

/-! ### Every create -/

/-- What the host behind an interface hears of a create that its addon's own code leaves to the
module: why nothing is installed, or nothing at all of a panic. -/
structure Reports (env : Env σ ν) (m : String) : Prop where
  failures : ∀ {w v : World σ ν} {t api l built status message},
    begin env m t api (w.creating m t api) = .ok built v → (w.creating m t api).Still v →
    v.loaded.get? t = some l → l.Hears → w.facade.installed.passes .error →
    shortfall? l (m ∈ w.busy) built = some (status, message) →
    Ensures (call env m (.create (some t) api)) w
      (fun answer x => answer = .status status.toRaw ∧ v.Shows x (.errs t message))
      fun e x => e = .aborted ∧ v.Shows x (.errs t message)
  /-- Otherwise the context is installed. -/
  successes : ∀ {w v : World σ ν} {t api l c},
    begin env m t api (w.creating m t api) = .ok (.ok c) v → (w.creating m t api).Still v →
    v.loaded.get? t = some l →
    shortfall? l (m ∈ w.busy) (.ok c : Except AddonError (Context σ)) = none →
    Ensures (call env m (.create (some t) api)) w (fun _ x => v.Shows x (.installed c.root.object))
      fun e _ => e = .aborted
  /-- Nobody hears anything after a panic. -/
  panics : ∀ {w v : World σ ν} {t api p}, (∀ d, p ≠ .defect d) →
    begin env m t api (w.creating m t api) = .error (.unwinding p) v →
    (w.creating m t api).Still v →
    call env m (.create (some t) api) w =
      .ok (.status Status.permanentFailure.toRaw) { v with sink := none }

/-- A create that installs nothing has told the host why, unless the code that builds the addon
panicked. -/
theorem creates_report (modules : Modules σ ν) (unloading : Bool) (depth : Nat)
    (addon : modules.native m = none) : Reports (Exports.env modules unloading depth) m := by
  have tells := env_tells modules unloading depth
  have grows := (env_opens_growing modules unloading depth).toPermits
  have addon : (Exports.env modules unloading depth).modules.native m = none := by
    rwa [env_modules]
  refine ⟨fun began still here hears passes short => ?_, fun began still here fits => ?_,
    fun ordinary began still => create_panics tells addon ordinary began still⟩
  · exact create_falls_short addon
      (construct_falls_short tells grows began still here hears passes short)
  · exact create_succeeds tells addon (construct_succeeds tells began still here fits)

theorem creates_report_device :
    let t : TableId := ⟨0, 0⟩
    let l : Loaded := { module := "speaker", libPath := .empty, host := {} }
    let w : World Unit Unit := { memory := fun _ => (), loaded := [(t, l)] }
    let addon : Addon Unit Unit := { build := fun _ => .done (.error (.custom "no device")) }
    Ensures (call (Exports.env { addon := fun _ => addon } false 1) "speaker"
        (.create (some t) none)) w
      (fun answer x => answer = .status Status.permanentFailure.toRaw ∧
        w.Shows x (.host t (.log .error "Failed to create addon: no device")))
      fun e _ => e = .aborted := by
  intro t l w addon
  have reports := creates_report (m := "speaker") { addon := fun _ => addon } false 1 rfl
  have began : begin (Exports.env { addon := fun _ => addon } false 1) "speaker" t none
      (w.creating "speaker" t none) = .ok (.error (.custom "no device")) _ := rfl
  have whole : withoutNul ("Failed to create addon: " ++ (AddonError.custom "no device").message) =
      "Failed to create addon: no device" := by decide
  have told := reports.failures (l := l) began (fun m entry shown => ?_) rfl ⟨{}, rfl, rfl, rfl⟩ rfl rfl
  · rw [Event.errs, whole] at told
    refine told.mono ?_ fun _ _ => And.left
    rintro answer x ⟨rfl, shown⟩
    exact ⟨rfl, shown.earlier ⟨[_, _, _], rfl⟩⟩
  · exact absurd ((Shows.of_trace (l := [_, _]) rfl).mp shown) (by simp)

/-- A create whose addon panics is not reported. -/
theorem create_panics_unheard :
    let t : TableId := ⟨0, 0⟩
    let l : Loaded := { module := "speaker", libPath := .empty, host := {} }
    let w : World Unit Unit := { memory := fun _ => (), loaded := [(t, l)] }
    let addon : Addon Unit Unit := { build := fun _ => .panic (.text "no device") }
    l.Hears ∧ ∃ x, call (Exports.env { addon := fun _ => addon } false 1) "speaker"
        (.create (some t) none) w = .ok (.status Status.permanentFailure.toRaw) x ∧
      x.contexts.get? (.module "speaker") = none ∧
      ∀ message, ¬w.Shows x (.host t (.log .error message)) := by
  intro t l w addon
  have ends : endsWith (call (Exports.env { addon := fun _ => addon } false 1) "speaker"
      (.create (some t) none)) w (fun answer x =>
        answer = .status Status.permanentFailure.toRaw ∧
          (x.contexts.get? (.module "speaker")).isNone ∧
          (w.since x).all fun e => !e.isError) := by
    decide +kernel
  obtain ⟨answer, x, ended, read⟩ := exists_ended ends
  obtain ⟨rfl, vacant, silent⟩ := of_decide_eq_true read
  refine ⟨⟨{}, rfl, rfl, rfl⟩, x, ended, Option.isNone_iff_eq_none.mp vacant, fun message shown => ?_⟩
  have member := (Shows.iff_since (List.nil_suffix (l := x.trace))).mp shown
  exact absurd (List.all_eq_true.mp silent _ member) Bool.false_ne_true

end Exports

end AddonBridge
