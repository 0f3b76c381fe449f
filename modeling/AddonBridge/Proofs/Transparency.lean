import AddonBridge.Proofs.HostRun
import AddonBridge.Proofs.Installing
import AddonBridge.Proofs.Mirroring
import AddonBridge.Proofs.Texts

/-!
# The boundary is transparent

A host that drives an addon through its interface gets the answers that the addon's context gives, and
the addon gets what the host sent. On the way texts become strings that a NUL ends, handles become
pointers and statuses become numbers, and the slot is in use meanwhile.
-/

namespace AddonBridge

open Act World

variable {σ ν α β : Type} {env : Env σ ν} {m : String} {t : TableId} {seat : Seat}
  {w w' u u' : World σ ν}

/-! ### Slots in use -/

namespace World

/-- A slot that is not empty counts as created anyway. -/
theorem Created.busy {busy : List String} {c : Context σ}
    (here : w.contexts.get? (.module m) = some c) (n : String) :
    Created { w with busy := m :: busy } n ↔ Created { w with busy := busy } n := by
  unfold Created
  dsimp only
  by_cases same : n = m
  · simp [same, here]
  · simp [same]

theorem Mirrors.inUse (mirrors : Mirrors (.module m) seat w w') :
    Mirrors (.module m) seat (w.inUse m) w' := by
  obtain ⟨c, here, -⟩ := mirrors.context
  exact { mirrors with created := fun n => (Created.busy here n).trans (mirrors.created n) }

theorem Mirrors.released {busy : List String} (mirrors : Mirrors (.module m) seat w w')
    (used : w.busy = m :: busy) : Mirrors (.module m) seat { w with busy := busy } w' := by
  obtain ⟨c, here, -⟩ := mirrors.context
  refine { mirrors with created := fun n => (Created.busy here n).symm.trans ?_ }
  rw [← used]
  exact mirrors.created n

theorem Mirrors.entered (mirrors : Mirrors (.module m) seat w w') (entry : EntryCall) :
    Mirrors (.module m) seat (w.entered m entry) w' :=
  { mirrors with story := mirrors.story }

theorem Mirrors.located (mirrors : Mirrors (.module m) seat w w') (locations : List (Option UInt64)) :
    Mirrors (.module m) seat (w.setLocations m locations) w' :=
  { mirrors with story := mirrors.story }

end World

namespace Exports

/-- An act came back with an answer and left the slots as free as they were, in a world that mirrors
another one. -/
def Came (m : String) (seat : Seat) (w u' : World σ ν) (answer : α) (a : α) (u : World σ ν) : Prop :=
  a = answer ∧ u.busy = w.busy ∧ Mirrors (.module m) seat u u'

theorem Came.map {a b : α} (h : Came m seat w u' a b u) (f : α → β) :
    Came m seat w u' (f a) (f b) u := by
  obtain ⟨rfl, after⟩ := h
  exact ⟨rfl, after⟩

/-- An act in the slot comes to what it would come to in another seat. -/
theorem withSlot_mirrors {act act' : Act σ ν α} {a : α} {name : String} {default : α}
    (shadows : Shadows (Mirrors (.module m) seat) act act')
    (spares : Obeys (Sparing (some (.module m))) act) (free : m ∉ w.busy)
    (mirrors : Mirrors (.module m) seat w w') (given : act' w' = .ok a u') (still : w'.Still u') :
    Ensures (withSlot m name default act) w (Came m seat w u' a) fun _ _ => False := by
  obtain ⟨c, here, -⟩ := mirrors.context
  obtain ⟨u, done, mirrored⟩ := ((ensures_ok given).mp (shadows w')).holds still _ mirrors.inUse
  have used : u.busy = m :: w.busy := ((ensures_ok done).mp (spares _)).returned.busy
  refine withSlot_reaches free here ?_
  rw [ensures_holding]
  refine (ensures_ok done).mpr ⟨rfl, ?_, mirrored.released ?_⟩
  · rw [used, List.erase_cons_head]
  · rw [used, List.erase_cons_head]

section Calls

variable (spares : env.Spares) (echoes : env.Echoes (.module m) seat)
  (addon : env.modules.native m = none) (free : m ∉ w.busy) (mirrors : Mirrors (.module m) seat w w')
  (still : w'.Still u')
include spares echoes addon free mirrors still

theorem call_status_mirrors {s : Status} (given : Dispatch.status env seat w' = .ok s u') :
    Ensures (call env m .status) w (Came m seat w u' (.status s.toRaw)) fun _ _ => False := by
  rw [ensures_call addon, callAddon, ensures_bind]
  exact guard_returns ((withSlot_mirrors (w := w.entered m .status) (Dispatch.status_shadows echoes)
    (Dispatch.status_obeys (spares.tends _)) free (mirrors.entered _) given still).mono
      (fun _ _ came => came.map fun s => CallAnswer.status s.toRaw) fun _ _ => id)

theorem call_setSetting_mirrors {name : CString} {value : Option SettingValue} {s : Status}
    (given : Dispatch.setSetting env seat name.text value w' = .ok s u') :
    Ensures (call env m (.setSetting (some name) value)) w (Came m seat w u' (.status s.toRaw))
      fun _ _ => False := by
  rw [ensures_call addon, callAddon, ensures_bind]
  exact guard_returns ((withSlot_mirrors (w := w.entered m _) (Dispatch.setSetting_shadows echoes)
    (Dispatch.setSetting_obeys (spares.tends _)) free (mirrors.entered _) given still).mono
      (fun _ _ came => came.map fun s => CallAnswer.status s.toRaw) fun _ _ => id)

theorem call_createInstance_mirrors {ty : AddonType} {id version : CString} {host : HostHandle}
    {out : UInt64} {parent : Option InstanceHandle} {answer : Status × Option InstanceHandle}
    (given : Dispatch.createInstance env seat ty id.text host version.text parent w' =
      .ok answer u') :
    Ensures (call env m (.createInstance ty (some id) host (some version) (some out)
        (InstanceHandle.toRaw parent))) w
      (Came m seat w u' (.created answer.1.toRaw (some (InstanceHandle.toRaw answer.2))))
      fun _ _ => False := by
  rw [ensures_call addon, callAddon, ensures_bind]
  unfold createInstance
  rw [ensures_withLocation]
  refine guard_returns ?_
  dsimp only
  rw [ensures_bind, ensures_writeLocation, locations_setLocations, setLocations_setLocations,
    ensures_bind, InstanceHandle.ofRaw?_toRaw]
  have obeys : Obeys (Sparing (some (.module m)))
      (Dispatch.createInstance env (.module m) ty id.text host version.text parent) :=
    Dispatch.createInstance_obeys (spares.tends _)
  have mirrored (entry : EntryCall) : Mirrors (.module m) seat (w.locating m entry) w' :=
    (mirrors.entered entry).located _
  refine ((withSlot_mirrors (w := w.locating m _) (Dispatch.createInstance_shadows echoes) obeys free
    (mirrored _) given still).and (withSlot_obeys spares.opens.serves obeys _)).mono
      (fun a u ended => ?_) fun _ _ => And.left
  obtain ⟨⟨rfl, after⟩, spared⟩ := ended
  have placed := congrFun spared.returned.locations m
  obtain ⟨s, _ | h⟩ := a
  · refine ⟨?_, after.1, after.2.located _⟩
    simp [placed, InstanceHandle.toRaw]
  · refine ⟨?_, after.1, (after.2.located _).located _⟩
    simp [placed, InstanceHandle.toRaw]

theorem call_destroyInstance_mirrors {ty : AddonType} {handle : InstanceHandle}
    (given : Dispatch.destroyInstance env seat ty (some handle) w' = .ok () u') :
    Ensures (call env m (.destroyInstance ty handle.raw)) w (Came m seat w u' .done)
      fun _ _ => False := by
  have crossed : InstanceHandle.ofRaw? handle.raw = some handle :=
    InstanceHandle.ofRaw?_toRaw (some handle)
  rw [ensures_call addon, callAddon, ensures_bind]
  refine guard_returns ?_
  rw [crossed]
  exact (withSlot_mirrors (w := w.entered m _) (Dispatch.destroyInstance_shadows echoes)
    (Dispatch.destroyInstance_obeys (spares.tends _)) free (mirrors.entered _) given still).mono
      (fun _ _ came => came.map fun _ => CallAnswer.done) fun _ _ => id

end Calls

end Exports

namespace LoadedAddon

/-! ### Operations and requests -/

/-- An operation of the host asks for a request, if no NUL cuts its texts short. -/
inductive Operation.Asks : Operation → Dispatch.Operation → Prop
  | status : Asks .status .status
  | setSetting {name : String} {value : SettingInput} (whole : '\x00' ∉ name.toList) :
    Asks (.setSetting name value) (.setSetting name (some value.stored))
  | createInstance {ty : AddonType} {id version : String} {host : HostHandle}
    {parent : Option InstanceHandle} (whole : '\x00' ∉ id.toList) (whole' : '\x00' ∉ version.toList) :
    Asks (.createInstance ty id host version parent) (.createInstance ty id host version parent)
  | destroyInstance {ty : AddonType} {handle : InstanceHandle} :
    Asks (.destroyInstance ty handle) (.destroyInstance ty (some handle))

/-- What an operation gives back when the request that it asks for has an answer. -/
def Result.ofAnswer : Dispatch.Answer → Result
  | .done => .done
  | .status s => .status s
  | .instance s h => .instance s h

/-- Does an operation with the addon that is loaded on an interface, if there is one. -/
def operate (env : Env σ ν) (t : TableId) (operation : Operation) :
    Act σ ν (Option (Except HostError Result)) := do
  match ← Act.loaded? t with
  | some l => some <$> perform env t l operation
  | none => return none

/-- A host drives the addon in a module's slot through an interface, in a world that mirrors one in
which the context is driven directly. -/
structure Drives (t : TableId) (m : String) (seat : Seat) (w w' : World σ ν) : Prop
    extends Mirrors (.module m) seat w w' where
  linked : w.Linked t m
  free : m ∉ w.busy

variable {l : Loaded}

theorem registered_full (created : l.isCreated) (functions : l.addonTable = .full m)
    (f : AddonFunction) : registered l f = .ok m := by
  rw [registered, if_pos created, functions]
  rfl

theorem encoded_whole {s : String} (whole : '\x00' ∉ s.toList) :
    ∃ c, encoded s = .ok c ∧ c.text = s := by
  obtain ⟨c, crossed⟩ := CString.exists_ofText? whole
  exact ⟨c, by rw [encoded, crossed], CString.text_of_ofText? crossed⟩

theorem ensures_send {c : EntryCall} {Q : Except HostError CallAnswer → World σ ν → Prop}
    {E : Stop → World σ ν → Prop} :
    Ensures (send env (.ok (m, c))) w Q E ↔
      Ensures (Exports.call env m c) w (fun a u => Q (.ok a) u) E := by
  rw [send, ensures_bind]
  rfl

/-- An operation gives back what the request in the other seat gives. -/
theorem perform_mirrors (spares : env.Spares) (echoes : env.Echoes (.module m) seat)
    (addon : env.modules.native m = none) {operation : Operation} {request : Dispatch.Operation}
    {answer : Dispatch.Answer} (asks : operation.Asks request) (created : l.isCreated)
    (functions : l.addonTable = .full m) (free : m ∉ w.busy)
    (mirrors : Mirrors (.module m) seat w w')
    (given : Dispatch.perform env seat request w' = .ok answer u') (still : w'.Still u') :
    Ensures (perform env t l operation) w (Exports.Came m seat w u' (.ok (.ofAnswer answer)))
      fun _ _ => False := by
  have registered := registered_full created functions
  cases asks with
  | status =>
    obtain ⟨s, came, rfl⟩ := map_ok given
    rw [perform, ensures_bind, LoadedAddon.status, ensures_bind, registered]
    refine ensures_send.mpr ((Exports.call_status_mirrors spares echoes addon free mirrors still
      came).mono ?_ fun _ _ => id)
    rintro _ u ⟨rfl, after⟩
    exact ⟨by simp [Except.map, statusOf, Status.ofRaw_toRaw, Result.ofAnswer], after⟩
  | setSetting whole =>
    obtain ⟨s, came, rfl⟩ := map_ok given
    obtain ⟨name, crossed, rfl⟩ := encoded_whole whole
    rw [perform, ensures_bind, LoadedAddon.setSetting, ensures_bind, registered, crossed]
    refine ensures_send.mpr ((Exports.call_setSetting_mirrors spares echoes addon free mirrors still
      came).mono ?_ fun _ _ => id)
    rintro _ u ⟨rfl, after⟩
    exact ⟨by simp [Except.map, statusOf, Status.ofRaw_toRaw, Result.ofAnswer], after⟩
  | createInstance whole whole' =>
    obtain ⟨⟨s, h⟩, came, rfl⟩ := map_ok given
    obtain ⟨id, crossed, rfl⟩ := encoded_whole whole
    obtain ⟨version, crossed', rfl⟩ := encoded_whole whole'
    rw [perform, ensures_bind, LoadedAddon.createInstance, ensures_bind, registered, crossed,
      crossed']
    refine ensures_send.mpr ((Exports.call_createInstance_mirrors spares echoes addon free mirrors
      still came).mono ?_ fun _ _ stopped => stopped)
    rintro _ u ⟨rfl, after⟩
    refine ⟨?_, after⟩
    simp [Except.map, statusOf, handleOf, Status.ofRaw_toRaw, InstanceHandle.ofRaw?_toRaw,
      Result.ofAnswer]
  | destroyInstance =>
    obtain ⟨_, came, rfl⟩ := map_ok given
    rw [perform, ensures_bind, LoadedAddon.destroyInstance, ensures_bind, registered]
    refine ensures_send.mpr ((Exports.call_destroyInstance_mirrors spares echoes addon free mirrors
      still came).mono ?_ fun _ _ => id)
    rintro _ u ⟨-, after⟩
    exact ⟨rfl, after⟩

/-- What the host gets from an operation is what the context gives when it is asked directly. -/
theorem operate_shadows (tells : env.Tells) (echoes : env.Echoes (.module m) seat)
    (addon : env.modules.native m = none) {operation : Operation} {request : Dispatch.Operation}
    (asks : operation.Asks request) :
    Shadows (Drives t m seat) (operate env t operation)
      ((fun answer => some (.ok (.ofAnswer answer))) <$> Dispatch.perform env seat request) := by
  intro w'
  rw [ensures_map]
  refine ((Ensures.eq _).and ((Dispatch.perform_shadows echoes request w').and
    (Dispatch.perform_obeys (tells.tends seat) request w'))).mono (fun answer u' after => ?_)
    fun _ _ _ => True.intro
  obtain ⟨given, mirrored, kept⟩ := after
  refine ⟨mirrored.trace, fun still w drives => ?_⟩
  obtain ⟨l, there, created, functions⟩ := drives.linked
  have done : Ensures (operate env t operation) w
      (Exports.Came m seat w u' (some (.ok (.ofAnswer answer)))) fun _ _ => False := by
    rw [operate, ensures_bind, ensures_loaded?, there]
    dsimp only
    rw [ensures_map]
    exact (perform_mirrors tells.spares echoes addon asks created functions drives.free
      drives.toMirrors given still).mono (fun _ _ came => came.map some) fun _ _ => id
  obtain ⟨_, u, ended, rfl, busy, mirrors⟩ := done.returns
  have cores : w.SameCores u := by
    intro s
    rw [mirrors.loaded, drives.loaded]
    exact kept.returned.holds still s
  refine ⟨u, ended, { mirrors with linked := drives.linked.kept cores, free := ?_ }⟩
  rw [busy]
  exact drives.free

theorem operations_shadow (tells : env.Tells) (echoes : env.Echoes (.module m) seat)
    (addon : env.modules.native m = none) {operations : List Operation}
    {requests : List Dispatch.Operation} (asks : List.Forall₂ Operation.Asks operations requests) :
    Shadows (Drives t m seat) (operations.mapM (operate env t))
      (List.map (fun answer => some (.ok (.ofAnswer answer))) <$>
        requests.mapM (Dispatch.perform env seat)) := by
  rw [← mapM_map]
  exact .mapM (asks.imp fun _ _ => operate_shadows tells echoes addon)

/-- A create that finds its slot empty and leaves a context in it makes the addon one that can be
driven, unless code enters functions. -/
theorem create_linked (tells : env.Tells) (addon : env.modules.native m = none)
    (own : l.module = m) (free : m ∉ w.busy) (empty : w.contexts.get? (.module m) = none)
    (api : String) :
    Ensures (create env t l api) w
      (fun _ u => (w.entered m (.create (some t) (CString.ofText? api))).Still u →
        (u.contexts.get? (.module m)).isSome → u.Linked t m ∧ m ∉ u.busy)
      fun e _ => e = .aborted := by
  have unchanged : (w.contexts.get? (.module m)).isSome → w.Linked t m ∧ m ∉ w.busy := by simp [empty]
  subst own
  refine create_exits (fun _ => unchanged) fun _ api' crossed => ?_
  rw [crossed, Exports.ensures_call addon, Exports.callAddon, ensures_bind]
  let begun := World.entered
    { w with loaded := w.loaded.modify t fun l => { l with isCreated := true } }
    l.module (.create (some t) (some api'))
  have counted (l' : Loaded) (found : begun.loaded.get? t = some l') : l'.isCreated := by
    obtain ⟨_, -, rfl⟩ : ∃ l₀, w.loaded.get? t = some l₀ ∧ { l₀ with isCreated := true } = l' := by
      simpa [begun, World.entered, Assoc.get?_modify] using found
    rfl
  have spared := tells.spares.opens.serves.created True.intro l.module (some t) (some api') begun
  refine ((Exports.create_links (w := begun) tells free empty counted).and spared).mono
    (fun _ u ended => ?_) fun _ _ => And.left
  obtain ⟨links, spared⟩ := ended
  refine fun still here => ⟨links.holds still here, ?_⟩
  rw [spared.returned.busy]
  exact free

/-- A host that drives an addon in a module's slot, as it can once a create has put a context there,
gets the same as if it asked the context itself, operation by operation: the same statuses and handles
come back, the same callbacks run with the same arguments, and the context ends up the same. This holds
of any operations without NULs in their texts, as long as no code panics, no defect is found and code
enters no functions. -/
theorem operations_transparent (modules : Modules σ ν) (unloading : Bool) (depth : Nat) (m : String)
    (addon : modules.native m = none) :
    (∀ (w : World σ ν) (t : TableId) (l : Loaded) (api : String), l.module = m → m ∉ w.busy →
      w.contexts.get? (.module m) = none →
      Ensures (create (Exports.env modules unloading depth) t l api) w
        (fun _ u => (w.entered m (.create (some t) (CString.ofText? api))).Still u →
          (u.contexts.get? (.module m)).isSome → u.Linked t m ∧ m ∉ u.busy)
        fun e _ => e = .aborted) ∧
    ∀ (w : World σ ν) (t : TableId) (c : Context σ) (home : Nat) (operations : List Operation)
      (requests : List Dispatch.Operation) (answers : List Dispatch.Answer) (u' : World σ ν),
      w.Linked t m → m ∉ w.busy → w.contexts.get? (.module m) = some c →
      List.Forall₂ Operation.Asks operations requests →
      requests.mapM (Dispatch.perform (Exports.env modules unloading depth) (.direct home))
        { w with contexts := w.contexts.set (.direct home) c } = .ok answers u' →
      w.Still u' →
      ∃ u, operations.mapM (operate (Exports.env modules unloading depth) t) w =
          .ok (answers.map fun answer => some (.ok (.ofAnswer answer))) u ∧
        u.story = u'.story ∧
        ∃ c', u.contexts.get? (.module m) = some c' ∧
          u'.contexts.get? (.direct home) = some c' := by
  have addon : (Exports.env modules unloading depth).modules.native m = none := by
    rwa [Exports.env_modules]
  have tells := Exports.env_tells modules unloading depth
  refine ⟨fun w t l api own free empty => create_linked tells addon own free empty api, ?_⟩
  intro w t c home operations requests answers u' linked free here asks given still
  have drives : Drives t m (.direct home) w { w with contexts := w.contexts.set (.direct home) c } :=
    { memory := rfl, loaded := rfl, facade := rfl, sink := rfl, made := rfl, story := rfl
      context := ⟨c, here, by simp [Assoc.get?_set]⟩
      created := fun n => by simp [World.Created, Assoc.get?_set]
      linked, free }
  have shadows := operations_shadow (t := t) tells
    (Exports.env_echoes modules unloading depth _ (.direct home)) addon asks
  obtain ⟨u, done, drives⟩ := ((ensures_ok (map_of_ok given)).mp (shadows _)).holds still w drives
  exact ⟨u, done, drives.story, drives.context⟩

theorem operations_transparent_decoders :
    let t : TableId := ⟨0, 0⟩
    let l : Loaded := { module := "decoders", libPath := .empty, host := {} }
    let start : World Unit Unit := { memory := fun _ => (), loaded := [(t, l)] }
    let env := Exports.env Modules.decoders false 1
    let h := InstanceHandle.root.succ
    ∃ w u, create env t l "1.0" start = .ok (.ok .ok) w ∧ w.Linked t "decoders" ∧
      [.status, .setSetting "volume" (.int 5), .createInstance ⟨102⟩ "a" .null "1.0" none,
          .destroyInstance ⟨102⟩ h].mapM (operate env t) w =
        .ok [some (.ok (.status .ok)), some (.ok (.status .unknown)),
          some (.ok (.instance .ok (some h))), some (.ok .done)] u := by
  intro t l start env h
  obtain ⟨created, driven⟩ :=
    operations_transparent (ν := Unit) Modules.decoders false 1 "decoders" rfl
  have came : create env t l "1.0" start = .ok (.ok .ok)
      { memory := fun _ => ()
        loaded := [(t, { l with addonBase := 1, addonTable := .full "decoders", isCreated := true })]
        contexts := [(.module "decoders", { root := ⟨⟨t, 0⟩, ⟨"decoders", t⟩, none⟩ })]
        facade := ⟨some .sink, some .debug⟩, sink := some t, made := fun s => if s = t then 1 else 0
        trace := [.called ⟨t, 0⟩ .created, .installed ⟨t, 0⟩, .built ⟨t, 0⟩,
          .building ⟨t, 0⟩ ⟨"decoders", t⟩, .host t (.log _ _), .entered "decoders" (.create _ _)] } := rfl
  have asks : List.Forall₂ Operation.Asks
      [.status, .setSetting "volume" (.int 5), .createInstance ⟨102⟩ "a" .null "1.0" none,
        .destroyInstance ⟨102⟩ h]
      [.status, .setSetting "volume" (some (SettingInput.int 5).stored),
        .createInstance ⟨102⟩ "a" .null "1.0" none, .destroyInstance ⟨102⟩ (some h)] :=
    .cons .status (.cons (.setSetting (by decide))
      (.cons (.createInstance (by decide) (by decide)) (.cons .destroyInstance .nil)))
  have settled := (ensures_ok came).mp (created start t l "1.0" rfl List.not_mem_nil rfl)
  obtain ⟨linked, free⟩ := settled
    (fun m entry shown => absurd ((Shows.of_trace (l := [_, _, _, _, _]) rfl).mp shown) (by simp)) rfl
  have drive := driven _ t _ 0 _ _ [.status .ok, .status .unknown, .instance .ok (some h), .done] _
    linked free rfl asks rfl
  obtain ⟨u, done, -⟩ := drive
    fun m entry shown => absurd ((Shows.of_trace (l := [_, _, _, _, _, _]) rfl).mp shown) (by simp)
  exact ⟨_, u, came, linked, done⟩

end LoadedAddon

end AddonBridge
