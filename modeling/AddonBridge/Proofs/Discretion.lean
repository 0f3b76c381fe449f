import AddonBridge.Proofs.Handles
import AddonBridge.Proofs.Requests

/-!
# The discretion of calls

Nothing that code calls reaches the objects of a context in use: the functions of every module keep
to this, those that create and destroy included, at every depth.
-/

namespace AddonBridge

open Act World

variable {σ ν α : Type} {env : Env σ ν} {seat : Seat} {c : Context σ} {among : List ObjectId}
  {w u v : World σ ν} {k : Option Stop} {m : String} {t : TableId} {api : Option CString}

namespace Dispatch

/-! ### Requests to the context in a seat -/

theorem Asked.own {r : Request} {parent : Option InstanceHandle} {os : List ObjectId}
    {passed : Option (Offer σ)} {result : EStateM.Result Stop (World σ ν) (Offer σ)}
    (h : Asked env c r parent w os passed result) : ∀ x ∈ os, x ∈ c.names := by
  have root : c.root.object ∈ c.names := List.mem_cons_self
  cases h with
  | root orphan idle => simpa using root
  | parent given proper live able => simpa using Context.mem_names live
  | fallback given proper live passed unable => simpa using ⟨Context.mem_names live, root⟩

theorem createInstance_spoke (hushes : env.Hushes) (ty : AddonType) (id : String)
    (host : HostHandle) (version : String) (parent : Option InstanceHandle)
    (h : Under seat c among w [] none w) :
    Ensures (createInstance env seat ty id host version parent) w
      (fun _ u => Spoke seat c among w none u) fun e u => Spoke seat c among w (some e) u := by
  refine (createInstance_under hushes ty id host version parent h).mono (fun a u ended => ?_)
    fun e u stopped => ?_
  · obtain ⟨_, _, _, _, asked, -, c', -, under⟩ := ended
    exact ⟨_, c', List.forall_mem_map.mpr asked.own, under⟩
  · obtain ⟨_, _, _, asked, -, under⟩ := stopped
    exact ⟨_, c, List.forall_mem_map.mpr asked.own, under⟩

theorem destroyInstance_spoke (hushes : env.Hushes) (ty : AddonType)
    (handle : Option InstanceHandle) (h : Under seat c among w [] none w) :
    Ensures (destroyInstance env seat ty handle) w
      (fun _ u => Spoke seat c among w none u) fun e u => Spoke seat c among w (some e) u := by
  have here := h.ongoing.here
  have silent : ∀ p ∈ ([] : List (ObjectId × Callback)), p.1 ∈ c.names := by simp
  have idles (nothing : c.single.isSome ∨
      ∀ p, handle = some p → p ≠ .root → c.instances.get? p = none) :
      Ensures (destroyInstance env seat ty handle) w
        (fun _ u => Spoke seat c among w none u) fun e u => Spoke seat c among w (some e) u :=
    (destroyInstance_idle here nothing).mono
      (fun _ u idle => ⟨[], c, silent, h.continues returned_ne (.idle idle)⟩) fun _ _ => False.elim
  by_cases multiple : c.single = none
  swap
  · exact idles (.inl (Option.isSome_iff_ne_none.mpr multiple))
  rcases designated c handle with ⟨p, i, rfl, proper, live⟩ | nothing
  swap
  · exact idles (.inr nothing)
  by_cases fits : i.descriptor.instanceType = ty
  · exact (destroyInstance_under hushes h multiple proper live fits).mono
      (fun _ _ ended => ⟨_, _, c.root_own _, ended.1⟩)
      fun _ _ stopped => ⟨_, _, c.root_own _, stopped.1⟩
  · refine (destroyInstance_mismatch here multiple proper live fits).mono (fun _ _ => False.elim)
      fun e u stopped => ?_
    have raised : Under seat c among w [] none
        { w with trace := .raised (.destroyedTypeMismatch ty i.descriptor.instanceType) :: w.trace } :=
      h.continues returned_ne (.record fun _ => rfl)
    obtain ⟨rfl, idle⟩ := stopped
    exact ⟨[], c, silent, (raised.continues returned_ne (.idle idle)).relax fun _ => returned_ne⟩

theorem withRoot_hushes (hushes : env.Hushes) {default : α} (cb : Callback)
    (q : Addon σ ν → Site → Program σ ν Payload α) :
    Obeys (Hushing (some seat)) (withContext seat default fun c => callRoot env c cb q) :=
  withContext_hushes (withRoot_obeys (hushes.spares.permits (some seat)) cb q)
    fun _ _ _ => withRoot_spoke hushes cb default q

theorem lawful_hushes (hushes : env.Hushes) (seat : Seat) :
    Lawful env (Hushing (some seat)) seat where
  status := withRoot_hushes hushes _ _
  setSetting _ _ := withRoot_hushes hushes _ _
  createInstance ty id host version parent :=
    withContext_hushes ((hushes.spares.tends seat).lawful.createInstance ty id host version parent)
      fun _ _ _ => createInstance_spoke hushes ty id host version parent
  destroyInstance ty handle :=
    withContext_hushes ((hushes.spares.tends seat).lawful.destroyInstance ty handle)
      fun _ _ _ => destroyInstance_spoke hushes ty handle

/-! ### Building and installing -/

/-- A context was built whose names were given out meanwhile, and is in no seat yet. -/
structure Laid (w : World σ ν) (c : Context σ) (u : World σ ν) : Prop where
  hushing : Hushing none w none u
  distinct : c.names.Nodup
  unused : ∀ x ∈ c.names, ¬w.Reserves x
  reserved : w.Tidy → ∀ x ∈ c.names, u.Reserves x

theorem Laid.continues (laid : Laid w c u) (next : Hushing none u none v) : Laid w c v where
  hushing := Hushing.law.trans laid.hushing next
  distinct := laid.distinct
  unused := laid.unused
  reserved tidy x member := by
    have hushed := next.hushed ((laid.hushing.hushed tidy).tidy returned_ne)
    exact hushed.reserves returned_ne x (laid.reserved tidy x member)

theorem Laid.earlier (idle : w.Idle u) (laid : Laid u c v) : Laid w c v where
  hushing := Hushing.law.trans (.idle idle) laid.hushing
  distinct := laid.distinct
  unused x member reserved := laid.unused x member (reserved.same idle.contexts idle.made)
  reserved tidy := laid.reserved (tidy.same idle.contexts idle.made)

theorem freshObject_laid (t : TableId) (w : World σ ν) :
    Ensures (freshObject t) w
      (fun o u => ∀ site single, Laid w ({ root := ⟨o, site, single⟩ } : Context σ) u)
      fun _ _ => False := by
  rw [ensures_freshObject]
  refine fun site single => ⟨.quiet (l := []) rfl rfl rfl (Owned.made_le w t) rfl (by simp),
    List.nodup_singleton _, fun x member reserved => ?_, fun tidy x member => ?_⟩
  · cases List.mem_singleton.mp member
    exact absurd reserved.named (Nat.lt_irrefl _)
  · cases List.mem_singleton.mp member
    refine ⟨by simp, fun seat c here within => ?_⟩
    exact absurd (tidy.numbered seat c here _ within) (Nat.lt_irrefl _)

theorem build_hushes (hushes : env.Hushes) (m : String) (t : TableId) (w : World σ ν) :
    Ensures (build env m t) w
      (fun built u => match built with
        | .ok c => Laid w c u
        | .error _ => Hushing none w none u)
      fun e u => Hushing none w (some e) u := by
  rw [build, ensures_bind]
  refine (freshObject_laid t w).mono (fun o u laid => ?_) fun _ _ => False.elim
  rw [ensures_bind, ensures_record, ensures_bind]
  have building : Hushing none u none { u with trace := .building o ⟨m, t⟩ :: u.trace } :=
    .record fun _ => rfl
  have before := (laid ⟨m, t⟩ none).hushing
  refine (Env.callback_obeys hushes.keeps m (Program.all_true _) _).mono (fun built v ran => ?_)
    fun e v stopped => Hushing.law.trans before (Hushing.law.trans building stopped)
  cases built with
  | ok single =>
    rw [ensures_bind, ensures_record]
    exact (laid ⟨m, t⟩ single).continues
      (Hushing.law.trans (Hushing.law.trans building ran) (.record fun _ => rfl))
  | error e => exact Hushing.law.trans before (Hushing.law.trans building ran)

end Dispatch

namespace Exports

open Dispatch

/-- A slot takes a context that was built, and the one before it goes. -/
theorem install_hushes (hushes : env.Hushes) (laid : Laid w c u) :
    Ensures (install env m c) u (fun _ v => Hushing none w none v)
      fun e v => Hushing none w (some e) v := by
  rw [install, ensures_bind, ensures_isBusy, ensures_ite]
  refine ⟨fun _ => ?_, fun free => ?_⟩
  · have dropped : Obeys (Hushing none) (do
        Log.error "Host re-entered the addon during 'create'"
        dropContext env c
        return false : Act σ ν Bool) :=
      .bind Hushing.law (Log.error_talks.obeys hushes.keeps.talk) fun _ =>
        .bind Hushing.law (dropContext_hushes hushes c) fun _ => .pure Hushing.law _
    exact dropped.continues Hushing.law laid.hushing
  · have free : m ∉ w.busy := by
      rw [← (laid.hushing.spares returned_ne).busy]
      simpa using free
    -- The slot counts as in use from here on: what goes cannot call the context that comes in.
    have seated : Hushing (some (.module m)) (w.inUse m) none (u.seating m c) := by
      refine Hushing.law.trans (laid.hushing.enter.place laid.distinct (fun x member reserved => ?_)
        fun tidy x member => ?_) (.record fun _ => rfl)
      · exact laid.unused x member (reserved.same rfl rfl)
      · exact (laid.reserved (tidy.same rfl rfl) x member).same rfl rfl
    have gone {act : Act σ ν Unit} (obeys : Obeys (Hushing none) act) :=
      (obeys.mono fun _ _ _ hushed => hushed.weaken).continues Hushing.law seated
    rw [ensures_bind]
    refine Hushing.holding free ?_
    rw [ensures_bind, ensures_context?, ensures_bind, ensures_setContext, ensures_bind,
      ensures_record]
    cases u.contexts.get? (.module m) with
    | some old =>
      exact gone (.bind Hushing.law (dropContext_hushes hushes old) fun _ =>
        Log.warn_talks.obeys hushes.keeps.talk)
    | none => exact gone (.pure Hushing.law ())

theorem construct_hushes (hushes : env.Hushes) (m : String) (t : TableId) (api : Option CString) :
    Obeys (Hushing none) (construct env m t api) := by
  intro w
  have law : Law (Hushing none : Change σ ν) := Hushing.law
  refine (construct_exits (F := fun u => Hushing none w none u) (B := Laid w) (R := Laid w)
    (K := fun _ u => Hushing none w none u) (fun u v idle before => law.trans before (.idle idle))
    (fun u idle => ?_) (fun c u laid => ?_) (fun c u laid => ?_) fun c u v laid idle => ?_).mono
      (fun built u ended => ?_) fun _ _ => id
  · refine (build_hushes hushes m t u).mono (fun built v ended => ?_)
      fun e v stopped => law.trans (.idle idle) stopped
    cases built with
    | ok c => exact ended.earlier idle
    | error e => exact law.trans (.idle idle) ended
  · have registers : Obeys (Hushing none) (registerFunctions m t : Act σ ν Bool) :=
      registerFunctions_obeys law hushes.keeps.talk fun w => .same rfl rfl rfl rfl rfl
    refine (registers u).mono (fun registered v ended => ?_)
      fun e v stopped => law.trans laid.hushing stopped
    split <;> exact laid.continues ended
  · refine (install_hushes hushes laid).mono (fun installed v ended => ?_) fun _ _ => id
    split <;> exact ended
  · have before := law.trans laid.hushing (.idle idle)
    exact (dropContext_hushes hushes c).continues law before
  · cases built with
    | ok single =>
      obtain ⟨c, -, hushed⟩ := ended
      exact hushed
    | error status => exact ended

theorem destroy_hushes (hushes : env.Hushes) (m : String) : Obeys (Hushing none) (destroy env m) := by
  have law : Law (Hushing none : Change σ ν) := Hushing.law
  refine destroy_permitted hushes.keeps (Dispatch.destroy_hushes hushes) (fun w free => .emptied free)
    (fun w c u free _ dropped => ?_) fun t w => ?_
  · exact law.trans (law.trans (.emptied free) dropped) (.same rfl rfl rfl rfl rfl)
  · rw [ensures_unbind]
    split
    · exact .same rfl rfl rfl rfl rfl
    · exact law.refl w

end Exports

/-- What calls do that create nothing. -/
theorem Env.Hushes.serves_without (hushes : env.Hushes) :
    env.Serves (Hushing none) (fun m => Hushing (some (.module m))) {} False where
  toKeeps := hushes.keeps
  seated m := Dispatch.lawful_hushes hushes (.module m)
  releases := Hushing.releases
  locates := Hushing.locates
  entered _ _ _ := .record fun _ => rfl
  destroyed := Exports.destroy_hushes hushes
  created := False.elim
  relinked := False.elim

namespace Exports

theorem create_hushes (hushes : env.Hushes) (m : String) (t : Option TableId)
    (api : Option CString) : Obeys (Hushing none) (create env m t api) := by
  have law : Law (Hushing none : Change σ ν) := Hushing.law
  refine create_permitted hushes.keeps (fun _ _ => .same rfl rfl rfl rfl rfl)
    (fun _ => .same rfl rfl rfl rfl rfl) fun t _ w => ?_
  refine (construct_hushes hushes m t api w).mono (fun built u ended => ?_) fun _ _ => id
  cases built with
  | ok single =>
    refine Obeys.continues law (.bind law (fun w => ?_) fun _ => ?_) ended
    · exact .same rfl rfl rfl rfl rfl
    · exact withSlot_obeys hushes.serves_without (Dispatch.withRoot_hushes hushes _ _)
  | error status => exact ended

end Exports

theorem Env.Hushes.serves (hushes : env.Hushes) :
    env.Serves (Hushing none) (fun m => Hushing (some (.module m))) {} True where
  toKeeps := hushes.keeps
  seated m := Dispatch.lawful_hushes hushes (.module m)
  releases := Hushing.releases
  locates := Hushing.locates
  entered _ _ _ := .record fun _ => rfl
  destroyed := Exports.destroy_hushes hushes
  created _ := Exports.create_hushes hushes
  relinked _ _ _ _ _ := .same rfl rfl rfl rfl rfl

/-- Calls leave contexts in use as they were, and tell their objects nothing. -/
theorem Exports.env_hushes (modules : Modules σ ν) (unloading : Bool) (depth : Nat) :
    (Exports.env modules unloading depth).Hushes where
  spares := env_spares modules unloading depth
  nested c := env_obeys (p := {}) True (fun _ _ _ => True.intro)
    (fun depth nested => Env.Hushes.serves
      ⟨env_spares modules unloading depth, fun c => nested c True.intro⟩)
    Hushing.law depth c True.intro

end AddonBridge
