import AddonBridge.Proofs.Refusal
import AddonBridge.Proofs.SingleMode

/-!
# The location for a new instance

A host that asks a module for an instance says where the handle goes. What is there after the call
is what the request gave, and a handle that is there is known to the addon; whatever was there
before is gone. Without a location there is no request at all.
-/

namespace AddonBridge

open Act World

variable {σ ν α : Type} {env : Env σ ν} {seat : Seat} {m : String} {c : Context σ}
  {w u v : World σ ν}

namespace Dispatch

/-! ### What a request gives -/

/-- A handle that a request gave is the root's or has an instance, and something implements what was
asked for. -/
def Known (seat : Seat) (answer : Status × Option InstanceHandle) (w : World σ ν) : Prop :=
  ∀ h, answer.2 = some h →
    answer.1 ≠ .notImplemented ∧ (h = .root ∨ (resolve w seat h).isSome)

theorem settle_known (spares : env.Spares) (has : w.Hosts seat c) (r : Request) (o : Offer σ) :
    Ensures (settle env seat c.root.site r o) w
      (fun answer v => v.Holds seat ∧ Known seat answer v)
      fun e v => e ≠ .aborted → v.Hosts seat c := by
  refine ((settle_extends spares has c.root.site r o).and
    (settle_ensures spares has.here r o)).mono (fun answer v ended => ?_) fun _ _ => And.left
  obtain ⟨⟨c', has, extended⟩, same, able, -⟩ := ended
  refine ⟨has.held, fun h given => ⟨?_, ?_⟩⟩
  · rw [same]
    exact able.mp (by rw [given, Option.isSome_some])
  · rw [given] at extended
    cases extended with
    | stamped d single fits => exact .inl rfl
    | registered i => exact .inr (by simp [resolve, has.here, Registry.get?_insert])

theorem createInstance_known (spares : env.Spares) (has : w.Hosts seat c) (ty : AddonType)
    (id : String) (host : HostHandle) (version : String) (parent : Option InstanceHandle) :
    Ensures (createInstance env seat ty id host version parent) w (Known seat) fun _ _ => True := by
  refine (createInstance_settles spares has (fun _ o _ has => settle_known spares has _ o)
    fun answer u v ended spared => ?_).mono (fun _ _ => And.right) fun _ _ _ => True.intro
  obtain ⟨held, known⟩ := ended
  refine ⟨held.of_busy spared.busy, fun h given => ?_⟩
  rw [resolve, spared.kept held]
  exact known h given

end Dispatch

namespace Exports

/-! ### Slots -/

/-- What holds after a slot turned its request away, in use or empty, and after it was served. -/
theorem withSlot_exits {operation : String} {default : α} {act : Act σ ν α}
    {Q : α → World σ ν → Prop} {E : Stop → World σ ν → Prop}
    (refused : m ∈ w.busy ∨ w.contexts.get? (.module m) = none → ∀ u, w.Idle u → Q default u)
    (served : ∀ c, m ∉ w.busy → w.contexts.get? (.module m) = some c →
      Ensures (Act.holding m act) w Q E) :
    Ensures (withSlot m operation default act) w Q E := by
  by_cases busy : m ∈ w.busy
  · refine (withSlot_refuses busy).mono ?_ fun _ _ => False.elim
    rintro _ u ⟨rfl, idle⟩
    exact refused (.inl busy) u idle
  · cases here : w.contexts.get? (.module m) with
    | none =>
      rw [withSlot, ensures_bind, ensures_isBusy, decide_eq_false busy, if_neg Bool.false_ne_true,
        ensures_bind, ensures_context?, here]
      exact Log.error_talks.before fun _ u idle => refused (.inr here) u idle
    | some c => exact withSlot_reaches busy here (served c busy here)

/-! ### Locations -/

/-- A request that reaches the context in a module's slot, free and not empty, comes back with a
handle. -/
def Gives (m : String) (request : Act σ ν (Status × Option InstanceHandle)) (w : World σ ν)
    (h : InstanceHandle) : Prop :=
  m ∉ w.busy ∧ (w.contexts.get? (.module m)).isSome ∧
    ∃ status u, request (w.inUse m) = .ok (status, some h) u

/-- What a location holds after a call that was to make a request and came back with a status. -/
structure Located (m : String) (request : Act σ ν (Status × Option InstanceHandle))
    (w u : World σ ν) (status : Int32) (value : UInt64) : Prop where
  given : ∀ h : InstanceHandle, value = h.raw ↔ Gives m request w h
  known : ∀ h : InstanceHandle, value = h.raw →
    h = .root ∨ (Dispatch.resolve u (.module m) h).isSome
  null : (∀ h, ¬Gives m request w h) → value = 0
  busy : m ∈ w.busy → value = 0
  vacant : w.contexts.get? (.module m) = none → value = 0
  panicked : ∀ e v, request (w.inUse m) = .error e v → value = 0
  unable : status = Status.notImplemented.toRaw → value = 0

variable {request : Act σ ν (Status × Option InstanceHandle)} {status : Status}

theorem Gives.ended {h : InstanceHandle} (gives : Gives m request w h)
    {r : EStateM.Result Stop (World σ ν) (Status × Option InstanceHandle)}
    (ended : request (w.inUse m) = r) : ∃ s x, r = .ok (s, some h) x :=
  ended ▸ gives.2.2

theorem Located.moved {raw : Int32} {value : UInt64} (h : Located m request w u raw value)
    (locations : List (Option UInt64)) : Located m request w (u.setLocations m locations) raw value :=
  ⟨h.given, h.known, h.null, h.busy, h.vacant, h.panicked, h.unable⟩

theorem Located.of_nothing {raw : Int32} (nothing : ∀ h, ¬Gives m request w h) :
    Located m request w u raw 0 where
  given h := iff_of_false h.ne_zero.symm (nothing h)
  known h same := absurd same h.ne_zero.symm
  null _ := rfl
  busy _ := rfl
  vacant _ := rfl
  panicked _ _ _ := rfl
  unable _ := rfl

theorem Located.of_given {h : InstanceHandle} (gives : Gives m request w h)
    (able : status ≠ .notImplemented)
    (known : h = .root ∨ (Dispatch.resolve u (.module m) h).isSome) :
    Located m request w u status.toRaw h.raw := by
  have only {j : InstanceHandle} (same : h.raw = j.raw) : h = j := by
    cases h
    cases j
    cases same
    rfl
  have ⟨free, here, s, x, ended⟩ := gives
  refine ⟨fun j => ⟨fun same => only same ▸ gives, fun given => ?_⟩,
    fun j same => only same ▸ known, fun nothing => absurd gives (nothing h),
    fun busy => absurd busy free, fun vacant => ?_, fun e v stopped => ?_, fun unable => ?_⟩
  · obtain ⟨_, _, same⟩ := given.ended ended
    cases same
    rfl
  · rw [vacant] at here
    contradiction
  · obtain ⟨_, _, same⟩ := gives.ended stopped
    contradiction
  · refine absurd ?_ able
    rw [← Status.ofRaw_toRaw status, unable, Status.ofRaw_toRaw]

/-- What is in the location is what the dispatcher gave. -/
theorem withSlot_locates {operation : String}
    (known : ∀ c, (w.inUse m).Hosts (.module m) c →
      Ensures request (w.inUse m) (Dispatch.Known (.module m)) fun _ _ => True) :
    Ensures (withSlot m operation (.unknown, none) request) w
      (fun answer u => Located m request w u answer.1.toRaw (InstanceHandle.toRaw answer.2))
      fun _ _ => ∀ h, ¬Gives m request w h := by
  refine withSlot_exits (fun refused u _ => .of_nothing fun h gives => ?_) fun c free here => ?_
  · obtain ⟨free, here, -⟩ := gives
    rcases refused with busy | vacant
    · exact free busy
    · rw [vacant] at here
      contradiction
  rw [ensures_holding]
  have known := known c ⟨List.mem_cons_self, here⟩
  refine (known.and (.eq request)).mono (fun answer u ended => ?_) fun e u stopped => ?_
  · obtain ⟨known, ended⟩ := ended
    obtain ⟨status, _ | h⟩ := answer
    · refine .of_nothing fun h gives => ?_
      obtain ⟨_, _, same⟩ := gives.ended ended
      cases same
    · obtain ⟨able, known⟩ := known h rfl
      exact .of_given ⟨free, by simp [here], status, u, ended⟩ able known
  · have nothing (h : InstanceHandle) : ¬Gives m request w h := fun gives => by
      obtain ⟨_, _, same⟩ := gives.ended stopped.2
      contradiction
    cases e with
    | aborted => exact nothing
    | unwinding p => exact nothing

/-- A call for an instance without a location for it fails, asks nobody and changes nothing. With a
location, whatever it held, the call leaves there the handle that the dispatcher gave, which is the
root's or has an instance; and if there is none, the null that it began with. -/
theorem createInstance_locates (modules : Modules σ ν) (unloading : Bool) (depth : Nat) (m : String)
    (addon : modules.native m = none) (w : World σ ν) (ty : AddonType)
    (id version : Option CString) (host : HostHandle) (parent : UInt64) :
    Ensures (call (Exports.env modules unloading depth) m
        (.createInstance ty id host version none parent)) w
      (fun answer u => answer = .created Status.unknown.toRaw none ∧
        (w.entered m (.createInstance ty id host version none parent)).Idle u)
      (fun _ _ => False) ∧
    ∀ old : UInt64,
      Ensures (call (Exports.env modules unloading depth) m
          (.createInstance ty id host version (some old) parent)) w
        (fun answer u => ∃ status value, answer = .created status (some value) ∧
          Located m (Dispatch.createInstance (Exports.env modules unloading depth) (.module m) ty
              (CString.textOrEmpty id) host (CString.textOrEmpty version)
              (InstanceHandle.ofRaw? parent))
            (w.locating m (.createInstance ty id host version (some old) parent)) u status value)
        fun e _ => e = .aborted := by
  have spares := env_spares modules unloading depth
  have addon : (Exports.env modules unloading depth).modules.native m = none := by
    rwa [env_modules]
  refine ⟨?_, fun old => ?_⟩
  · rw [ensures_call addon, callAddon, ensures_bind]
    unfold createInstance
    rw [ensures_withLocation]
    refine guard_returns (Log.error_talks.before fun _ u idle => ⟨?_, idle.located⟩)
    simp [idle.locations]
  · rw [ensures_call addon, callAddon, ensures_bind]
    unfold createInstance
    rw [ensures_withLocation]
    refine guard_ensures ?_
    dsimp only
    rw [ensures_bind, ensures_writeLocation, locations_setLocations, setLocations_setLocations,
      ensures_bind]
    have serves := spares.opens.serves
    have spared := (serves.seated m).createInstance ty (CString.textOrEmpty id) host
      (CString.textOrEmpty version) (InstanceHandle.ofRaw? parent)
    refine ((withSlot_locates fun _ has => Dispatch.createInstance_known spares has ..).and
      (withSlot_obeys serves spared _)).mono (fun answer u ended => ?_)
        fun e u stopped going v idle => ?_
    · obtain ⟨located, spared⟩ := ended
      have placed := congrFun spared.returned.locations m
      obtain ⟨status, _ | h⟩ := answer
      · refine ⟨_, _, ?_, located.moved _⟩
        simp [placed, InstanceHandle.toRaw]
      · refine ⟨_, _, ?_, (located.moved _).moved _⟩
        simp [placed, InstanceHandle.toRaw]
    · obtain ⟨nothing, spared⟩ := stopped
      have placed := congrFun (idle.locations.trans (spared.stopped going).locations) m
      refine ⟨Status.permanentFailure.toRaw, 0, ?_, (Located.of_nothing nothing).moved _⟩
      simp [placed]

/-- The first decoder's handle takes the place of what was in the location; while the addon runs,
null does. -/
theorem createInstance_locates_decoder :
    let c : Context Unit := { root := ⟨⟨⟨0, 0⟩, 0⟩, ⟨"decoders", ⟨0, 0⟩⟩, none⟩ }
    let free : World Unit Unit := { memory := fun _ => (), contexts := [(.module "decoders", c)] }
    let running : World Unit Unit := { free with busy := ["decoders"] }
    let h := InstanceHandle.root.succ
    let request (out : Option UInt64) : EntryCall := .createInstance ⟨102⟩ none .null none out 0
    let env := Exports.env Modules.decoders false 1
    Ensures (call env "decoders" (request none)) free
      (fun answer u => answer = .created Status.unknown.toRaw none ∧ u.contexts = free.contexts)
      (fun _ _ => False) ∧
    Ensures (call env "decoders" (request (some 7))) free
      (fun answer u => (∃ status, answer = .created status (some h.raw)) ∧
        (Dispatch.resolve u (.module "decoders") h).isSome)
      (fun e _ => e = .aborted) ∧
    Ensures (call env "decoders" (request (some 7))) running
      (fun answer _ => ∃ status, answer = .created status (some 0)) fun e _ => e = .aborted := by
  intro c free running h request env
  have locates (w : World Unit Unit) :=
    createInstance_locates Modules.decoders false 1 "decoders" rfl w ⟨102⟩ none none .null 0
  obtain ⟨bare, located⟩ := locates free
  refine ⟨bare.mono (fun answer u ended => ⟨ended.1, ended.2.contexts⟩) fun _ _ => id,
    (located 7).mono ?_ fun _ _ => id, ((locates running).2 7).mono ?_ fun _ _ => id⟩
  · rintro _ u ⟨status, value, rfl, located⟩
    have given : value = h.raw := (located.given h).mpr ⟨by decide, rfl, _, _, rfl⟩
    exact ⟨⟨status, by rw [given]⟩, (located.known h given).resolve_left (by decide)⟩
  · rintro _ u ⟨status, value, rfl, located⟩
    have null : value = 0 := located.busy List.mem_cons_self
    exact ⟨status, by rw [null]⟩

end Exports

end AddonBridge
