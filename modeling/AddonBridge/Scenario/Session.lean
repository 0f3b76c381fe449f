import AddonBridge.Scenario.Slot

/-!
# Sessions

Hosts that drive scripted addons step by step. Every step gives a report. A session ends with every
slot unloaded, unless a defect ends it before.
-/

namespace AddonBridge.Scenario

def nativeModule : String := "raw"

/-- The modules whose addons follow a script only in their construction, and whether they may have a
single instance. -/
def plainModules : Assoc String Bool := [("legacy", true), ("defaults", false)]

/-- The slots, the scripts and the state of everything. -/
structure Session where
  slots : List Slot
  scripts : Assoc String Script := []
  native : NativeScript := {}
  world : World Memory Note := { memory := fun _ => none }

namespace Session

/-- The code of all modules. Calls from directly driven contexts go to the module `entry`. -/
def modules (s : Session) (entry : String) : Modules Memory Note :=
  let target (module : String) := if module = directModule then entry else module
  { addon := fun module =>
      let script := (s.scripts.get? module).getD {}
      match plainModules.get? module with
      | some hasSingle => script.plainAddon target hasSingle
      | none => script.addon target
    native := fun module => if module = nativeModule then some (s.native.addon module) else none }

/-- What code runs in during a step on a slot's entry. Calls nest twice. -/
def env (s : Session) (entry : String) (isUnloading : Bool) : Env Memory Note :=
  Exports.env (s.modules entry) isUnloading 2

def post (s : Session) (home : Nat) (slot : Slot) : Post :=
  ⟨home, slot, s.env slot.entry false, s.env slot.entry true⟩

def isSilent (s : Session) (home : Nat) : Bool := (s.slots[home]?.bind (·.profile)).isNone

def edit (s : Session) : Task → Session
  | .edit (.script entry change) =>
    { s with scripts := s.scripts.set entry (change ((s.scripts.get? entry).getD {})) }
  | .edit (.native change) => { s with native := change s.native }
  | _ => s

def hands (t : TableId) : Event Note → Bool
  | .note (.built site) => site.table = t
  | .note (.nativeCreated table _) => table = some t
  | _ => false

def settled (home : Nat) (slot : Slot) (loaded : Assoc TableId Loaded) : Task → Slot
  | .load _ =>
    let t : TableId := ⟨home, slot.loads⟩
    { slot with
      loads := slot.loads + 1
      table := (loaded.get? t).map fun _ => t
      isHanded := false }
  | .unload => { slot with table := none, isHanded := false }
  | _ => slot

/-- A slot after some events, in which its addon may have been handed its interface. -/
def handed (events : List (Event Note)) (slot : Slot) : Slot :=
  { slot with isHanded := slot.isHanded || slot.table.any fun t => events.any (hands t) }

def snapshot (s : Session) (home : Nat) : Option Snapshot := do
  let t ← (← s.slots[home]?).table
  return .ofLoaded (← s.world.loaded.get? t)

/-- What happened since, in the world after a step. -/
def since (s : Session) (w : World Memory Note) : List (Event Note) :=
  w.trace.take (w.trace.length - s.world.trace.length)

def settle (s : Session) (home : Nat) (slot : Slot) (task : Task) (w : World Memory Note) :
    Session :=
  { s with
    slots := (s.slots.set home (settled home slot w.loaded task)).map (handed (s.since w))
    world := w }

/-- What a step shows of what happened. A host does not tell when it stores a setting by itself. -/
def shown (s : Session) (task : Task) (w : World Memory Note) : List Item :=
  match task with
  | .loaded (.putHostSetting ..) => []
  | _ => Item.ofTrace s.isSilent (s.since w).reverse

/-- Does a step. There is no session after an abort. -/
def step (s : Session) (x : Step) : Report × Option Session :=
  match s.slots[x.slot]? with
  | none => (⟨.notLoaded, [], none⟩, some s)
  | some slot =>
    let s := s.edit x.task
    match Act.observe ((s.post x.slot slot).perform x.task) s.world with
    | .ok result w =>
      let answer := match result with
        | .ok a => a
        | .error payload => .ofPayload payload
      let items := s.shown x.task w
      let s := s.settle x.slot slot x.task w
      (⟨answer, items, s.snapshot x.slot⟩, some s)
    | .error _ w => (⟨.aborted, s.shown x.task w, none⟩, none)

def run (s : Session) : List Step → List Report
  | [] => []
  | x :: xs =>
    match s.step x with
    | (r, some s) => r :: s.run xs
    | (r, none) => [r]

def play (s : Session) (steps : List Step) : List Report :=
  s.run (steps ++ (List.range s.slots.length).map (⟨·, .unload⟩))

end Session

end AddonBridge.Scenario
