import AddonBridge.Machine.Execution

/-!
# Dispatching to a created addon

What a context does with the requests of its host. A request for an instance goes to the factory of
the parent instance, if there is one, and to the root's factory if nobody was asked or the one asked
does not implement it. What the factory gives is checked, stamped with the identifier and registered.
A context lives in a seat, and keeps the changes of an act that panics.
-/

namespace AddonBridge.Dispatch

variable {σ ν δ α : Type} [Panics δ]

/-- Does something with the context in a seat; an empty seat gives the default. -/
def withContext (seat : Seat) (default : α) (f : Context σ → Act σ ν α) : Act σ ν α := do
  match ← Act.context? seat with
  | some c => f c
  | none => return default

/-! ### The end of objects -/

/-- Drops an instance, whose code then runs for the last time. -/
def dropInstance (env : Env σ ν δ) (site : Site) (i : Instance σ) : Act σ ν Unit := do
  Act.record (.instanceDropped i.object i.descriptor)
  env.lastly site.module ((env.modules.addon site.module).instanceDropped site i.descriptor i.data)

/-- Drops instances one after the other. A panic of one leaves the others where they are. -/
def dropInstances (env : Env σ ν δ) (site : Site) : List (Instance σ) → Act σ ν Unit
  | [] => pure ()
  | i :: is => do
    dropInstance env site i
    dropInstances env site is

def dropRoot (env : Env σ ν δ) (r : Root) : Act σ ν Unit := do
  Act.record (.rootDropped r.object)
  env.lastly r.site.module ((env.modules.addon r.site.module).dropped r.site)

/-- Drops a context: its instances, then its root, which goes also if an instance panics. -/
def dropContext (env : Env σ ν δ) (c : Context σ) : Act σ ν Unit :=
  Act.after (dropInstances env c.root.site (env.modules.order.arrange c.instances.values))
    (dropRoot env c.root)

/-- Destroys a context, and says how many instances it takes along. -/
def destroy (env : Env σ ν δ) (c : Context σ) : Act σ ν Unit := do
  if 0 < c.instances.size then
    Log.debug ("Destroying addon with " ++ toString c.instances.size ++ " live instance(s)")
  dropContext env c

/-! ### Building a root -/

def build (env : Env σ ν δ) (module : String) (t : TableId) :
    Act σ ν (Except AddonError (Context σ)) := do
  let site : Site := ⟨module, t⟩
  let object ← Act.freshObject t
  Act.record (.building object site)
  match ← env.callback module ((env.modules.addon module).build site) with
  | .ok single =>
    Act.record (.built object)
    return .ok { root := ⟨object, site, single⟩ }
  | .error e => return .error e

/-! ### Callbacks of the root -/

def callRoot (env : Env σ ν δ) (c : Context σ) (cb : Callback)
    (p : Addon σ ν δ → Site → Program σ ν Payload α) : Act σ ν α := do
  Act.record (.called c.root.object cb)
  env.callback c.root.site.module (p (env.modules.addon c.root.site.module) c.root.site)

def create (env : Env σ ν δ) (seat : Seat) : Act σ ν Status :=
  withContext seat .unknown fun c => callRoot env c .created (·.created ·)

def status (env : Env σ ν δ) (seat : Seat) : Act σ ν Status :=
  withContext seat .unknown fun c => callRoot env c .status (·.status ·)

def setSetting (env : Env σ ν δ) (seat : Seat) (name : String) (value : Option SettingValue) :
    Act σ ν Status :=
  withContext seat .unknown fun c =>
    callRoot env c (.setSetting name value) (·.setSetting · name value)

/-! ### Instances -/

/-- A factory's answer, in which an instance has become an object. -/
structure Offer (σ : Type) where
  status : Status
  created : Option (Option (Instance σ))

def offer (maker : ObjectId) (o : Outcome σ) : Act σ ν (Offer σ) := do
  match o.created with
  | some (.new d data) =>
    let object ← Act.freshObject maker.table
    Act.record (.produced object maker)
    return ⟨o.status, some (some ⟨object, d, data⟩)⟩
  | some .single => return ⟨o.status, some none⟩
  | none => return ⟨o.status, none⟩

def Offer.drop (env : Env σ ν δ) (site : Site) (o : Offer σ) : Act σ ν Unit :=
  match o.created with
  | some (some i) => dropInstance env site i
  | _ => pure ()

def askRoot (env : Env σ ν δ) (c : Context σ) (r : Request) : Act σ ν (Offer σ) := do
  offer c.root.object (← callRoot env c (.factory r) (·.factory · r))

def askInstance (env : Env σ ν δ) (c : Context σ) (i : Instance σ) (r : Request) :
    Act σ ν (Offer σ) := do
  Act.record (.called i.object (.factory r))
  let site := c.root.site
  offer i.object (← env.callback site.module
    ((env.modules.addon site.module).instanceFactory site i.descriptor i.data r))

def warnStamped (d : Descriptor) (id : String) : Act σ ν Unit := do
  if d.id?.any (· ≠ id) then
    Log.warn ("Instance already identified as '" ++ d.id ++ "', ignoring new identifier '" ++ id ++
      "'")

def register (env : Env σ ν δ) (seat : Seat) (i : Instance σ) : Act σ ν (Option InstanceHandle) :=
  withContext seat none fun c => do
    let h := c.instances.next
    Act.setContext seat { c with instances := c.instances.insert i }
    match c.instances.get? h with
    | some replaced => dropInstance env c.root.site replaced
    | none => pure ()
    return some h

def settle (env : Env σ ν δ) (seat : Seat) (site : Site) (r : Request) (o : Offer σ) :
    Act σ ν (Status × Option InstanceHandle) := do
  if o.status = .notImplemented then
    Log.debug ("No factory implements instances of type " ++ r.instanceType.display)
    o.drop env site
    return (o.status, none)
  else
    match o.created with
    | none => Log.raise (.missingInstance r.instanceType o.status)
    | some (some i) =>
      if i.descriptor.instanceType = r.instanceType then
        warnStamped i.descriptor r.id
        let h ← register env seat { i with descriptor := i.descriptor.stamp r.id }
        return (o.status, h)
      else
        Act.after (Log.raise (.createdTypeMismatch r.instanceType i.descriptor.instanceType))
          (dropInstance env site i)
    | some none =>
      match (← Act.context? seat).bind (·.root.single) with
      | none => Log.raise (.missingInstance r.instanceType o.status)
      | some d =>
        if d.instanceType = r.instanceType then
          warnStamped d r.id
          Act.modifyContext seat fun c =>
            { c with root := { c.root with single := some (d.stamp r.id) } }
          return (o.status, some .root)
        else Log.raise (.createdTypeMismatch r.instanceType d.instanceType)

/-- The factory of the parent's answer, if the parent is a live instance. -/
def askParent (env : Env σ ν δ) (c : Context σ) (r : Request) (parent : Option InstanceHandle) :
    Act σ ν (Option (Offer σ)) := do
  match parent.filter (!·.isRoot) with
  | none => return none
  | some h =>
    match c.instances.get? h with
    | some i => some <$> askInstance env c i r
    | none =>
      Log.warn ("Unknown parent instance " ++ h.debug ++ " for new instance '" ++ r.id ++
        "', using the addon's factory")
      return none

/-- Handles a request for an instance. An instance in an answer that is passed over goes when the
request is done with. -/
def createInstance (env : Env σ ν δ) (seat : Seat) (ty : AddonType) (id : String) (host : HostHandle)
    (version : String) (parent : Option InstanceHandle) :
    Act σ ν (Status × Option InstanceHandle) :=
  withContext seat (.unknown, none) fun c => do
    let first ← HostAccess.firstInstance c.root.site.table
    let r : Request := ⟨ty, id, host, version, first, c.single⟩
    match ← askParent env c r parent with
    | none => settle env seat c.root.site r (← askRoot env c r)
    | some o =>
      if o.status = .notImplemented then
        Act.after (do settle env seat c.root.site r (← askRoot env c r)) (o.drop env c.root.site)
      else settle env seat c.root.site r o

/-- Handles a request to destroy an instance. There is nothing to do for a single instance, for
null or for the root. -/
def destroyInstance (env : Env σ ν δ) (seat : Seat) (ty : AddonType)
    (handle : Option InstanceHandle) : Act σ ν Unit :=
  withContext seat () fun c => do
    if c.single.isSome then return
    match handle.filter (!·.isRoot) with
    | none => return
    | some h =>
      match c.instances.get? h with
      | none =>
        Log.error ("Asked to destroy unknown instance " ++ h.debug ++ " of type " ++ ty.display)
      | some i =>
        let present := i.descriptor.instanceType
        if present = ty then
          Act.setContext seat { c with instances := c.instances.erase h }
          Act.after (callRoot env c (.instanceDestroyed ty i.descriptor.id)
            (·.instanceDestroyed · ty i.descriptor.id i.descriptor)) (dropInstance env c.root.site i)
        else Log.raise (.destroyedTypeMismatch ty present)

end AddonBridge.Dispatch
