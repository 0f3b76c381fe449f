import AddonBridge.Text.Fields
import AddonBridge.Text.Quoted
import AddonBridge.Vocabulary.AddonType
import AddonBridge.Vocabulary.Handle
import AddonBridge.Vocabulary.Status

/-!
# Instances

What an addon makes on a host's request. A request goes to a factory, which answers with a status
and perhaps an instance; every instance has a descriptor whose identifier is written once.
-/

namespace AddonBridge

structure Descriptor where
  instanceType : AddonType
  /-- The version of the type that the host uses. -/
  hostVersion : String
  /-- The identifier that the host gave the instance. -/
  id? : Option String := none
  deriving DecidableEq, Repr

namespace Descriptor

def id (d : Descriptor) : String := d.id?.getD ""

def isIdentified (d : Descriptor) : Bool := d.id?.isSome

/-- The descriptor with an identifier, unless it already has one. -/
def stamp (d : Descriptor) (id : String) : Descriptor := { d with id? := some (d.id?.getD id) }

def debug (d : Descriptor) : String :=
  Text.fields "InstanceDescriptor"
    [("instance_type", d.instanceType.debug), ("host_version", Text.quote d.hostVersion),
      ("id", Text.optional (d.id?.map Text.quote))]

end Descriptor

/-- A host's request for a new instance. -/
structure Request where
  instanceType : AddonType
  id : String
  host : HostHandle
  version : String
  /-- The host's half of the very first instance. -/
  first : HostHandle := .null
  /-- The type of the addon's single instance, if it has one. -/
  single : Option AddonType := none
  deriving DecidableEq, Repr

def Descriptor.ofRequest (r : Request) : Descriptor := ⟨r.instanceType, r.version, none⟩

/-- What a factory gives: an instance of its own, with data of type `σ`, or the addon's single
instance. -/
inductive Created (σ : Type) where
  | new (descriptor : Descriptor) (data : σ)
  | single

def Created.debug : Created σ → String
  | .new d _ => "New(" ++ d.debug ++ ")"
  | .single => "SingleInstance"

/-- A factory's answer to a request. -/
structure Outcome (σ : Type) where
  status : Status
  created : Option (Created σ)

namespace Outcome

def createdWithStatus (status : Status) (d : Descriptor) (data : σ) : Outcome σ :=
  ⟨status, some (.new d data)⟩

def ofInstance (d : Descriptor) (data : σ) : Outcome σ := createdWithStatus .ok d data

def single : Outcome σ := ⟨.ok, some .single⟩

def ofStatus (status : Status) : Outcome σ := ⟨status, none⟩

def notImplemented : Outcome σ := ofStatus .notImplemented

def unknown : Outcome σ := ofStatus .unknown

def debug (o : Outcome σ) : String :=
  Text.fields "InstanceOutcome"
    [("status", o.status.debug), ("instance", Text.optional (o.created.map Created.debug))]

end Outcome

/-- The addon's single instance, if the request is for its type and comes with the first host
handle; otherwise an unknown error. -/
def Request.shortcut (r : Request) : Outcome σ :=
  if r.host = r.first ∧ r.single = some r.instanceType then .single else .unknown

end AddonBridge
