import AddonBridge.Machine.LoadedAddon
import AddonBridge.Scenario.NativeScript
import AddonBridge.Scenario.Script

/-!
# Tasks

What a step of a session asks for: to load or unload an addon, to drive it as a host does, to drive a
context directly, or to let scripted code act on its own.
-/

namespace AddonBridge.Scenario

inductive Edit where
  | script (entry : String) (change : Script → Script)
  | native (change : NativeScript → NativeScript)

inductive LoadedStep where
  | operate (operation : LoadedAddon.Operation)
  /-- Pushes a value of a setting that cannot be written. -/
  | setUnwritable
  | destroyNull
  | versions (addonType : AddonType)
  | isCompatible (addonType : AddonType) (min max : Version)
  | state
  | hostSettings
  | putHostSetting (id : String) (value : Setting)
  deriving DecidableEq

/-- A step with the context that a slot drives directly. -/
inductive ContextStep where
  | create
  | status
  | setSetting (name : String) (value : Option SettingValue)
  | createInstance (instanceType : AddonType) (id : String) (host : HostHandle) (version : String)
      (parent : Option InstanceHandle)
  | destroyInstance (instanceType : AddonType) (handle : Option InstanceHandle)
  | instance (handle : Option InstanceHandle)
  | info
  | destroy
  deriving DecidableEq

inductive Task where
  | load (libPath : Option String)
  | unload
  | edit (edit : Edit)
  | act (actions : List Action)
  | raw (call : OwnCall)
  | loaded (step : LoadedStep)
  | newContext
  | context (step : ContextStep)

/-- A step of a session: what is done, with which slot. -/
structure Step where
  slot : Nat
  task : Task

end AddonBridge.Scenario
