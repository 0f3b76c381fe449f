import AddonBridge.Scenario.Action

/-!
# Scripted native modules

A module written against the bare boundary that follows a table: each function leaves a note and
gives a number, whatever it is asked.
-/

namespace AddonBridge.Scenario

structure NativeScript where
  addonBase : UInt64 := 0
  singleInstance : UInt64 := 0
  functions : List AddonFunction := []
  actions : List Action := []
  created : Int32 := 0
  status : Int32 := 0
  setSetting : Int32 := 0
  instanceCreated : Int32 := 0
  handle : UInt64 := 0
  versions : Assoc AddonType CString := []
  minVersions : Assoc AddonType CString := []

namespace NativeScript

def noInterface : Int32 := 5

def addon (s : NativeScript) (module : String) : NativeAddon σ Note where
  create table api := do
    Program.note (.nativeCreated table api)
    match table with
    | some t => return .inr (t, ⟨s.addonBase, s.singleInstance, s.functions⟩)
    | none => return .inl noInterface
  started t := do
    Action.runAll (.ofModule module (some t)) none s.actions
    return s.created
  destroy := Program.note .nativeDestroyed
  status := do
    Program.note .nativeStatus
    return s.status
  setSetting name value := do
    Program.note (.nativeSetting name value.isNone)
    return s.setSetting
  createInstance ty id host version out parent := do
    Program.note (.nativeInstance ty id host version (out.getD 0) parent)
    return (s.instanceCreated, s.handle)
  destroyInstance ty handle := Program.note (.nativeInstanceDestroyed ty handle)
  versions := s.versions.get?
  minVersions := s.minVersions.get?

end NativeScript

end AddonBridge.Scenario
