import AddonBridge.Boundary.Host

/-!
# Interface tables

The tables that a host and one loaded addon share: a few handles, the functions that the host offers,
and those that the addon registers. Any pointer in them may be null.
-/

namespace AddonBridge

/-- The name of an interface table: whose it is, and which of that owner's loads it was made for. -/
structure TableId where
  home : Nat
  load : Nat
  deriving DecidableEq, Repr

inductive HostFunction where
  | getTypeVersion
  | getAddonPath
  | getBaseUserPath
  | addonLogMsg
  | getSetting (kind : SettingKind)
  | setSetting (kind : SettingKind)
  | freeString
  | getInterface
  deriving DecidableEq, Repr

def SettingKind.name : SettingKind → String
  | .bool => "bool"
  | .int => "int"
  | .float => "float"
  | .string => "string"

def SettingKind.all : List SettingKind := [.bool, .int, .float, .string]

namespace HostFunction

def name : HostFunction → String
  | .getTypeVersion => "get_type_version"
  | .getAddonPath => "get_addon_path"
  | .getBaseUserPath => "get_base_user_path"
  | .addonLogMsg => "addon_log_msg"
  | .getSetting kind => "get_setting_" ++ kind.name
  | .setSetting kind => "set_setting_" ++ kind.name
  | .freeString => "free_string"
  | .getInterface => "get_interface"

def all : List HostFunction :=
  [.getTypeVersion, .getAddonPath, .getBaseUserPath, .addonLogMsg] ++
    SettingKind.all.map .getSetting ++ SettingKind.all.map .setSetting ++
    [.freeString, .getInterface]

end HostFunction

/-- A function that stands in for one of the host's. -/
inductive Stub where
  | nullPath
  /-- Finds every string setting, without giving it. -/
  | foundNull
  /-- Finds no string setting, and still gives one. -/
  | unfoundBuffer
  /-- Finds every string setting, and gives the bytes that its identifier writes. -/
  | echoBytes
  | traceFree
  deriving DecidableEq, Repr

inductive Provider where
  | host
  | stub (stub : Stub)
  deriving DecidableEq, Repr

structure HostTable where
  /-- Whether the pointer to the host's data is set. -/
  hasBase : Bool := true
  provider : HostFunction → Option Provider := fun _ => some .host

def HostTable.setProvider (t : HostTable) (f : HostFunction) (p : Option Provider) : HostTable :=
  { t with provider := fun g => if g = f then p else t.provider g }

inductive Patch where
  | nullHostTable
  | nullAddonTable
  | nullBase
  | unset (function : HostFunction)
  | stub (stub : Stub)
  deriving DecidableEq, Repr

/-- The table with a stub put in. A stub that gives strings of its own takes them back as well. -/
def HostTable.install (t : HostTable) : Stub → HostTable
  | .nullPath => t.setProvider .getAddonPath (some (.stub .nullPath))
  | .foundNull => t.setProvider (.getSetting .string) (some (.stub .foundNull))
  | .unfoundBuffer =>
    (t.setProvider (.getSetting .string) (some (.stub .unfoundBuffer))).setProvider .freeString
      (some (.stub .traceFree))
  | .echoBytes =>
    (t.setProvider (.getSetting .string) (some (.stub .echoBytes))).setProvider .freeString
      (some (.stub .traceFree))
  | .traceFree => t.setProvider .freeString (some (.stub .traceFree))

inductive AddonFunction where
  | destroy
  | getStatus
  | createInstance
  | destroyInstance
  | setSetting
  deriving DecidableEq, Repr

namespace AddonFunction

def name : AddonFunction → String
  | .destroy => "destroy"
  | .getStatus => "get_status"
  | .createInstance => "create_instance"
  | .destroyInstance => "destroy_instance"
  | .setSetting => "set_setting"

def all : List AddonFunction := [.destroy, .getStatus, .createInstance, .destroyInstance, .setSetting]

end AddonFunction

/-- The functions that an addon registered, each by the module that it belongs to. -/
structure AddonTable where
  function : AddonFunction → Option String := fun _ => none

namespace AddonTable

def full (module : String) : AddonTable := ⟨fun _ => some module⟩

def register (t : AddonTable) (module : String) (functions : List AddonFunction) : AddonTable :=
  ⟨fun f => if f ∈ functions then some module else t.function f⟩

end AddonTable

/-- What one load gives an addon, and what the host keeps with it. -/
structure Loaded where
  /-- The module whose entry points the host calls. -/
  module : String
  libPath : CString
  host : Host
  /-- How many strings the addon has not given back yet. -/
  outstanding : UInt64 := 0
  addonBase : UInt64 := 0
  singleInstance : UInt64 := 0
  firstInstance : HostHandle := .null
  hostTable : Option HostTable := some {}
  addonTable : AddonTable := {}
  /-- Whether the interface points to the table for the addon's functions. -/
  addonTableLinked : Bool := true
  /-- Whether the host has created the addon and not destroyed it since. -/
  isCreated : Bool := false
  /-- Whether the module's create was called with this interface other than by the host. -/
  createdByHand : Bool := false

namespace Loaded

/-- The change that a patch makes; without a host table there is nothing to change. -/
def patch? (l : Loaded) (p : Patch) : Option Loaded :=
  l.hostTable.map fun t =>
    match p with
    | .nullHostTable => { l with hostTable := none }
    | .nullAddonTable => { l with addonTableLinked := false }
    | .nullBase => { l with hostTable := some { t with hasBase := false } }
    | .unset f => { l with hostTable := some (t.setProvider f none) }
    | .stub s => { l with hostTable := some (t.install s) }

end Loaded

end AddonBridge
