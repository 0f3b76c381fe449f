import AddonBridge.Boundary.Interface

/-!
# Calls across the boundary

The functions that a module exports, as calls with plain arguments: strings that may be null,
memory for settings, and handles as pointer values. Likewise the calls that addon code makes to the
host, through its own helpers or straight through the host's table.
-/

namespace AddonBridge

inductive EntryPoint where
  | create
  | destroy
  | getStatus
  | setSetting
  | getTypeVersion
  | getTypeMinVersion
  deriving DecidableEq, Repr

namespace EntryPoint

def symbol : EntryPoint → String
  | .create => "ADDON_Create"
  | .destroy => "ADDON_Destroy"
  | .getStatus => "ADDON_GetStatus"
  | .setSetting => "ADDON_SetSetting"
  | .getTypeVersion => "ADDON_GetTypeVersion"
  | .getTypeMinVersion => "ADDON_GetTypeMinVersion"

def all : List EntryPoint :=
  [.create, .destroy, .getStatus, .setSetting, .getTypeVersion, .getTypeMinVersion]

end EntryPoint

inductive EntryCall where
  | create (table : Option TableId) (apiVersion : Option CString)
  | destroy
  | status
  | setSetting (name : Option CString) (value : Option SettingValue)
  /-- `out` is what the location for the new handle holds before the call, if there is a location. -/
  | createInstance (instanceType : AddonType) (id : Option CString) (host : HostHandle)
      (version : Option CString) (out : Option UInt64) (parent : UInt64)
  | destroyInstance (instanceType : AddonType) (handle : UInt64)
  | typeVersion (addonType : AddonType)
  | minVersion (addonType : AddonType)
  deriving DecidableEq

/-- What a call of a module's function gives back. -/
inductive CallAnswer where
  | done
  | status (raw : Int32)
  /-- A status, and what the location for the new handle holds after the call. -/
  | created (raw : Int32) (out : Option UInt64)
  | text (value : Option CString)
  | unset
  /-- The call would have been nested too deeply. -/
  | tooDeep
  /-- The addon is being unloaded, and was not to be created again. -/
  | unloading
  deriving DecidableEq

/-- A call of a function that code holds a pointer to: an entry point of a module, or what is
registered in an interface's table. -/
inductive RawCall where
  | entry (module : String) (call : EntryCall)
  | registered (table : Option TableId) (call : EntryCall)
  deriving DecidableEq

namespace RawCall

def isCreate : RawCall → Bool
  | .entry _ (.create ..) => true
  | _ => false

end RawCall

/-- The function that a call goes to when it goes through a table of registered functions. -/
def EntryCall.registeredAs? : EntryCall → Option AddonFunction
  | .destroy => some .destroy
  | .status => some .getStatus
  | .setSetting .. => some .setSetting
  | .createInstance .. => some .createInstance
  | .destroyInstance .. => some .destroyInstance
  | .create .. | .typeVersion _ | .minVersion _ => none

/-- A call of one of the helpers through which addon code talks to its host. -/
inductive HostCall where
  | libPath
  | firstInstance
  | typeVersion (addonType : AddonType)
  | addonPath (segment : String)
  | userPath (segment : String)
  | log (level : LogLevel) (message : String)
  | check (kind : SettingKind) (id : String)
  /-- Reads a setting of the default's type, or gives the default. -/
  | setting (id : String) (default : Setting)
  | setSetting (id : String) (value : Setting)
  | interface (name version : String)
  deriving DecidableEq, Repr

abbrev HostCall.Answer : HostCall → Type
  | .libPath | .typeVersion _ | .addonPath _ | .userPath _ => String
  | .firstInstance | .interface .. => HostHandle
  | .log .. | .setSetting .. => Bool
  | .check .. => Option Setting
  | .setting .. => Setting

inductive TableCall where
  /-- Reads a setting into a location, if there is one. -/
  | getSetting (kind : SettingKind) (id : Option CString) (hasOut : Bool)
  | setSetting (id : Option CString) (value : Setting)
  | setString (id value : Option CString)
  | log (level : Int32) (message : Option CString)
  | interface (name version : Option CString)
  | typeVersion (addonType : AddonType)
  | addonPath
  | userPath
  | freeNull
  deriving DecidableEq

inductive Held where
  | setting (value : Setting)
  | text (value : Option CString)
  deriving DecidableEq

def Held.initial : SettingKind → Held
  | .bool => .setting (.bool false)
  | .int => .setting (.int (-7))
  | .float => .setting (.float 0)
  | .string => .text none

/-- What a call straight into the host's table gives back. -/
inductive TableAnswer where
  | unavailable
  | unset
  | done
  | flag (value : Bool)
  | fetched (found : Bool) (holds : Held)
  | text (value : Option CString)
  | handle (value : HostHandle)
  deriving DecidableEq

end AddonBridge
