import AddonBridge.Addon.Program

/-!
# Notes

What scripted code leaves in the trace: each callback with what it was given, and each action with
what it found.
-/

namespace AddonBridge.Scenario

inductive Getter where
  | string
  | int
  | uint
  | bool
  | float
  deriving DecidableEq, Repr

def Getter.name : Getter → String
  | .string => "string"
  | .int => "int"
  | .uint => "uint"
  | .bool => "bool"
  | .float => "float"

def Getter.all : List Getter := [.string, .int, .uint, .bool, .float]

def Getter.ofName? (s : String) : Option Getter := all.find? (·.name = s)

inductive Reading where
  /-- Nothing was asked for, or there is no value. -/
  | nothing
  /-- The value is not one that the getter may read. -/
  | unreadable
  | string (value : String)
  | int (value : Int32)
  | uint (value : UInt32)
  | bool (value : Bool)
  | float (bits : UInt32)
  deriving DecidableEq, Repr

def Getter.read (g : Getter) (v : SettingValue) : Reading :=
  match g with
  | .string => (v.string?.map .string).getD .unreadable
  | .int => (v.int?.map .int).getD .unreadable
  | .uint => (v.uint?.map .uint).getD .unreadable
  | .bool => (v.bool?.map .bool).getD .unreadable
  | .float => (v.float?.map .float).getD .unreadable

inductive Finding where
  | nothing
  | unavailable
  | flag (value : Bool)
  | text (value : String)
  | handle (value : HostHandle)
  | setting (value : Option Setting)
  | table (answer : TableAnswer)
  | call (answer : CallAnswer)
  deriving DecidableEq

def Finding.ofHost : (c : HostCall) → c.Answer → Finding
  | .libPath, s => .text s
  | .firstInstance, h => .handle h
  | .typeVersion _, s => .text s
  | .addonPath _, s => .text s
  | .userPath _, s => .text s
  | .log .., b => .flag b
  | .check .., v => .setting v
  | .setting .., v => .setting (some v)
  | .setSetting .., b => .flag b
  | .interface .., h => .handle h

inductive Note where
  | built (site : Site)
  | created (module : String)
  | status (module : String)
  | setting (module name : String) (isEmpty : Bool) (getter : Option Getter) (reading : Reading)
  /-- A factory was asked: the root's, or that of the instance with an identifier. -/
  | factory (module : String) (instance? : Option String) (request : Request)
  | instanceDestroyed (module : String) (instanceType : AddonType) (id : String)
      (descriptor : Descriptor)
  | rootDropped (module : String)
  | act (name : String) (finding : Finding)
  | panicking (kind : String)
  /-- A panic was left out where none may start. -/
  | panicSkipped
  | nativeCreated (table : Option TableId) (apiVersion : Option CString)
  | nativeDestroyed
  | nativeStatus
  | nativeSetting (name : Option CString) (isEmpty : Bool)
  | nativeInstance (instanceType : AddonType) (id : Option CString) (host : HostHandle)
      (version : Option CString) (out : UInt64) (parent : UInt64)
  | nativeInstanceDestroyed (instanceType : AddonType) (handle : UInt64)
  deriving DecidableEq

end AddonBridge.Scenario
