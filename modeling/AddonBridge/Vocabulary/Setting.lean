import AddonBridge.Text.CString

/-!
# Settings

A setting has one of four types. A host keeps settings under identifiers; it also pushes values to
an addon as bare memory, which says nothing of its type: the addon has to pick the getter that fits.
Numbers lie in memory with their lowest byte first, and a float is its 32 bits.
-/

namespace AddonBridge

inductive SettingKind where
  | bool
  | int
  | float
  | string
  deriving DecidableEq, Repr

inductive Setting where
  | bool (value : Bool)
  | int (value : Int32)
  | float (bits : UInt32)
  | string (value : String)
  deriving DecidableEq, Repr

def Setting.kind : Setting → SettingKind
  | .bool _ => .bool
  | .int _ => .int
  | .float _ => .float
  | .string _ => .string

inductive SettingInput where
  | string (value : CString)
  | int (value : Int32)
  | uint (value : UInt32)
  | bool (value : Bool)
  | float (bits : UInt32)
  deriving DecidableEq

def wordBytes (n : UInt32) : List UInt8 :=
  [n.toUInt8, (n >>> 8).toUInt8, (n >>> 16).toUInt8, (n >>> 24).toUInt8]

def word? : List UInt8 → Option UInt32
  | a :: b :: c :: d :: _ =>
    some (a.toUInt32 ||| b.toUInt32 <<< 8 ||| c.toUInt32 <<< 16 ||| d.toUInt32 <<< 24)
  | _ => none

/-- Memory that holds a pushed value: the bytes that may be read, and whether a NUL-terminated string
was stored there. -/
structure SettingValue where
  bytes : List UInt8
  isText : Bool
  deriving DecidableEq, Repr

namespace SettingValue

/-- Memory of unknown content followed by zeros, in which every getter may read. -/
def padded (bs : List UInt8) : SettingValue := ⟨bs ++ List.replicate 16 0, true⟩

def string? (v : SettingValue) : Option String :=
  if v.isText then some (CString.ofBytes v.bytes).text else none

def int? (v : SettingValue) : Option Int32 := (word? v.bytes).map (·.toInt32)

def uint? (v : SettingValue) : Option UInt32 := word? v.bytes

/-- The value as a truth value: any byte but zero is true. -/
def bool? (v : SettingValue) : Option Bool := v.bytes.head?.map (· ≠ 0)

def float? (v : SettingValue) : Option UInt32 := word? v.bytes

end SettingValue

namespace SettingInput

def string? (s : String) : Option SettingInput := (CString.ofText? s).map .string

def stored : SettingInput → SettingValue
  | .string s => ⟨s.bytes ++ [0], true⟩
  | .int i => ⟨wordBytes i.toUInt32, false⟩
  | .uint n => ⟨wordBytes n, false⟩
  | .bool b => ⟨[if b then 1 else 0], false⟩
  | .float bits => ⟨wordBytes bits, false⟩

end SettingInput

end AddonBridge
