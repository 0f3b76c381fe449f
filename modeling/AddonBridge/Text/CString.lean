import AddonBridge.Text.Utf8

/-!
# NUL-terminated strings

The strings that cross between host and addon. They are bytes without a NUL, since a NUL would end
them; their terminator is not written down. Texts go in whole (`ofText?`), or with their NUL
characters taken out (`strip`), and come back with unreadable bytes replaced (`text`).
-/

namespace AddonBridge

/-- The bytes of a NUL-terminated string, up to its terminator. -/
structure CString where
  bytes : List UInt8
  nul_not_mem : 0 ∉ bytes
  deriving DecidableEq, Repr

namespace CString

/-- The string that starts where `bs` starts and ends before its first NUL. -/
def ofBytes (bs : List UInt8) : CString where
  bytes := bs.takeWhile (· ≠ 0)
  nul_not_mem h := by simpa using List.all_eq_true.mp List.all_takeWhile 0 h

def bytesOf (s : String) : List UInt8 := Text.Utf8.encode s.toList

def nulPosition? (s : String) : Option Nat := (bytesOf s).findIdx? (· = 0)

/-- A text as a string, unless a NUL would cut it short. -/
def ofText? (s : String) : Option CString :=
  if h : 0 ∈ bytesOf s then none else some ⟨bytesOf s, h⟩

def strip (s : String) : CString where
  bytes := (bytesOf s).filter (· ≠ 0)
  nul_not_mem h := by simp at h

def empty : CString := ⟨[], List.not_mem_nil⟩

/-- The text of a string, with U+FFFD for what is not UTF-8. -/
def text (s : CString) : String := String.ofList (Text.Utf8.decodeLossy s.bytes)

def text? (s : CString) : Option String := (Text.Utf8.decode? s.bytes).map String.ofList

/-- The text behind a pointer that may be null, which reads as no text at all. -/
def textOrEmpty (s : Option CString) : String := (s.map text).getD ""

theorem ofText?_eq_none_iff {s : String} : ofText? s = none ↔ 0 ∈ bytesOf s := by
  unfold ofText?; split <;> simp_all

end CString

end AddonBridge
