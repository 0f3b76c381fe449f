import AddonBridge.Text.CString
import AddonBridge.Vocabulary.AddonType
import AddonBridge.Vocabulary.Version

/-!
# Version tables

An addon says for each type which version it was built against and which is the oldest it accepts.
Only the first row of a type counts.
-/

namespace AddonBridge

structure TypeVersion where
  addonType : AddonType
  version : CString
  minVersion : CString
  deriving DecidableEq

/-- The version that a table's text writes; a text that writes none counts as unknown. -/
def Version.ofCString (s : CString) : Version := (s.text?.bind Version.parse?).getD .unknown

abbrev VersionTable := List TypeVersion

namespace VersionTable

def row? (table : VersionTable) (t : AddonType) : Option TypeVersion :=
  table.find? (·.addonType = t)

def unknownText : CString := .strip "0.0.0"

def version (table : VersionTable) (t : AddonType) : CString :=
  ((table.row? t).map (·.version)).getD unknownText

/-- The text of the oldest version that an addon accepts for a type. -/
def minVersion (table : VersionTable) (t : AddonType) : CString :=
  ((table.row? t).map (·.minVersion)).getD unknownText

private def row (t : Int32) (version minVersion : String) : TypeVersion :=
  ⟨⟨t⟩, .strip version, .strip minVersion⟩

def standard : VersionTable :=
  [row 0 "1.0.14" "1.0.12", row 1 "5.14.0" "5.14.0", row 2 "1.1.0" "1.1.0",
    row 3 "1.0.4" "1.0.4", row 4 "1.0.4" "1.0.0", row 5 "1.1.3" "1.1.3",
    row 102 "2.0.1" "2.0.1", row 103 "2.0.1" "2.0.1", row 104 "2.1.0" "2.1.0",
    row 105 "2.3.0" "2.3.0", row 106 "1.3.8" "1.3.4", row 107 "6.5.1" "6.5.1",
    row 108 "2.0.1" "2.0.1", row 109 "2.0.1" "2.0.1", row 110 "2.3.0" "2.3.0",
    row 111 "2.0.0" "2.0.0", row 112 "1.0.2" "1.0.1"]

end VersionTable

end AddonBridge
