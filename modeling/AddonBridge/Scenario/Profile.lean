import AddonBridge.Boundary.Host

/-!
# Host profiles

Hosts that answer from tables, and refuse the settings of a list of identifiers.
-/

namespace AddonBridge.Scenario

structure Profile where
  addonPath : String := ""
  userPath : String := ""
  typeVersions : Assoc AddonType String := []
  /-- Interfaces by name and version, with a bar between the two. -/
  interfaces : Assoc String HostHandle := []
  settings : Assoc String Setting := []
  rejected : List String := []

namespace Profile

/-- The settings after what came to the host. -/
def settingsAfter (p : Profile) : List HostQuery → Assoc String Setting
  | [] => p.settings
  | .setSetting id v true :: past => (p.settingsAfter past).set id v
  | _ :: past => p.settingsAfter past

def listing (p : Profile) (past : List HostQuery) : List (String × Setting) :=
  (p.settingsAfter past).mergeSort fun a b => a.1 ≤ b.1

def host (p : Profile) : Host where
  answer past
    | .typeVersion ty => (p.typeVersions.get? ty).getD "0.0.0"
    | .addonPath => p.addonPath
    | .userPath => p.userPath
    | .log .. => ()
    | .setting id => (p.settingsAfter past).get? id
    | .setSetting id _ => decide (id ∉ p.rejected)
    | .interface name version => (p.interfaces.get? (name ++ "|" ++ version)).getD .null

end Profile

end AddonBridge.Scenario
