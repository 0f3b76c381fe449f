/-!
# Shown structures

How values with named parts are shown in messages: the name, then the parts in braces.
-/

namespace AddonBridge.Text

/-- A name with its parts, each a field's name and the text of its value. -/
def fields (name : String) (parts : List (String × String)) : String :=
  name ++ " \x7b " ++ ", ".intercalate (parts.map fun (field, value) => field ++ ": " ++ value) ++
    " \x7d"

def optional : Option String → String
  | some s => "Some(" ++ s ++ ")"
  | none => "None"

def truth (b : Bool) : String := if b then "true" else "false"

end AddonBridge.Text
