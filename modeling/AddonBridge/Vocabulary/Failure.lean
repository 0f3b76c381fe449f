import AddonBridge.Text.CString
import AddonBridge.Text.Fields
import AddonBridge.Vocabulary.AddonType
import AddonBridge.Vocabulary.Status

/-!
# Errors

Three kinds of failure. An addon reports an `AddonError` when it cannot be built. A host gets a
`HostError` from an operation that it asked for wrongly. A `Defect` is a mistake in the addon's own
code, found while handing out instances.
-/

namespace AddonBridge

inductive AddonError where
  /-- A text for the host has a NUL at a byte position. -/
  | nul (position : Nat)
  | missingHostFunction (name : String)
  | status (status : Status)
  | io (message : String)
  | custom (message : String)
  deriving DecidableEq, Repr

namespace AddonError

def ofText? (s : String) : Option AddonError := (CString.nulPosition? s).map .nul

def toStatus : AddonError → Status
  | .status s => s
  | _ => .permanentFailure

def source? : AddonError → Option String
  | .nul position => some ("nul byte found in provided data at position: " ++ toString position)
  | .io message | .custom message => some message
  | .missingHostFunction _ | .status _ => none

def message : AddonError → String
  | .nul position =>
    "Failed to encode string for the host: " ++
      "nul byte found in provided data at position: " ++ toString position
  | .missingHostFunction name => "Host does not provide the required function '" ++ name ++ "'"
  | .status s => "Addon failed with status: " ++ s.label
  | .io message | .custom message => message

end AddonError

/-- Why a host's operation on an addon failed. -/
inductive HostError where
  | nulString
  | alreadyCreated
  | notCreated
  | missingAddonFunction (name : String)
  | unknownType (addonType : AddonType)
  | libraryLoading
  deriving DecidableEq, Repr

namespace HostError

/-- The text of an error. The loader's own words are not part of it. -/
def message : HostError → String
  | .nulString => "String contains an interior NUL byte"
  | .alreadyCreated => "Addon was already created"
  | .notCreated => "Addon is not created"
  | .missingAddonFunction name => "Addon did not register its '" ++ name ++ "' function"
  | .unknownType t => "Addon declares no version for type " ++ t.display
  | .libraryLoading => "Failed to load addon library"

def hasSource : HostError → Bool
  | .libraryLoading => true
  | _ => false

end HostError

/-- A mistake in an addon's code, found while dispatching. -/
inductive Defect where
  /-- A factory reported a status that promises an instance, and gave none. -/
  | missingInstance (requested : AddonType) (status : Status)
  /-- A factory gave an instance of a type that was not asked for. -/
  | createdTypeMismatch (requested produced : AddonType)
  /-- An instance was to be destroyed under a type that it does not have. -/
  | destroyedTypeMismatch (requested present : AddonType)
  deriving DecidableEq, Repr

namespace Defect

def message : Defect → String
  | .missingInstance requested status =>
    "Instance factory for type " ++ requested.display ++ " reported '" ++ status.label ++
      "' without creating an instance"
  | .createdTypeMismatch requested produced =>
    "Instance type mismatch: created an instance of type " ++ produced.display ++ ", but " ++
      requested.display ++ " was requested"
  | .destroyedTypeMismatch requested present =>
    "Instance type mismatch: asked to destroy an instance of type " ++ requested.display ++
      ", but it has type " ++ present.display

def debug : Defect → String
  | .missingInstance requested status =>
    Text.fields "MissingInstance" [("requested", requested.debug), ("status", status.debug)]
  | .createdTypeMismatch requested produced =>
    Text.fields "CreatedTypeMismatch" [("requested", requested.debug), ("produced", produced.debug)]
  | .destroyedTypeMismatch requested present =>
    Text.fields "DestroyedTypeMismatch" [("requested", requested.debug), ("present", present.debug)]

end Defect

end AddonBridge
