import AddonBridge.Assoc
import AddonBridge.Vocabulary.AddonType
import AddonBridge.Vocabulary.Handle
import AddonBridge.Vocabulary.LogLevel
import AddonBridge.Vocabulary.Setting
import AddonBridge.Text.CString

/-!
# Hosts

What a host does for the addons that it loads. Its answers are its own affair: they may depend on all
that came to it before, log records included. A host that says nothing of a service gives the
neutral answer.
-/

namespace AddonBridge

/-- Something that a host is asked for, or told. -/
inductive Question where
  | typeVersion (addonType : AddonType)
  | addonPath
  | userPath
  | log (level : LogLevel) (message : String)
  | setting (id : String)
  /-- Whether the host accepts a value for a setting. -/
  | setSetting (id : String) (value : Setting)
  | interface (name version : String)
  deriving DecidableEq, Repr

/-- A call that reached a host, or a string of its that went out or came back. -/
inductive HostQuery where
  | typeVersion (addonType : AddonType)
  | addonPath
  | userPath
  | log (level : LogLevel) (message : String)
  | setting (id : String)
  | setSetting (id : String) (value : Setting) (accepted : Bool)
  | interface (name version : String)
  | shared (text : CString)
  | freed (text : CString)
  deriving DecidableEq, Repr

namespace Question

abbrev Answer : Question → Type
  | .typeVersion _ | .addonPath | .userPath => String
  | .log .. => Unit
  | .setting _ => Option Setting
  | .setSetting .. => Bool
  | .interface .. => HostHandle

def neutral : (q : Question) → q.Answer
  | .typeVersion _ => "0.0.0"
  | .addonPath | .userPath => ""
  | .log .. => ()
  | .setting _ => none
  | .setSetting .. => false
  | .interface .. => .null

/-- A question that came to a host, with what is to be seen of the answer. -/
def answered : (q : Question) → q.Answer → HostQuery
  | .typeVersion ty, _ => .typeVersion ty
  | .addonPath, _ => .addonPath
  | .userPath, _ => .userPath
  | .log level message, _ => .log level message
  | .setting id, _ => .setting id
  | .setSetting id value, accepted => .setSetting id value accepted
  | .interface name version, _ => .interface name version

end Question

/-- A host: its answer to a question, in view of what came to it before, the latest first. There is
more of that with every question, so a host may give any answers one after the other, be it for what
goes on elsewhere or as time goes by. -/
structure Host where
  answer : List HostQuery → (q : Question) → q.Answer := fun _ q => q.neutral

end AddonBridge
