/-!
# Type tags

A tag says which part of the interface something belongs to: one of the global parts, or a kind of
instance. Tags are open: one without a name is as good as any other.
-/

namespace AddonBridge

structure AddonType where
  raw : Int32
  deriving DecidableEq, Repr

namespace AddonType

def names : List (AddonType × String) :=
  [(⟨0⟩, "main"), (⟨1⟩, "gui"), (⟨2⟩, "audioengine"), (⟨3⟩, "general"), (⟨4⟩, "network"),
    (⟨5⟩, "filesystem"), (⟨102⟩, "audiodecoder"), (⟨103⟩, "audioencoder"), (⟨104⟩, "game"),
    (⟨105⟩, "inputstream"), (⟨106⟩, "peripheral"), (⟨107⟩, "pvr"), (⟨108⟩, "screensaver"),
    (⟨109⟩, "visualization"), (⟨110⟩, "vfs"), (⟨111⟩, "imagedecoder"), (⟨112⟩, "videocodec")]

def isGlobal (t : AddonType) : Bool := 0 ≤ t.raw ∧ t.raw ≤ 5

def isInstance (t : AddonType) : Bool := 102 ≤ t.raw ∧ t.raw ≤ 112

def name? (t : AddonType) : Option String := (names.find? (·.1 = t)).map (·.2)

def display (t : AddonType) : String :=
  (t.name?.getD "unknown type") ++ " (" ++ toString t.raw.toInt ++ ")"

def debug (t : AddonType) : String := "AddonType(" ++ toString t.raw.toInt ++ ")"

end AddonType

end AddonBridge
