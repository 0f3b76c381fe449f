import AddonBridge.Text.Blank
import AddonBridge.Text.Quoted

/-!
# Versions

Three numbers, ordered from left to right. A text is a version if it has one to three components
between dots, each an optional plus sign and digits below 2^32; blanks around it are ignored and
missing components are zero. `Version.parse` reads such a text and `Version.display` writes it.
-/

namespace AddonBridge

structure Version where
  major : UInt32
  minor : UInt32
  patch : UInt32
  deriving DecidableEq, Repr

namespace Version

def unknown : Version := ⟨0, 0, 0⟩

/-- Versions compare by their first differing component. -/
instance : Ord Version where
  compare a b := (compare a.major b.major).then
    ((compare a.minor b.minor).then (compare a.patch b.patch))

instance : LE Version := ⟨fun a b => (compare a b).isLE = true⟩

instance (a b : Version) : Decidable (a ≤ b) := inferInstanceAs (Decidable (_ = true))

/-- Whether what needs at least `required` runs on a side that provides `provided`: the same major
version, and no older. -/
def isSatisfiedBy (required provided : Version) : Bool :=
  required.major = provided.major ∧ required ≤ provided

def display (v : Version) : String :=
  toString v.major.toNat ++ "." ++ toString v.minor.toNat ++ "." ++ toString v.patch.toNat

/-- The texts between the dots; there is one more than there are dots. -/
def components : List Char → List (List Char)
  | [] => [[]]
  | c :: cs =>
    if c = '.' then [] :: components cs
    else match components cs with
      | [] => [[c]]
      | part :: parts => (c :: part) :: parts

def decimal (cs : List Char) : Nat := cs.foldl (fun n c => n * 10 + (c.toNat - '0'.toNat)) 0

def unsigned : List Char → List Char
  | '+' :: cs => cs
  | cs => cs

def component? (cs : List Char) : Option UInt32 :=
  let digits := unsigned cs
  if digits ≠ [] ∧ digits.all Char.isDigit ∧ decimal digits < UInt32.size then
    some (UInt32.ofNat (decimal digits))
  else none

def parse? (s : String) : Option Version :=
  match components (Text.trim s.toList) with
  | [a] => do return ⟨← component? a, 0, 0⟩
  | [a, b] => do return ⟨← component? a, ← component? b, 0⟩
  | [a, b, c] => do return ⟨← component? a, ← component? b, ← component? c⟩
  | _ => none

structure ParseError where
  input : String
  deriving DecidableEq, Repr

def ParseError.message (e : ParseError) : String :=
  "Invalid version string: " ++ Text.quote e.input

def parse (s : String) : Except ParseError Version :=
  match parse? s with
  | some v => .ok v
  | none => .error ⟨s⟩

/-- Reads texts as versions and puts them in ascending order. The first that is no version fails. -/
def sorted (texts : List String) : Except ParseError (List Version) := do
  let versions ← texts.mapM parse
  return versions.mergeSort fun a b => (compare a b).isLE

def max (a b : Version) : Version := if a ≤ b then b else a

end Version

end AddonBridge
