/-!
# UTF-8

Characters and their bytes. Reading goes one byte at a time: `State.step` takes a byte and says which
characters, and which unreadable stretches, it completes. A stretch of bytes that no character starts
with is cut off as early as it can be told, so each is as long as possible and still the start of
some character.
-/

namespace AddonBridge.Text.Utf8

def encode (cs : List Char) : List UInt8 := cs.flatMap String.utf8EncodeChar

inductive State where
  | start
  /-- Inside a character: `left` more bytes are owed, the next one between `low` and `high`, and the
  bytes so far hold the number `acc`. -/
  | inside (left : Nat) (low high : UInt8) (acc : Nat)
  deriving DecidableEq, Repr

/-- What the first byte of a character says: a whole character, how the character goes on, or
that no character starts this way. -/
def first (b : UInt8) : List (Option Char) × State :=
  if b < 0x80 then ([some (Char.ofNat b.toNat)], .start)
  else if b < 0xC2 then ([none], .start)
  else if b < 0xE0 then ([], .inside 1 0x80 0xBF (b.toNat - 0xC0))
  else if b = 0xE0 then ([], .inside 2 0xA0 0xBF 0)
  else if b = 0xED then ([], .inside 2 0x80 0x9F 13)
  else if b < 0xF0 then ([], .inside 2 0x80 0xBF (b.toNat - 0xE0))
  else if b = 0xF0 then ([], .inside 3 0x90 0xBF 0)
  else if b < 0xF4 then ([], .inside 3 0x80 0xBF (b.toNat - 0xF0))
  else if b = 0xF4 then ([], .inside 3 0x80 0x8F 4)
  else ([none], .start)

/-- Takes one byte. A byte that does not continue the character at hand ends an unreadable stretch
and is then read as a first byte. -/
def State.step : State → UInt8 → List (Option Char) × State
  | .start, b => first b
  | .inside left low high acc, b =>
    if low ≤ b ∧ b ≤ high then
      let acc := acc * 64 + (b.toNat - 0x80)
      if left ≤ 1 then ([some (Char.ofNat acc)], .start) else ([], .inside (left - 1) 0x80 0xBF acc)
    else
      let (out, next) := first b
      (none :: out, next)

/-- The characters of the bytes still to be read, with `none` for each unreadable stretch. -/
def State.read : State → List UInt8 → List (Option Char)
  | .start, [] => []
  | .inside .., [] => [none]
  | s, b :: bs => (s.step b).1 ++ (s.step b).2.read bs

/-- The characters of the bytes, with `none` for each unreadable stretch. -/
def pieces (bs : List UInt8) : List (Option Char) := State.start.read bs

/-- Reads bytes as a text, with U+FFFD for each unreadable stretch. -/
def decodeLossy (bs : List UInt8) : List Char := (pieces bs).map (·.getD '\uFFFD')

/-- Reads bytes as a text, or nothing if some of them are unreadable. -/
def decode? (bs : List UInt8) : Option (List Char) := (pieces bs).mapM id

@[simp] theorem encode_nil : encode [] = [] := rfl

@[simp] theorem encode_cons (c : Char) (cs : List Char) :
    encode (c :: cs) = String.utf8EncodeChar c ++ encode cs := rfl

end AddonBridge.Text.Utf8
