import EntitySync.Stream.Word
import EntitySync.Demo.Error
/-!
# Byte sources

A recording is read from the front of a byte string. A read of `n` bytes either takes them or,
when fewer remain, fails and leaves nothing behind: a read past the end consumes what was left.
-/

namespace EntitySync

/-- The bytes not yet read, and how many were read before them. -/
structure Source where
  rest : Bytes
  pos : Nat
  deriving DecidableEq, Repr

namespace Source

def init (data : Bytes) : Source := ⟨data, 0⟩

/-- The next `n` bytes; a short read fails and exhausts the source. -/
def readExact (s : Source) (n : Nat) : Except FileError Bytes × Source :=
  if n ≤ s.rest.length then (.ok (s.rest.take n), ⟨s.rest.drop n, s.pos + n⟩)
  else (.error .unexpectedEnd, ⟨[], s.pos + s.rest.length⟩)

def readWord (s : Source) (w : Nat) : Except FileError Nat × Source :=
  let (r, s) := s.readExact w
  (r.map ofLE, s)

end Source

/-- A read from a source that may fail with a recording error; a failed read keeps the source
as the failure left it. -/
abbrev SourceRead (α : Type) := ExceptT DemoError (StateM Source) α

namespace SourceRead

def bytes (n : Nat) : SourceRead Bytes := do
  let (r, s) := (← get).readExact n
  modify fun _ => s
  match r with
  | .ok bs => pure bs
  | .error e => throw (.file e)

def word (w : Nat) : SourceRead Nat := do
  return ofLE (← bytes w)

def signed (w : Nat) : SourceRead Int := do
  return signedOf w (← word w)

def run {α : Type} (r : SourceRead α) (s : Source) : Except DemoError α × Source :=
  (ExceptT.run r).run s

end SourceRead

end EntitySync
