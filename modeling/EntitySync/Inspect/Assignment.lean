import EntitySync.Demo.Metadata
/-!
# Metadata assignments

An assignment `key=value` sets a metadata entry; an empty value removes the entry instead. The
key is what stands before the first `=`, and it must not be empty.
-/

namespace EntitySync

/-- The key and value of an assignment, or the text saying why it is none. -/
def parseAssignment (arg : String) : Except String (String × String) :=
  let cs := arg.toList
  match cs.findIdx? (· == '=') with
  | some i =>
    if i = 0 then .error s!"expected key=value, got '{arg}'"
    else .ok (String.ofList (cs.take i), String.ofList (cs.drop (i + 1)))
  | none => .error s!"expected key=value, got '{arg}'"

/-- Applies assignments in turn: an empty value removes its key, any other value sets it. The
metadata keeps the assignments made before one that is refused, and the refusal stands beside
it. -/
def applyAssignments (m : DemoMetadata) :
    List (String × String) → DemoMetadata × Except MetadataError Unit
  | [] => (m, .ok ())
  | (k, v) :: rest =>
    if v.isEmpty then applyAssignments (m.remove k).2 rest
    else match m.set k v with
      | .ok m' => applyAssignments m' rest
      | .error e => (m, .error e)

end EntitySync
