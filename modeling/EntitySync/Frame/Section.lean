import EntitySync.Stream.Varint
/-!
# Sections

After its header a frame carries sections, each a tag byte, the body length as a varint and
the body. There are two kinds: the config-string table and the entity states.
-/

namespace EntitySync

/-- The kind of a section. -/
inductive SectionTag where
  | configStrings
  | entities
  deriving DecidableEq, Repr

namespace SectionTag

def code : SectionTag → Nat
  | configStrings => 1
  | entities => 2

/-- The section kind of a tag byte, if it names one. -/
def ofCode? : Nat → Option SectionTag
  | 1 => some configStrings
  | 2 => some entities
  | _ => none

def name : SectionTag → String
  | configStrings => "ConfigStrings"
  | entities => "Entities"

theorem ofCode?_code (t : SectionTag) : ofCode? t.code = some t := by
  cases t <;> rfl

end SectionTag

/-- One section of a frame. -/
structure Section where
  tag : SectionTag
  body : Bytes
  deriving DecidableEq, Repr

/-- The bytes a section with a body of `bodyLen` bytes takes: tag, length and body. -/
def sectionLen (bodyLen : Nat) : Nat := 1 + varintLen bodyLen + bodyLen

def Section.encoding (s : Section) : Bytes :=
  UInt8.ofNat s.tag.code :: (encodeVarint s.body.length ++ s.body)

end EntitySync
