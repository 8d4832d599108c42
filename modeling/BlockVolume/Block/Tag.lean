import BlockVolume.Block.State

namespace BlockVolume

/-!
# Tagged form of block states

World files keep a block state as a compound of named tags: the name as a
text, and the properties, if there are any, as a compound of texts.
-/

/-- A tagged value, as far as block states need it; other kinds are known by name only. -/
inductive Tag where
  | text (value : String)
  | compound (entries : List (String × Tag))
  | other (name : String)
  deriving Repr

namespace Tag

/-- The name of a tag's kind. -/
def kind : Tag → String
  | .text _ => "string"
  | .compound _ => "compound"
  | .other name => name

/-- The entries of properties, in the order in which they are listed. -/
def ofProperties (properties : BlockState.Properties) : List (String × Tag) :=
  (Fields.listing properties).map fun property => (property.1, .text property.2)

/-- Assigns an entry to the properties read so far; a property is a text. -/
def readProperty
    (properties : BlockState.Properties)
    (entry : String × Tag) :
    Except BlockError BlockState.Properties :=
  match entry.2 with
  | .text value => .ok (properties.assign entry.1 value)
  | tag => .error (.tagNotText entry.1 tag.kind)

/-- The properties that the entries of a compound spell. -/
def toProperties (entries : List (String × Tag)) : Except BlockError BlockState.Properties :=
  entries.foldlM readProperty []

/-- The entry of the name of a state. -/
def nameField : String := "Name"

/-- The entry of the properties of a state. -/
def propertiesField : String := "Properties"

/-- The entries of a block state's compound. -/
def ofState (state : BlockState) : List (String × Tag) :=
  let name := (nameField, Tag.text state.name.text)
  if state.hasProperties then
    [name, (propertiesField, .compound (ofProperties state.properties))]
  else
    [name]

/-- Entries that are texts with names of their own are read back as they stand. -/
theorem readProperty_text
    {name : String}
    (notReserved : name ≠ Fields.reservedName)
    (properties : BlockState.Properties)
    (value : String) :
    readProperty properties (name, .text value) = .ok (properties.insert name value) := by
  simp [readProperty, Fields.assign, notReserved]

end Tag

end BlockVolume
