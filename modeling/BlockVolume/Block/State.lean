import BlockVolume.Block.Location
import BlockVolume.Text.Fields
import BlockVolume.Text.Quoted
import BlockVolume.Text.Units

namespace BlockVolume

/-!
# Block states

A block state is a block name with properties such as `facing=north`. The
properties are kept sorted by the units of their names, so that the order in
which they were given leaves no trace, and the key is the quoted text of name
and properties. States are the same when their keys are.
-/

namespace BlockState

/-- The properties of a state: names with texts. -/
abbrev Properties := Fields String

/-- The identity of a state as text. -/
def keyText (name : Location) (properties : Properties) : String :=
  let pairs := properties.map fun property =>
    Quoted.list [Quoted.encode property.1, Quoted.encode property.2]
  Quoted.list [Quoted.encode name.text, Quoted.list pairs]

/-- Properties in the order of the units of their names. -/
def sortedByName {Value : Type} (properties : Fields Value) : Fields Value :=
  properties.mergeSort fun left right => Units.le left.1 right.1

end BlockState

/-- A block name with its properties, sorted by name. -/
structure BlockState where
  name : Location
  properties : BlockState.Properties
  /-- The identity of the state, kept so that lookups need not rebuild it. -/
  key : String
  key_eq : key = BlockState.keyText name properties
  deriving Repr, DecidableEq

namespace BlockState

/-- The state of a name and properties that are sorted already. -/
def ofSorted (name : Location) (properties : Properties) : BlockState :=
  { name, properties, key := keyText name properties, key_eq := rfl }

/-- The state of a name without properties. -/
def bare (name : Location) : BlockState :=
  ofSorted name []

/-- Air, which fills volumes where nothing else is said. -/
def air : BlockState :=
  bare ⟨"minecraft", "air", by decide, by decide⟩

instance : Inhabited BlockState where
  default := air

/-- The state of a name and properties in any order. -/
def make (name : Location) (properties : Properties) : BlockState :=
  ofSorted name (sortedByName properties)

/-- Requires every value to be a text; of several that are not, the first in sorted order is named. -/
def requireTexts
    (name : Location)
    (values : Fields (Option String)) :
    Except BlockError Properties :=
  values.mapM fun value =>
    match value.2 with
    | some text => .ok (value.1, text)
    | none => .error (.propertyNotText value.1 name.text)

/-- The state of a name and values, each of which must be a text. -/
def ofValues
    (name : Location)
    (values : Fields (Option String)) :
    Except BlockError BlockState :=
  (requireTexts name (sortedByName values)).map (ofSorted name)

/-- The state without properties that a text names. -/
def parse (text : String) : Except BlockError BlockState :=
  (Location.parse text).map bare

/-- Whether a state has properties. -/
def hasProperties (state : BlockState) : Bool :=
  !state.properties.isEmpty

/-- Whether two states are the same. -/
def same (left right : BlockState) : Bool :=
  left.key == right.key

/-- The name, followed by the listed properties in brackets if there are any. -/
def text (state : BlockState) : String :=
  if state.hasProperties then
    let listed := (Fields.listing state.properties).map fun property =>
      property.1 ++ "=" ++ property.2
    state.name.text ++ "[" ++ ",".intercalate listed ++ "]"
  else
    state.name.text

/-- States with one name and one property list have one key. -/
theorem key_eq_of_eq
    {left right : BlockState}
    (sameName : left.name = right.name)
    (sameProperties : left.properties = right.properties) :
    left.key = right.key := by
  rw [left.key_eq, right.key_eq, sameName, sameProperties]

/-- A name and a property list determine the state. -/
theorem ext_parts
    {left right : BlockState}
    (sameName : left.name = right.name)
    (sameProperties : left.properties = right.properties) :
    left = right := by
  have sameKey := key_eq_of_eq sameName sameProperties
  obtain ⟨leftName, leftProperties, leftKey, leftEq⟩ := left
  obtain ⟨rightName, rightProperties, rightKey, rightEq⟩ := right
  cases sameName
  cases sameProperties
  cases sameKey
  rfl

end BlockState

end BlockVolume
