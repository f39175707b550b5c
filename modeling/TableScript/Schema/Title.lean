import TableScript.Text.Title
import TableScript.Value.Basic

set_option autoImplicit false

namespace TableScript

namespace Field

/-- The title in the metadata if it is a text, otherwise one made from the name. -/
def title (field : Field Value) : String :=
  match field.metadata.get? "title" with
  | some (.text title) => title
  | _ => Text.titleCase field.name

def isHidden (field : Field Value) : Bool :=
  match field.metadata.get? "hidden" with
  | some (.bool value) => value
  | _ => false

end Field

namespace Schema

/-- The title of a field; one that is not declared gets a title made from its name. -/
def title (schema : Schema Value) (name : String) : String :=
  match schema.field? name with
  | some field => field.title
  | none => Text.titleCase name

def metadata (schema : Schema Value) (name key : String) : Value :=
  (schema.metadata? name key).getD .null

/-- The fields that are neither generated nor hidden. -/
def visibleFields (schema : Schema Value) : List String :=
  (schema.fields.filter fun field => !field.auto && !field.isHidden).map (·.name)

end Schema

end TableScript
