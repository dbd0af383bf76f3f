/-! Roles that a node may play for its parent. -/

set_option autoImplicit false

namespace JavaAudit

inductive Role where
  | name
  | type
  | body
  | declarator
  | value
  | parameters
  | left
  | right
  | operator
  | condition
  | object
  | field
  | arguments
  | array
  | index
  | other (name : String)
  deriving DecidableEq, Repr

namespace Role

def roleName : Role → String
  | .name => "name"
  | .type => "type"
  | .body => "body"
  | .declarator => "declarator"
  | .value => "value"
  | .parameters => "parameters"
  | .left => "left"
  | .right => "right"
  | .operator => "operator"
  | .condition => "condition"
  | .object => "object"
  | .field => "field"
  | .arguments => "arguments"
  | .array => "array"
  | .index => "index"
  | .other text => text

def known : List Role := [
  .name, .type, .body, .declarator, .value, .parameters, .left, .right, .operator, .condition,
  .object, .field, .arguments, .array, .index]

/-- The role of a given name; the empty name stands for no role. -/
def ofName? (text : String) : Option Role :=
  if text.isEmpty then none
  else some ((known.find? (·.roleName == text)).getD (.other text))

end Role

end JavaAudit
