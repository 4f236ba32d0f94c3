import Listing.Schema

/-!
# Rejections

Why a filter or a sort order is refused, in the words of the request. `Rejection.kind` is the
stable name of a cause and `Rejection.message` its wording.
-/

set_option autoImplicit false

namespace Listing

/-- The request parameter an expression came in. -/
inductive Parameter
  | filterBy
  | sortBy
deriving Repr, DecidableEq

namespace Parameter

def name : Parameter → String
  | .filterBy => "filterBy"
  | .sortBy => "sortBy"

/-- The forms an expression of the parameter may take. -/
def form : Parameter → String
  | .filterBy => "field.value or field.operator.value"
  | .sortBy => "field.direction"

end Parameter

inductive Rejection
  | malformed (parameter : Parameter) (input : String)
  | emptySegment (parameter : Parameter) (input : String)
  | unknownOperator (token : String)
  | unknownField (field entity : String)
  | partialMatch (field : Schema.Field)
  | comparison (field : Schema.Field)
  | invalidValue (field : Schema.Field) (value : String)
  | invalidDirection (token : String)
  | notSortable (field : String)
deriving Repr, DecidableEq

namespace Rejection

/-- The name of a cause. A field whose type does not fit the form of the filter has one name for
both forms. -/
def kind : Rejection → String
  | .malformed .. => "malformed_expression"
  | .emptySegment .. => "empty_component"
  | .unknownOperator .. => "unknown_operator"
  | .unknownField .. => "unknown_field"
  | .partialMatch .. | .comparison .. => "type_mismatch"
  | .invalidValue .. => "invalid_value_type"
  | .invalidDirection .. => "invalid_direction"
  | .notSortable .. => "not_sortable"

def message : Rejection → String
  | .malformed p input =>
    "malformed " ++ p.name ++ " query parameter '" ++ input ++ "', expected " ++ p.form
  | .emptySegment p input =>
    "malformed " ++ p.name ++ " query parameter '" ++ input ++ "', segments can't be empty"
  | .unknownOperator token =>
    "operator '" ++ token ++ "' not allowed, expected one of lt, le, gt, ge, eq"
  | .unknownField field entity => "no field named '" ++ field ++ "' on " ++ entity
  | .partialMatch f =>
    "field '" ++ f.name ++ "' is a " ++ f.type.name
      ++ " field, partial match needs a string field, use field.operator.value"
  | .comparison f =>
    "field '" ++ f.name ++ "' is a " ++ f.type.name
      ++ " field, comparison operators are not supported, use field.value"
  | .invalidValue f value =>
    "value '" ++ value ++ "' is not a valid " ++ f.type.name ++ " for field '" ++ f.name ++ "'"
  | .invalidDirection token =>
    "sort direction '" ++ token ++ "' not allowed, expected asc or desc"
  | .notSortable field => "field '" ++ field ++ "' is not sortable"

end Rejection

end Listing
