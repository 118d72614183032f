import SkillNode.Statechart.Model

/-!
# Access to response fields

The C++ expression that reads a field of a response or message and hands it to
the state machine. Strings are handed over as character data, wide strings and
64-bit integers are converted, and arrays and nested messages cannot be handed
over at all.
-/

namespace SkillNode
namespace Cpp

open Statechart (ResolvedField)

/-- The expression that reads a field of a root object, none if the field is an
array or a nested message. -/
def access? (field : ResolvedField) (root : Text) : Option Text :=
  let expression := root ++ "->" ++ field.name
  match field.type with
  | .compound => none
  | .string => some (expression ++ ".c_str()")
  | .wstring => some ("QString::fromStdU16String(" ++ expression ++ ")")
  | .int64 => some ("static_cast<qlonglong>(" ++ expression ++ ")")
  | .uint64 => some ("static_cast<qulonglong>(" ++ expression ++ ")")
  | _ => some expression

/-- Only arrays and nested messages cannot be read. -/
theorem access?_eq_none_iff (field : ResolvedField) (root : Text) :
    access? field root = none ↔ field.type = .compound := by
  cases typeCase : field.type <;> simp [access?, typeCase]

end Cpp
end SkillNode
