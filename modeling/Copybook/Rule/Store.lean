import Copybook.Log
import Copybook.Rule.Table
import Copybook.Rule.Template

/-!
Rule stores and look-ups in them. Whatever comes from a short row of a table may be missing. A rule
is a text, as every rule of a file is, but any value can be kept in the place of one. -/
namespace Copybook
namespace Rule

abbrev Store := Table (Option Text) Json.Value

namespace Store

/-- The rule of a name in a category; null says that there is none. -/
def rule (s : Store) (category name : Option Text) : Json.Value :=
  (s.find? category name).getD .null

end Store

structure Resolution where
  notes : List Log.Record
  result : Except TemplateFailure (Option Text)

/-- The record of a look-up in vain; it is lost when a key cannot be written. -/
def missNotes (category name : Json.Value) : List Log.Record :=
  if category.isWritable && name.isWritable then
    [⟨.debug, Log.Channel.rules, "No " ++ category.shown ++ " rule for " ++ name.inner⟩]
  else []

/-- Looks up a rule, substitutes values and evaluates expressions; without a rule the default is
taken as it is. -/
def resolve (s : Store) (category name : Option Text) (values : List (Text × Text))
    (default : Option Text) : Resolution :=
  match s.rule category name with
  | .null => ⟨missNotes (.ofOption category) (.ofOption name), .ok default⟩
  | .text rule => ⟨[], (process (substitute values rule)).map some⟩
  | _ => ⟨[], .error .notText⟩

end Rule
end Copybook
