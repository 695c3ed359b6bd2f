import GridStore.Kind

/-!
# Choices

A type of finitely many values, each with the label by which columns and documents name it.
-/

namespace GridStore

/-- A type whose values are written as labels. -/
class Choice (α : Type) where
  /-- The name of the type. -/
  name : String
  /-- Every value. -/
  all : List α
  /-- The label of a value. -/
  label : α → String

/-- The value with a label. -/
def Choice.ofLabel? {α : Type} [Choice α] (label : String) : Option α :=
  (Choice.all (α := α)).find? fun a => Choice.label a = label

instance : Choice Kind where
  name := "ResourceType"
  all := Kind.all
  label := Kind.label

end GridStore
