import Lookout.Config.Layers
import Lookout.Text.Lowercase
/-!
Settings from the environment. The names of variables are paths with underscores between their
steps; a step of digits alone is an index.
-/
namespace Lookout.Config.Environment

/-- Parts of a name between underscores. -/
def segments : List Char → List (List Char)
  | [] => [[]]
  | c :: rest =>
    if c = '_' then [] :: segments rest
    else
      match segments rest with
      | s :: more => (c :: s) :: more
      | [] => [[c]]

/-- Whether a part of a name is an index. -/
def isIndex (segment : List Char) : Bool := !segment.isEmpty && segment.all Char.isDigit

/-- A part of a name behind others, as a step of a path. -/
def writeStep (segment : List Char) : List Char :=
  if isIndex segment then '[' :: segment ++ [']'] else '_' :: segment

/-- A name with brackets around the indices in it. -/
def indexed (name : List Char) : List Char :=
  match segments name with
  | [] => []
  | first :: rest => first ++ rest.flatMap writeStep

/-- What the names of all variables that hold settings begin with, in lower case. -/
def nameStart : List Char := "app_".toList

/-- The path that the rewritten name of a variable stands for, if it holds a setting. -/
def settingName? (name : String) : Option String :=
  if nameStart.isPrefixOf (Text.lowered name).toList then
    some (Text.lowered (String.ofList ((name.toList.drop nameStart.length).map fun c =>
      if c == '_' then '.' else c)))
  else none

/-- The source that settings from the environment have. -/
def origin : String := "the environment"

/-- The variables by their rewritten names; of equal names the last one counts. -/
def rewritten (bindings : List (String × String)) : List (String × String) :=
  bindings.foldl (fun done (name, value) =>
    Json.insertField (String.ofList (indexed name.toList)) value done) []

/-- The settings that variables with rewritten names hold; of equal settings the last one counts. -/
def layerOf (named : List (String × String)) : Layer :=
  named.foldl (fun done (name, value) =>
    match settingName? name with
    | some path => Json.insertField path (Tree.leaf (some origin) (.text value)) done
    | none => done) []

/-- The settings that variables hold. -/
def layer (bindings : List (String × String)) : Layer := layerOf (rewritten bindings)

end Lookout.Config.Environment
