import RowTypes.Config
import RowTypes.Config.Error
import RowTypes.Toml.Reader

/-!
Options from TOML. Unknown keys do not count, and every option has a default. The options of a table
are a table or an array of their values in order.
-/

namespace RowTypes

namespace Toml

def asString? : Toml → Option String
  | text value => some value
  | _ => none

def asBool? : Toml → Option Bool
  | boolean value => some value
  | _ => none

def asStrings? : Toml → Option (List String)
  | array items => items.mapM asString?
  | _ => none

/-- Whether a value is an array or a table that holds nothing. -/
def isVoid : Toml → Bool
  | array items => items.isEmpty
  | table _ entries => entries.isEmpty
  | tables items => items.isEmpty
  | _ => false

end Toml

/-- The value of an option, or its default if it is not set. -/
def TomlEntries.option {α : Type} (entries : TomlEntries) (key : String) (default : α)
    (read : Toml → Option α) : Option α :=
  match entries.lookup key with
  | some value => read value
  | none => some default

namespace RelationshipPolicy

/-- A policy by its name, or by a table with the name as its only key and nothing below it. -/
def ofToml? : Toml → Option RelationshipPolicy
  | .text name => ofName? name
  | .table _ [(name, value)] => if value.isVoid then ofName? name else none
  | _ => none

end RelationshipPolicy

namespace TableConfig

/-- The options of a table, from the values by key. -/
def ofEntries? (entries : TomlEntries) : Option TableConfig := do
  return {
    path := ← entries.option "path" none fun value => value.asString?.map some
    packageName := ← entries.option "namespace" none fun value => value.asString?.map some
    suffix := ← entries.option "suffix" none fun value => value.asString?.map some
    includeReferenced := ← entries.option "include_referenced" [] Toml.asStrings?
    includePointed := ← entries.option "include_pointed" false Toml.asBool? }

/-- The keys of the options of a table in their order. -/
def keys : List String :=
  ["path", "namespace", "suffix", "include_referenced", "include_pointed"]

/-- The options of a table. A date sets none of them. -/
def ofToml? : Toml → Option TableConfig
  | .table _ entries => ofEntries? entries
  | .array items => ofEntries? (keys.zip items)
  | .scalar .dateTime => some {}
  | _ => none

end TableConfig

namespace Config

/-- The options of all tables that have some. -/
def tablesOfToml? : Toml → Option (List (String × TableConfig))
  | .table _ entries =>
    entries.mapM fun (key, value) => (TableConfig.ofToml? value).map fun table => (key, table)
  | _ => none

/-- The options that the values by key spell. -/
def ofEntries? (entries : TomlEntries) : Option Config := do
  return {
    outputRoot := ← entries.option "output_root" "" Toml.asString?
    packageName := ← entries.option "namespace" "" Toml.asString?
    suffix := ← entries.option "suffix" "" Toml.asString?
    policy := ← entries.option "relationship_policy" .lenient RelationshipPolicy.ofToml?
    formatter := ← entries.option "formatter" none fun value => value.asStrings?.map some
    tables := ← entries.option "tables" [] tablesOfToml? }

/-- Usable options from the text of a configuration. -/
def parse (text : String) : Except ConfigError Config :=
  match (Toml.parse? text).bind ofEntries? with
  | none => .error .malformed
  | some config => if config.isValid then .ok config else .error .noFormatterProgram

end Config

end RowTypes
