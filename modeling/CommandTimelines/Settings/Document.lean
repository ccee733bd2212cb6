import CommandTimelines.Ini.Reader
import CommandTimelines.Json.Reader
import CommandTimelines.Json5.Reader
import CommandTimelines.Ron.Reader
import CommandTimelines.Settings.Fault
import CommandTimelines.Settings.Tree
import CommandTimelines.Toml.Document
import CommandTimelines.Yaml.Document

/-!
# Documents of settings

A file of settings is written in one of several formats, which the extension of its name tells.
Whatever the format, a document gives values under the keys of one table.
-/

namespace CommandTimelines.Settings

/-- A format of settings files. -/
inductive Format where
  | toml
  | json
  | yaml
  | ini
  | ron
  | json5
deriving DecidableEq, Repr

/-- The extensions that tell formats. -/
def Format.extensions : List (String × Format) :=
  [("toml", .toml), ("json", .json), ("yaml", .yaml), ("yml", .yaml), ("ini", .ini),
    ("ron", .ron), ("json5", .json5)]

/-- The format that an extension tells. -/
def Format.ofExtension? (name : String) : Option Format := extensions.lookup name

namespace Tree

/-! ### TOML -/

/-- The key of a table that stands for the date and time that its value spells. -/
def momentKey : String := "$__toml_private_datetime"

/-- The date and time that a value of a document spells. -/
def momentOf? : Toml.Value → Option Tree
  | .text s => (Toml.moment? s.toList).map fun spelled => .text (String.ofList spelled)
  | _ => none

mutual

/-- The value of a document as a tree; none if a table in it stands for a date and time, by its
first key, and spells none. -/
def ofToml? : Toml.Value → Option Tree
  | .text s => some (.text s)
  | .integer n => some (.integer n)
  | .fraction x => some (.fraction x)
  | .boolean b => some (.boolean b)
  | .moment s => some (.text s)
  | .list _ items => (itemsOfToml? items).map .list
  | .table _ [] => some (.table [])
  | .table _ ((key, value) :: rest) =>
    if key = momentKey then momentOf? value
    else (entriesOfToml? ((key, value) :: rest)).map .table

/-- The items of a list in a document as trees. -/
def itemsOfToml? : List Toml.Value → Option (List Tree)
  | [] => some []
  | value :: rest => do
    let item ← ofToml? value
    let items ← itemsOfToml? rest
    return item :: items

/-- The entries of a table in a document as trees. -/
def entriesOfToml? : List (String × Toml.Value) → Option (List (String × Tree))
  | [] => some []
  | (key, value) :: rest => do
    let item ← ofToml? value
    let entries ← entriesOfToml? rest
    return (key, item) :: entries

end

/-! ### Other formats -/

/-- What a document of YAML gives as a tree. -/
def ofYaml (node : Yaml.Node) : Except Fault Tree :=
  match node.toTree with
  | .ok tree => .ok tree
  | .error .real => .error .document
  | .error .key => .error .key

end Tree

/-- The tree that a text denotes in a format. -/
def Format.read (format : Format) (text : String) : Except Fault Tree :=
  match format with
  | .toml =>
    orFault .document ((Toml.Document.read? text).bind fun t => Tree.ofToml? t.toValue)
  | .json => orFault .document (Json.read? text)
  | .yaml => (orFault .document (Yaml.read? text)).bind Tree.ofYaml
  | .ini => orFault .document (Ini.read? text)
  | .ron => orFault .document (Ron.read? text)
  | .json5 => orFault .document (Json5.read? text)

/-- What a document gives, which as a whole must be a table. -/
def Format.source (format : Format) (text : String) : Except Fault Source :=
  match format.read text with
  | .ok (.table entries) => .ok entries
  | .ok _ => .error .document
  | .error fault => .error fault

end CommandTimelines.Settings
