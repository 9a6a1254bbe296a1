import Haml.Data.Basic
import Haml.Options
import Haml.Text.Identifier

/-!
# Settings

Options given as data. Settings taken as they are have only their keys and the format checked;
`Options.ofData` checks every value, as for a configuration file or the command line, and says what
is wrong.
-/

namespace Haml

/-- What is wrong with a configuration. -/
inductive ConfigError where
  | optionsNotMapping
  | unknownOptions (names : List Text)
  | escapeNotBool
  | unknownFormat
  | escapeNameNotText
  | badNamespace
  | configNotMapping
  | incompleteEntry
deriving DecidableEq, Repr

/-- The text of a configuration error. -/
def ConfigError.message : ConfigError → Text
  | optionsNotMapping => "Compiler options must be a mapping.".toList
  | unknownOptions names =>
    "Unknown compiler option(s): ".toList ++ List.intercalate ", ".toList names ++ ['.']
  | escapeNotBool => "Option 'escape_html' must be true or false.".toList
  | unknownFormat =>
    "Option 'format' must be one of: ".toList ++
      List.intercalate ", ".toList (Format.all.map Format.name) ++ ['.']
  | escapeNameNotText => "Option 'custom_html_escape' must be a string.".toList
  | badNamespace =>
    "Option 'namespace' must be a dotted name, e.g. 'HAML' or 'app.templates'.".toList
  | configNotMapping => "Config file must contain a mapping.".toList
  | incompleteEntry => "Each 'write' entry needs 'src' and 'dst'.".toList

/-- The names of the options. -/
def optionNames : List Text :=
  ["escape_html", "format", "custom_html_escape", "namespace"].map String.toList

/-- Whether a text is a dotted name: identifiers with dots between them. -/
def isDottedName (t : Text) : Bool := (List.splitOn '.' t).all Text.isIdentifier

namespace Options

/-- Whether output is escaped, on unless the data says otherwise. -/
def escapeOfData (entries : List (Text × Data)) : Except ConfigError Bool :=
  match Data.get? entries "escape_html".toList with
  | none => .ok true
  | some (.bool b) => .ok b
  | some _ => .error .escapeNotBool

/-- The format, html5 unless the data says otherwise. -/
def formatOfData (entries : List (Text × Data)) : Except ConfigError Format :=
  match Data.get? entries "format".toList with
  | none => .ok .html5
  | some (.text name) =>
    match Format.ofName? name with
    | some format => .ok format
    | none => .error .unknownFormat
  | some _ => .error .unknownFormat

/-- The name of the escape function; an empty one counts as none. -/
def customEscapeOfData (entries : List (Text × Data)) : Except ConfigError (Option Text) :=
  match Data.get? entries "custom_html_escape".toList with
  | none | some .null => .ok none
  | some (.text name) => .ok (if name.isEmpty then none else some name)
  | some _ => .error .escapeNameNotText

/-- The namespace, a dotted name. -/
def nameSpaceOfData (entries : List (Text × Data)) : Except ConfigError Text :=
  match Data.get? entries "namespace".toList with
  | none => .ok "HAML".toList
  | some (.text name) => if isDottedName name then .ok name else .error .badNamespace
  | some _ => .error .badNamespace

/-- The options of a mapping. Unknown names are reported first, then the first value at fault. -/
def ofEntries (entries : List (Text × Data)) : Except ConfigError Options := do
  let unknown := (entries.map (·.1)).filter fun name => !optionNames.contains name
  if !unknown.isEmpty then throw (.unknownOptions (Text.sort unknown))
  let escapeHtml ← escapeOfData entries
  let format ← formatOfData entries
  let customEscape ← customEscapeOfData entries
  let nameSpace ← nameSpaceOfData entries
  return { escapeHtml, format, customEscape, nameSpace }

/-- The options of data: the usual ones for nothing. -/
def ofData (data : Data) : Except ConfigError Options :=
  match data with
  | .null => .ok {}
  | .mapping entries => ofEntries entries
  | _ => .error .optionsNotMapping

end Options

/-- Settings as they were given, the format apart. -/
structure Settings where
  /-- Whether output is escaped. -/
  escapeHtml : Data
  /-- The dialect of HTML to produce. -/
  format : Format
  /-- The name of the escape function. -/
  customEscape : Data
  /-- The namespace. -/
  nameSpace : Data

namespace Settings

/-- Why settings are refused. -/
inductive Error where
  /-- A name that is no option, or no mapping at all. -/
  | unknownName
  /-- A format that does not exist. -/
  | unknownFormat (given : Data)

/-- The text of an error. -/
def Error.message : Error → Text
  | .unknownName => "unexpected option".toList
  | .unknownFormat given => given.repr ++ " is not a valid OutputFormat".toList

/-- The format of a value. -/
def formatOf (given : Data) : Except Error Format :=
  match given with
  | .text name =>
    match Format.ofName? name with
    | some format => .ok format
    | none => .error (.unknownFormat given)
  | _ => .error (.unknownFormat given)

/-- The settings that data gives. -/
def ofData (data : Data) : Except Error Settings :=
  match data with
  | .mapping entries => do
    if entries.any fun (name, _) => !optionNames.contains name then throw .unknownName
    let format ←
      match Data.get? entries "format".toList with
      | some given => formatOf given
      | none => pure .html5
    return {
      escapeHtml := (Data.get? entries "escape_html".toList).getD (.bool true)
      format := format
      customEscape := (Data.get? entries "custom_html_escape".toList).getD .null
      nameSpace := (Data.get? entries "namespace".toList).getD (.text "HAML".toList) }
  | _ => .error .unknownName

/-- The options that settings amount to. -/
def toOptions (settings : Settings) : Options :=
  { escapeHtml := settings.escapeHtml.isPresent
    format := settings.format
    customEscape :=
      if settings.customEscape.isPresent then some settings.customEscape.display else none
    nameSpace := settings.nameSpace.display }

end Settings

end Haml
