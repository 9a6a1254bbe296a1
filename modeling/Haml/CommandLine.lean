import Haml.Format
import Haml.Text.Digit
import Haml.Text.Quoted

/-!
# The command line

Arguments are options or plain. A long option may be shortened as long as only one begins so, and
takes a value after an equals sign or as the next argument; short options may be bundled, and the
last may have its value attached. Two hyphens end the options. One plain argument, the configuration
file, is taken; what is left over is refused. `Item.ofArgument` reads one argument by itself,
`consume` goes through all of them.
-/

namespace Haml.CommandLine

/-- The name of the program. -/
def program : Text := "hamlc".toList

/-- The options. -/
inductive Switch where
  | help
  | watch
  | input
  | output
  | nameSpace
  | template
  | format
  | noEscape
  | customEscape
deriving DecidableEq, Repr

namespace Switch

/-- All options. -/
def all : List Switch :=
  [help, watch, input, output, nameSpace, template, format, noEscape, customEscape]

/-- The spellings of an option, a short one first. -/
def names : Switch → List Text
  | help => ["-h".toList, "--help".toList]
  | watch => ["-w".toList, "--watch".toList]
  | input => ["-i".toList, "--input".toList]
  | output => ["-o".toList, "--output".toList]
  | nameSpace => ["-n".toList, "--namespace".toList]
  | template => ["-t".toList, "--template".toList]
  | format => ["-f".toList, "--format".toList]
  | noEscape => ["--no-escape-html".toList]
  | customEscape => ["--custom-html-escape".toList]

/-- Whether an option takes a value. -/
def takesValue : Switch → Bool
  | help | watch | noEscape => false
  | _ => true

/-- An option as error texts name it. -/
def title (switch : Switch) : Text := List.intercalate ['/'] switch.names

end Switch

/-- Every spelling with its option. -/
def spellings : List (Text × Switch) :=
  Switch.all.flatMap fun switch => switch.names.map fun name => (name, switch)

/-- The option with a spelling. -/
def switch? (name : Text) : Option Switch := spellings.lookup name

/-- Why a command line is refused. -/
inductive Error where
  /-- A shortened option that several begin with. -/
  | ambiguous (given : Text) (candidates : List Text)
  /-- An option without its value. -/
  | missingValue (switch : Switch)
  /-- An option with a value that it does not take. -/
  | unwantedValue (switch : Switch) (given : Text)
  /-- A format that does not exist. -/
  | unknownFormat (given : Text)
  /-- Arguments that are left over. -/
  | leftOver (arguments : List Text)
  /-- Neither a configuration file nor a template. -/
  | nothingToDo
deriving DecidableEq, Repr

/-- The text of an error. -/
def Error.message : Error → Text
  | ambiguous given candidates =>
    "ambiguous option: ".toList ++ given ++ " could match ".toList ++
      List.intercalate ", ".toList candidates
  | missingValue switch =>
    "argument ".toList ++ switch.title ++ ": expected one argument".toList
  | unwantedValue switch given =>
    "argument ".toList ++ switch.title ++ ": ignored explicit argument ".toList ++ Text.quote given
  | unknownFormat given =>
    "argument ".toList ++ Switch.format.title ++ ": invalid choice: ".toList ++ Text.quote given ++
      " (choose from ".toList ++
      List.intercalate ", ".toList (Format.all.map fun format => Text.quote format.name) ++ [')']
  | leftOver arguments =>
    "unrecognized arguments: ".toList ++ List.intercalate [' '] arguments
  | nothingToDo => "a config file or --input is required".toList

/-- An error as the program reports it. -/
def Error.line (error : Error) : Text := program ++ ": error: ".toList ++ error.message

/-- A value written in the same argument as its option. -/
structure Attached where
  /-- Whether an equals sign stands before it. -/
  afterEquals : Bool
  /-- The value. -/
  value : Text
deriving DecidableEq, Repr

/-- An option in an argument. -/
structure Use where
  /-- The option. -/
  switch : Switch
  /-- Whether it was spelled with one hyphen. -/
  short : Bool
  /-- The value in the same argument. -/
  attached : Option Attached
deriving DecidableEq, Repr

/-- What an argument is by itself. -/
inductive Item where
  | plain (text : Text)
  /-- Two hyphens. -/
  | separator
  | option (use : Use)
  /-- Something like an option that is none. -/
  | unknown (text : Text)
deriving DecidableEq, Repr

/-- Whether a spelling is a long one. -/
def isLong (name : Text) : Bool := List.isPrefixOf "--".toList name

/-- The part before the first equals sign and, if there is one, the part after it. -/
def splitEquals (arg : Text) : Text × Option Text :=
  match arg.dropWhile (· != '=') with
  | [] => (arg, none)
  | _ :: value => (arg.takeWhile (· != '='), some value)

/-- The options that an argument may mean, with their spellings: those that a long one begins, or
the short one at its start. -/
def candidates (arg : Text) : List (Text × Use) :=
  if isLong arg then
    let (start, value) := splitEquals arg
    (spellings.filter fun spelling => List.isPrefixOf start spelling.1).map fun (name, switch) =>
      (name, ⟨switch, !isLong name, value.map fun v => ⟨true, v⟩⟩)
  else
    (spellings.filter fun spelling => spelling.1 == arg.take 2).map fun (name, switch) =>
      (name, ⟨switch, true, some ⟨false, arg.drop 2⟩⟩)

/-- Whether an argument is a negative number: digits after a hyphen, with a point before the last
of them if there is one. -/
def isNegativeNumber (arg : Text) : Bool :=
  match if arg.getLast? == some '\n' then arg.dropLast else arg with
  | '-' :: rest =>
    match rest.dropWhile Text.isDigit with
    | [] => !rest.isEmpty
    | '.' :: decimals => !decimals.isEmpty && decimals.all Text.isDigit
    | _ => false
  | _ => false

/-- What an argument before the separator is. -/
def Item.ofArgument (arg : Text) : Except Error Item :=
  if arg.head? != some '-' || arg.length == 1 then .ok (.plain arg)
  else
    match switch? arg, splitEquals arg with
    | some switch, _ => .ok (.option ⟨switch, !isLong arg, none⟩)
    | none, (name, value) =>
      match value, switch? name with
      | some value, some switch => .ok (.option ⟨switch, !isLong name, some ⟨true, value⟩⟩)
      | _, _ =>
        match candidates arg with
        | [] =>
          if isNegativeNumber arg || arg.contains ' ' then .ok (.plain arg) else .ok (.unknown arg)
        | [(_, use)] => .ok (.option use)
        | several => .error (.ambiguous arg (several.map (·.1)))

/-- What all arguments are: after the separator every one is plain. -/
def items : List Text → Except Error (List Item)
  | [] => .ok []
  | arg :: rest =>
    if arg == "--".toList then .ok (.separator :: rest.map .plain)
    else do return (← Item.ofArgument arg) :: (← items rest)

/-- The values of a command line; of an option given twice, the last. -/
structure Arguments where
  /-- The configuration file. -/
  config : Option Text := none
  /-- Whether to go on compiling when files change. -/
  watch : Bool := false
  /-- A single template to compile. -/
  input : Option Text := none
  /-- The file that its module is written to. -/
  output : Option Text := none
  /-- The namespace. -/
  nameSpace : Option Text := none
  /-- The name of the template. -/
  template : Option Text := none
  /-- The name of the format. -/
  format : Option Text := none
  /-- Whether output is escaped. -/
  escapeHtml : Bool := true
  /-- The name of the escape function. -/
  customEscape : Option Text := none
deriving DecidableEq, Repr

/-- Why reading a command line stops. -/
inductive Stop where
  /-- Help was asked for. -/
  | help
  | error (error : Error)
deriving DecidableEq, Repr

/-- The arguments with one option set. -/
def Arguments.set (args : Arguments) (switch : Switch) (value : Text) : Except Stop Arguments :=
  match switch with
  | .help => .error .help
  | .watch => .ok { args with watch := true }
  | .input => .ok { args with input := some value }
  | .output => .ok { args with output := some value }
  | .nameSpace => .ok { args with nameSpace := some value }
  | .template => .ok { args with template := some value }
  | .format =>
    if (Format.ofName? value).isSome then .ok { args with format := some value }
    else .error (.error (.unknownFormat value))
  | .noEscape => .ok { args with escapeHtml := false }
  | .customEscape => .ok { args with customEscape := some value }

/-- The options that one argument gives, in order. -/
structure Bundle where
  /-- The options with their values; empty for those that take none. -/
  settings : List (Switch × Text)
  /-- The rest of a bundle that is no option. -/
  unknown : Option Text
  /-- The arguments after the option and its value. -/
  rest : List Item
deriving DecidableEq, Repr

/-- An option with no value attached: its value is the next argument. -/
def standAlone (switch : Switch) (rest : List Item) : Except Error Bundle :=
  if switch.takesValue then
    match rest with
    | .plain value :: rest => .ok ⟨[(switch, value)], none, rest⟩
    | _ => .error (.missingValue switch)
  else .ok ⟨[(switch, [])], none, rest⟩

/-- The options of a bundle: what is attached to a short option without a value are further short
options. -/
def bundle (switch : Switch) (short afterEquals : Bool) (attached : Text) (rest : List Item) :
    Except Error Bundle :=
  if switch.takesValue then .ok ⟨[(switch, attached)], none, rest⟩
  else
    match attached with
    | [] => .error (.unwantedValue switch attached)
    | c :: more =>
      if !short || afterEquals || c == '-' then .error (.unwantedValue switch attached)
      else
        match switch? ['-', c] with
        | none => .ok ⟨[(switch, [])], some ('-' :: attached), rest⟩
        | some next => do
          let further ←
            match more with
            | [] => standAlone next rest
            | '=' :: value => bundle next true true value rest
            | d :: value => bundle next true false (d :: value) rest
          return { further with settings := (switch, []) :: further.settings }
termination_by attached.length

/-- The options of an argument. -/
def Use.bundle (use : Use) (rest : List Item) : Except Error Bundle :=
  match use.attached with
  | none => standAlone use.switch rest
  | some attached =>
    CommandLine.bundle use.switch use.short attached.afterEquals attached.value rest

/-- The value of the plain argument, and what follows it. The separator next to it belongs to it. -/
def takePlain : List Item → Option Text × List Item
  | .separator :: .plain value :: rest => (some value, rest)
  | .separator :: rest => (none, rest)
  | .plain value :: .separator :: rest => (some value, rest)
  | .plain value :: rest => (some value, rest)
  | rest => (none, rest)

/-- What has been read of a command line. -/
structure Progress where
  /-- The values so far. -/
  args : Arguments := {}
  /-- Whether the plain argument is still to come. -/
  plainPending : Bool := true
  /-- The arguments left over. -/
  leftOver : List Text := []
deriving DecidableEq, Repr

/-- Reads items; `fuel` bounds their number. -/
def consume (fuel : Nat) (items : List Item) (progress : Progress) : Except Stop Progress :=
  match fuel, items with
  | 0, _ | _, [] => .ok progress
  | fuel + 1, .option use :: rest => do
    let found ← (use.bundle rest).mapError .error
    let args ← found.settings.foldlM (fun args given => args.set given.1 given.2) progress.args
    consume fuel found.rest
      { progress with args, leftOver := progress.leftOver ++ found.unknown.toList }
  | fuel + 1, .unknown text :: rest =>
    consume fuel rest { progress with leftOver := progress.leftOver ++ [text] }
  | fuel + 1, item :: rest =>
    if progress.plainPending then
      let (value, rest) := takePlain (item :: rest)
      consume fuel rest
        { progress with plainPending := false, args := { progress.args with config := value } }
    else
      let text :=
        match item with
        | .plain text => text
        | _ => "--".toList
      consume fuel rest { progress with leftOver := progress.leftOver ++ [text] }

/-- Whether a text is given and not empty. -/
def isGiven (value : Option Text) : Bool := value.any fun t => !t.isEmpty

/-- The values of a command line. -/
def parse (arguments : List Text) : Except Stop Arguments := do
  let items ← (items arguments).mapError .error
  let progress ← consume items.length items {}
  if !progress.leftOver.isEmpty then throw (.error (.leftOver progress.leftOver))
  if !isGiven progress.args.input && !isGiven progress.args.config then throw (.error .nothingToDo)
  return progress.args

/-- The text that explains the options. -/
def helpText : Text :=
  ("usage: hamlc [-h] [-w] [-i INPUT] [-o OUTPUT] [-n NAMESPACE] [-t TEMPLATE]\n" ++
   "             [-f \x7bhtml5,html4,xhtml\x7d] [--no-escape-html]\n" ++
   "             [--custom-html-escape CUSTOM_HTML_ESCAPE]\n" ++
   "             [config]\n\n" ++
   "Compile Haml templates into Python template functions.\n\n" ++
   "positional arguments:\n" ++
   "  config                YAML project config\n\n" ++
   "options:\n" ++
   "  -h, --help            show this help message and exit\n" ++
   "  -w, --watch           recompile when templates change\n" ++
   "  -i INPUT, --input INPUT\n" ++
   "                        single template to compile\n" ++
   "  -o OUTPUT, --output OUTPUT\n" ++
   "                        output file (default: stdout)\n" ++
   "  -n NAMESPACE, --namespace NAMESPACE\n" ++
   "                        namespace holding the template function\n" ++
   "  -t TEMPLATE, --template TEMPLATE\n" ++
   "                        dotted template name (default: input file name)\n" ++
   "  -f \x7bhtml5,html4,xhtml\x7d, --format \x7bhtml5,html4,xhtml\x7d\n" ++
   "  --no-escape-html      do not escape \x60=\x60 output\n" ++
   "  --custom-html-escape CUSTOM_HTML_ESCAPE\n" ++
   "                        name of the escape function to call\n\n" ++
   "Pass a YAML project config, or a single template with --input.\n").toList

end Haml.CommandLine
