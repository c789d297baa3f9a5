import Likeness.Settings.Layers
import Likeness.Workspace

/-!
# The command line

Three commands compare two files, show the tree of a file and list its tokens. Settings come from a
file in the working directory and from one that the command line names; they are loaded before the
name of the format is looked at, and that before any source is read.
-/

namespace Likeness

/-- What is to be done. -/
inductive Command where
  | compare (left right : String)
  | show (path : String)
  | tokens (path : String)
deriving DecidableEq, Repr

/-- A command with its options. -/
structure Invocation where
  command : Command
  format : String
  settingsFile : Option String
deriving DecidableEq, Repr

/-- Why a command line names no command to run. -/
inductive Halt where
  | version
  | help
  | usage
deriving DecidableEq, Repr

namespace CommandLine

/-- The word that asks for help. -/
def helpWord : String := "help"

/-- The words that name commands. -/
inductive Verb where
  | compare
  | show
  | tokens
deriving DecidableEq, Repr

namespace Verb

/-- The command that a word names. -/
def ofName? : String → Option Verb
  | "compare" => some .compare
  | "show" => some .show
  | "tokens" => some .tokens
  | _ => none

/-- The format of a command when none is asked for. -/
def defaultFormat : Verb → String
  | .compare => "table"
  | .show => "treeviz"
  | .tokens => "simple"

/-- How many paths a command takes. -/
def pathCount : Verb → Nat
  | .compare => 2
  | .show | .tokens => 1

end Verb

/-- The options of a command that have been read. -/
structure Options where
  paths : List String
  format : Option String
  noColor : Bool
  settingsFile : Option String
  /-- Everything that follows is a path. -/
  pathsOnly : Bool
deriving DecidableEq, Repr

/-- An option with a value. -/
inductive ValueOption where
  | format
  | settingsFile
deriving DecidableEq, Repr

/-- What an argument is. A value may be part of its option. -/
inductive Argument where
  | path
  | pathsOnly
  | noColor
  | valued (option : ValueOption) (value : Option String)
  | help
  | version
  | unknown
deriving DecidableEq, Repr

/-- The value of an option with one letter, if it follows the letter directly; an equals sign before
it is not part of it. -/
def attachedValue : List Char → Option String
  | [] => none
  | '=' :: value => some (String.ofList value)
  | value => some (String.ofList value)

/-- What an argument is by its form. Of letters in a row the first one decides, since no letter
leaves the rest to be read on its own. -/
def classify (argument : String) : Argument :=
  match argument.toList with
  | ['-'] => .path
  | ['-', '-'] => .pathsOnly
  | '-' :: '-' :: rest =>
    let name := String.ofList (rest.takeWhile (· ≠ '='))
    let value :=
      match rest.dropWhile (· ≠ '=') with
      | _ :: value => some (String.ofList value)
      | [] => none
    match name, value with
    | "format", value => .valued .format value
    | "config", value => .valued .settingsFile value
    | "no-color", none => .noColor
    | "help", none => .help
    | "version", none => .version
    | _, _ => .unknown
  | '-' :: 'f' :: rest => .valued .format (attachedValue rest)
  | '-' :: 'c' :: rest => .valued .settingsFile (attachedValue rest)
  | '-' :: 'h' :: _ => .help
  | '-' :: 'V' :: _ => .version
  | '-' :: _ => .unknown
  | _ => .path

/-- An argument that can be the value of the option before it. -/
def isValue (argument : String) : Bool := classify argument = .path

/-- Give an option its value; it has none yet. -/
def Options.set (options : Options) (option : ValueOption) (value : String) : Except Halt Options :=
  match option with
  | .format =>
    if options.format.isSome then .error .usage else .ok { options with format := some value }
  | .settingsFile =>
    if options.settingsFile.isSome then .error .usage
    else .ok { options with settingsFile := some value }

/-- Add a path, if the command takes one more. -/
def Options.addPath (options : Options) (verb : Verb) (path : String) : Except Halt Options :=
  if options.paths.length < verb.pathCount then
    .ok { options with paths := options.paths ++ [path] }
  else .error .usage

/-- Read the arguments of a command. -/
def readOptions (verb : Verb) (options : Options) : List String → Except Halt Options
  | [] => .ok options
  | argument :: rest =>
    if options.pathsOnly then do readOptions verb (← options.addPath verb argument) rest
    else
      match classify argument with
      | .path => do readOptions verb (← options.addPath verb argument) rest
      | .pathsOnly => readOptions verb { options with pathsOnly := true } rest
      | .noColor =>
        if verb = .compare && !options.noColor then
          readOptions verb { options with noColor := true } rest
        else .error .usage
      | .valued option (some value) => do readOptions verb (← options.set option value) rest
      | .valued option none =>
        match rest with
        | value :: rest =>
          if isValue value then do readOptions verb (← options.set option value) rest
          else .error .usage
        | [] => .error .usage
      | .help => .error .help
      | .version | .unknown => .error .usage

/-- The invocation that the options of a command make. -/
def invocation (verb : Verb) (options : Options) : Except Halt Invocation :=
  let format := options.format.getD verb.defaultFormat
  match verb, options.paths with
  | .compare, [left, right] => .ok ⟨.compare left right, format, options.settingsFile⟩
  | .show, [path] => .ok ⟨.show path, format, options.settingsFile⟩
  | .tokens, [path] => .ok ⟨.tokens path, format, options.settingsFile⟩
  | _, _ => .error .usage

/-- The words behind `help` are a command, or `help` once more, or nothing. -/
def isHelpTopic : List String → Bool
  | [] => true
  | [word] => (Verb.ofName? word).isSome || word = helpWord
  | _ => false

/-- Read a command line, where a file of settings may have been named before the command. A file
that is named behind the command is preferred to it. -/
def readCommand (settingsFile : Option String) : List String → Except Halt Invocation
  | [] => .error .usage
  | argument :: rest =>
    match classify argument with
    | .path =>
      match Verb.ofName? argument with
      | none =>
        if argument = helpWord && isHelpTopic rest then .error .help else .error .usage
      | some verb => do
        let options ← readOptions verb ⟨[], none, false, none, false⟩ rest
        invocation verb { options with settingsFile := options.settingsFile.or settingsFile }
    | .valued .settingsFile value =>
      if settingsFile.isSome then .error .usage
      else
        match value, rest with
        | some value, rest => readCommand (some value) rest
        | none, value :: rest =>
          if isValue value then readCommand (some value) rest else .error .usage
        | none, [] => .error .usage
    | .version => .error .version
    | .help => .error .help
    | _ => .error .usage

/-- Read a command line. -/
def read (arguments : List String) : Except Halt Invocation := readCommand none arguments

end CommandLine

/-- Why a command fails. -/
inductive CommandError where
  | settings (error : SettingsError)
  | processing (error : ProcessingError)

/-- What is wrong, in words; a cause that the message names is told once more. -/
def CommandError.message : CommandError → String
  | .settings _ => "failed to load configuration"
  | .processing error =>
    match error.cause with
    | some cause => error.message ++ ": " ++ cause
    | none => error.message

namespace Invocation

/-- The file of settings that is looked for in the working directory. -/
def localSettings : String := "codesim.toml"

/-- The ending of files of settings. -/
def settingsEnding : String := ".toml"

/-- The text of a file of settings. Where there is none with the name, one with the usual ending is
taken. A file that cannot be read is as good as missing. -/
def settingsText (directory : Directory) (path : String) : Option String :=
  match directory path with
  | .ok _ => (directory.readText path).toOption
  | .error _ =>
    (Directory.withEnding settingsEnding path).bind fun path => (directory.readText path).toOption

/-- The settings of a run. Output is not coloured, since it is not written to a terminal. -/
def settings (directory : Directory) (settingsFile : Option String) :
    Except SettingsError Settings :=
  let named := settingsFile.toList.map fun path => Layer.file (settingsText directory path) true
  Settings.load
    (.file (settingsText directory localSettings) false :: named
      ++ [.override "display.color" (.boolean false)])

/-- The style of tables that the settings ask for. -/
def tableStyle (settings : Settings) : TableStyle :=
  ⟨settings.color, settings.labelWidth, settings.showGaps⟩

/-- The output of a command. -/
def output (directory : Directory) (settings : Settings) (invocation : Invocation) :
    Except ProcessingError String :=
  match invocation.command with
  | .compare left right => do
    let format ← (Target.report.format invocation.format).mapError .format
    let similarity ← Workspace.compareFiles directory left right
    (formatReport similarity format (tableStyle settings)
      settings.nearDuplicateThreshold).mapError .format
  | .show path => do
    let format ← (Target.tree.format invocation.format).mapError .format
    let tree ← Workspace.parseFile directory path
    (formatTree tree format).mapError .format
  | .tokens path => do
    let format ← (Target.tokens.format invocation.format).mapError .format
    Workspace.writeTokens directory path format

/-- Run a command: its output ends in one line feed. -/
def run (directory : Directory) (invocation : Invocation) : Except CommandError String := do
  let settings ← (settings directory invocation.settingsFile).mapError .settings
  let text ← (invocation.output directory settings).mapError .processing
  return Text.trimEnd text ++ "\n"

end Invocation

namespace CommandLine

/-- The text that tells the version. -/
def versionText : String := "codesim 0.1.0\n"

/-- What a run of the program comes to. -/
inductive Outcome where
  | success (output : String)
  | help
  | failure (error : CommandError)
  | usage

/-- Run the program with some arguments. -/
def run (directory : Directory) (arguments : List String) : Outcome :=
  match read arguments with
  | .error .version => .success versionText
  | .error .help => .help
  | .error .usage => .usage
  | .ok invocation =>
    match invocation.run directory with
    | .ok output => .success output
    | .error error => .failure error

end CommandLine

end Likeness
