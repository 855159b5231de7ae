import TestScribe.Settings.Installation

/-!
# Settings of a run

What a run is told: its directories, the extensions of the documents and of the generated
files, the ending of class names, whether to stop at the first failure, and whether to
show progress.

The values come from the command line, from the settings store, and from defaults, in
this order. Values of the wrong kind are refused.
-/

namespace TestScribe.Generate

/-- The settings of a run. -/
structure Settings where
  input : Path
  output : Path
  inputExtension : Text
  classSuffix : Text
  outputExtension : Text
  failFast : Bool
  showProgress : Bool
deriving Repr, DecidableEq

namespace Settings

/-- The pattern for the names of the documents. -/
def pattern (s : Settings) : Text := "*.".toList ++ s.inputExtension

/-! ## Values -/

/-- The words for no. -/
def noWords : List Text := ["0", "off", "f", "false", "n", "no"].map String.toList

/-- The words for yes. -/
def yesWords : List Text := ["1", "on", "t", "true", "y", "yes"].map String.toList

/-- A truth value: given as such, as zero or one, or by a word. -/
def bool? : Json → Option Bool
  | .bool b => some b
  | .int n => if n = 0 then some false else if n = 1 then some true else none
  | .double x => if x.isNat 0 then some false else if x.isNat 1 then some true else none
  | .str s =>
    if noWords.contains (Text.lower s) then some false
    else if yesWords.contains (Text.lower s) then some true
    else none
  | _ => none

/-- A text. -/
def text? : Json → Option Text
  | .str s => some s
  | _ => none

/-- The value of a field; a missing one has its default, and a wrong one refuses all. -/
def fieldOr {α : Type} (read : Json → Option α) (fields : Dictionary Text Json) (name : String)
    (default : α) : Option α :=
  match fields.get? name.toList with
  | none => some default
  | some v => read v

/-- The settings with these directories and the other fields as given; `none` where a
field has a value of the wrong kind. Unknown fields do not matter. -/
def ofFields (input output : Path) (fields : Dictionary Text Json) : Option Settings := do
  let inputExtension ← fieldOr text? fields "input_extension" "html".toList
  let classSuffix ← fieldOr text? fields "class_suffix" "Cest".toList
  let outputExtension ← fieldOr text? fields "output_extension" "php".toList
  let failFast ← fieldOr bool? fields "fail_fast" false
  let showProgress ← fieldOr bool? fields "show_progress" false
  pure { input, output, inputExtension, classSuffix, outputExtension, failFast, showProgress }

/-- The settings in which the directories are fields too. -/
def ofAllFields (fields : Dictionary Text Json) : Option Settings := do
  let input ← fieldOr text? fields "input_dir" "in".toList
  let output ← fieldOr text? fields "output_dir" "out".toList
  ofFields (.ofText input) (.ofText output) fields

/-! ## Putting the settings together -/

/-- Why there are no settings. -/
inductive BuildError
  /-- The store is no object. -/
  | noSections
  /-- A directory is given by something that is no text. -/
  | noDirectory
  /-- A section has an entry whose key is no text, and so names no field. -/
  | namelessField
  /-- A field has a value of the wrong kind. -/
  | wrongKind
deriving Repr, DecidableEq

/-- The section of the store that is about runs. -/
def sectionName : Text := "generator".toList

/-- The first of two values that counts as true is the directory; with neither it is the
default. -/
def directory (argument configured : Json) (default : Path) : Except BuildError Path :=
  let chosen := if argument.truthy then argument else configured
  if chosen.truthy then
    match chosen with
    | .str s => .ok (.ofText s)
    | _ => .error .noDirectory
  else .ok default

/-- The fields of a section that are not null, with the arguments that are not null set
over them. -/
def merge (arguments configured : Dictionary Text Json) : Dictionary Text Json :=
  let given (es : Dictionary Text Json) := es.filter fun e => !e.2.isNull
  (given arguments).foldl (fun fields e => fields.set e.1 e.2) (given configured)

/-- The arguments that are not about directories. -/
def plainArguments : List Text :=
  ["class_suffix".toList, "fail_fast".toList, "show_progress".toList]

/-- The settings from arguments, the store and the defaults. -/
def build (h : Host) (d : Disk) (store : TestScribe.Settings.Store)
    (arguments : Dictionary Text Json) : Except BuildError Settings :=
  match TestScribe.Settings.section? store sectionName with
  | none => .error .noSections
  | some entries =>
    let configured := Json.fields entries
    let value (es : Dictionary Text Json) (name : String) := (es.get? name.toList).getD .null
    let (defaultInput, defaultOutput) := h.defaultDirectories d
    match directory (value arguments "input_dir") (value configured "input_dir") defaultInput,
      directory (value arguments "output_dir") (value configured "output_dir") defaultOutput with
    | .ok input, .ok output =>
      let plain := arguments.filter fun e => plainArguments.contains e.1
      match ofFields input output (merge plain configured) with
      | some s => .ok s
      | none => .error .wrongKind
    | _, _ => .error .noDirectory

end Settings
end TestScribe.Generate
