import Relabel.Batch.Order
import Relabel.Text.Numeral

/-!
# Command-line arguments

Switches have a long label and some of them a letter. The value of a switch is attached to it or
is the next argument; letters may be put together, and after two hyphens no argument is a switch.
Only the first argument can name a command.
-/

namespace Relabel

inductive Switch
  | find
  | replace
  | replaceLimit
  | ignoreExtension
  | ignoreCase
  | stringMode
  | sort
  | sortReverse
  | recursive
  | hidden
  | includeDirectories
  | rows
  | output
  | verbose
  | help
deriving DecidableEq, Repr

namespace Switch

def all : List Switch := [
  find, replace, replaceLimit, ignoreExtension, ignoreCase, stringMode, sort, sortReverse,
  recursive, hidden, includeDirectories, rows, output, verbose, help]

def label : Switch → Text
  | find => "find".toList
  | replace => "replace".toList
  | replaceLimit => "replace-limit".toList
  | ignoreExtension => "ignore-ext".toList
  | ignoreCase => "ignore-case".toList
  | stringMode => "string-mode".toList
  | sort => "sort".toList
  | sortReverse => "sort-reverse".toList
  | recursive => "recursive".toList
  | hidden => "hidden".toList
  | includeDirectories => "include-dir".toList
  | rows => "csv".toList
  | output => "output".toList
  | verbose => "verbose".toList
  | help => "help".toList

def letter? : Switch → Option Char
  | find => some 'f'
  | replace => some 'r'
  | replaceLimit => some 'l'
  | ignoreExtension => some 'e'
  | ignoreCase => some 'i'
  | stringMode => some 's'
  | recursive => some 'R'
  | hidden => some 'H'
  | includeDirectories => some 'd'
  | verbose => some 'V'
  | help => some 'h'
  | _ => none

def takesValue (switch : Switch) : Bool :=
  switch ∈ [find, replace, replaceLimit, sort, rows, output]

/-- Whether a switch may be given more than once. -/
def repeats (switch : Switch) : Bool := switch ∈ [find, replace]

def ofLabel? (label : Text) : Option Switch := all.find? (·.label = label)

def ofLetter? (letter : Char) : Option Switch := all.find? (·.letter? = some letter)

theorem ofLabel?_label (s : Switch) : ofLabel? s.label = some s := by cases s <;> rfl

end Switch

inductive OutputFormat
  | table
  | json
deriving DecidableEq, Repr

structure RenameRequest where
  finds : List Text
  replacements : List Text
  replaceLimit : Option Int
  sort : Option SortCriterion
  rows : Option Text
  output : OutputFormat
  flags : List Switch
  path : Text
deriving DecidableEq, Repr

inductive Command
  | rename (request : RenameRequest)
  | showSettings
  | initSettings
  | help
deriving DecidableEq, Repr

namespace CommandLine

inductive Given
  | switch (switch : Switch) (value : Text)
  | path (path : Text)
deriving DecidableEq, Repr

structure Progress where
  given : List Given
  /-- The switch whose value comes next. -/
  pending : Option Switch
deriving DecidableEq, Repr

namespace Progress

def start : Progress := ⟨[], none⟩

def isGiven (p : Progress) (switch : Switch) : Bool :=
  p.given.any fun
    | .switch other _ => other == switch
    | .path _ => false

def hasPath (p : Progress) : Bool :=
  p.given.any fun
    | .path _ => true
    | .switch .. => false

/-- Takes a switch with its value, unless another one still waits for a value or the switch may
not be repeated. -/
def give? (p : Progress) (switch : Switch) (value : Text) : Option Progress :=
  if p.pending ≠ none ∨ (!switch.repeats ∧ p.isGiven switch) then none
  else some ⟨p.given ++ [.switch switch value], none⟩

def close? (p : Progress) (switch : Switch) (value : Text) : Option Progress :=
  give? ⟨p.given, none⟩ switch value

def await? (p : Progress) (switch : Switch) : Option Progress :=
  if p.pending = none then some ⟨p.given, some switch⟩ else none

def givePath? (p : Progress) (path : Text) : Option Progress :=
  if p.pending ≠ none ∨ p.hasPath then none else some ⟨p.given ++ [.path path], none⟩

def long? (p : Progress) (argument : Text) : Option Progress := do
  let (label, attached) := argument.span (· != '=')
  let switch ← Switch.ofLabel? label
  match switch.takesValue, attached with
  | true, _ :: value => p.give? switch value
  | true, [] => p.await? switch
  | false, [] => p.give? switch []
  | false, _ :: _ => none

def letters? (p : Progress) : Text → Option Progress
  -- Letters of switches; what follows one that takes a value is its value.
  | [] => some p
  | letter :: rest => do
    let switch ← Switch.ofLetter? letter
    if switch.takesValue then
      match rest with
      | [] => p.await? switch
      | '=' :: value => p.give? switch value
      | value => p.give? switch value
    else (← p.give? switch []).letters? rest

def argument? (p : Progress) (argument : Text) : Option Progress :=
  match p.pending, argument with
  | some .replaceLimit, value => p.close? .replaceLimit value
  | _, '-' :: '-' :: label => p.long? label
  | _, '-' :: c :: rest => p.letters? (c :: rest)
  | some switch, value => p.close? switch value
  | none, path => p.givePath? path

end Progress

/-- Reads arguments; those after two hyphens are paths. -/
def readArguments (p : Progress) : List Text → Option Progress
  | [] => if p.pending = none then some p else none
  | argument :: rest =>
    if argument = ['-', '-'] ∧ p.pending ≠ some .replaceLimit then
      rest.foldlM Progress.givePath? p
    else do readArguments (← p.argument? argument) rest

def limit? : Text → Option Int
  | '-' :: digits => (Text.numberUpTo? 9223372036854775808 digits).map fun n => -(n : Int)
  | digits => (Text.signedNumberUpTo? 9223372036854775807 digits).map fun n => (n : Int)

def format? (label : Text) : Option OutputFormat :=
  if label = "table".toList then some .table
  else if label = "json".toList then some .json
  else none

def RenameRequest.start : RenameRequest := ⟨[], [], none, none, none, .table, [], ['.']⟩

def fill? (request : RenameRequest) : Given → Option RenameRequest
  | .switch .find value => some { request with finds := request.finds ++ [value] }
  | .switch .replace value =>
    some { request with replacements := request.replacements ++ [value] }
  | .switch .replaceLimit value =>
    (limit? value).map fun limit => { request with replaceLimit := some limit }
  | .switch .sort value =>
    (SortCriterion.ofLabel? value).map fun criterion => { request with sort := some criterion }
  | .switch .rows value => if value = [] then none else some { request with rows := some value }
  | .switch .output value => (format? value).map fun output => { request with output }
  | .switch switch _ => some { request with flags := switch :: request.flags }
  | .path path => if path = [] then none else some { request with path }

def settingsCommand? (arguments : List Text) : Option Command :=
  match arguments with
  | action :: rest =>
    if rest ≠ [] ∧ rest ≠ [['-', '-']] then none
    else if action = "show".toList then some .showSettings
    else if action = "init".toList then some .initSettings
    else if action = "help".toList then some .help
    else none
  | [] => none

def command? (arguments : List Text) : Option Command :=
  match arguments with
  | name :: rest =>
    if name = "config".toList then settingsCommand? rest
    else if name = "help".toList then some .help
    else do
      let progress ← readArguments .start arguments
      if progress.isGiven .help then return .help
      return .rename (← progress.given.foldlM fill? RenameRequest.start)
  | [] => some (.rename RenameRequest.start)

end CommandLine

end Relabel
