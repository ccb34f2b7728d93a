import Linkage.Path

/-!
# Arguments of the command line

The first argument names a command, and the others are its options and names.
They are read from the front, and the first problem decides: a request for help
behind a mistake is not heard.

An option that takes a value has it behind an equals sign or as the next
argument, which then must not look like an option itself. No option comes twice.
Behind `--` there are only names.
-/

namespace Linkage.CommandLine

/-- What is asked for. -/
inductive Command
  /-- The report on the lookup of the process. -/
  | status (output : Option Path)
  /-- The report on the fallback table. -/
  | table (output : Option Path)
  /-- A probe of some names. -/
  | probe (names : List String) (process requireAll : Bool) (output : Option Path)

/-- Why no command is carried out. -/
inductive Stop
  /-- Help is asked for. -/
  | help
  /-- The arguments are wrong. -/
  | misuse
  deriving DecidableEq

/-- The options and names of a command, as far as they were read. -/
structure Draft where
  /-- The names, the latest first. -/
  names : List String := []
  process : Bool := false
  requireAll : Bool := false
  output : Option Path := none

/-- The kinds of commands. -/
inductive Kind
  | status
  | table
  | probe
  deriving DecidableEq

namespace Kind

/-- All kinds. -/
def all : List Kind := [.status, .table, .probe]

/-- The word for a kind. -/
def word : Kind → String
  | .status => "status"
  | .table => "table"
  | .probe => "probe"

/-- The kind that a word names. -/
def ofBytes? (word : Bytes) : Option Kind := all.find? fun k => Utf8.encode k.word = word

end Kind

/-- The octet that options start with. -/
def dash : UInt8 := 0x2D

/-- An argument that is no value: a dash and more. -/
def isOption : Bytes → Bool
  | a :: _ :: _ => a = dash
  | _ => false

/--
The argument asks for help, in its long or its short spelling. More letters may
follow the short one.
-/
def asksForHelp (a : Bytes) : Bool :=
  a = Utf8.encode "--help" || (Utf8.encode "-h").isPrefixOf a

/-- The value behind an equals sign, if the argument is this option with one. -/
def valueOf? (option : String) (a : Bytes) : Option Bytes :=
  let start := Utf8.encode (option ++ "=")
  if start.isPrefixOf a then some (a.drop start.length) else none

namespace Draft

/-- Takes the path of the output, which is not empty and comes once. -/
def setOutput (d : Draft) (value : Bytes) : Except Stop Draft :=
  if value = [] ∨ d.output.isSome then .error .misuse
  else .ok { d with output := some ⟨value⟩ }

/-- Takes a name, which is text. Only a probe has names. -/
def addName (kind : Kind) (d : Draft) (name : Bytes) : Except Stop Draft :=
  match kind, Utf8.text? name with
  | .probe, some s => .ok { d with names := s :: d.names }
  | _, _ => .error .misuse

/-- Takes a flag, which comes once. Only a probe has flags. -/
def setFlag (kind : Kind) (d : Draft) (flag : Bytes) : Except Stop Draft :=
  if kind ≠ .probe then .error .misuse
  else if flag = Utf8.encode "--process" ∧ !d.process then .ok { d with process := true }
  else if flag = Utf8.encode "--require-all" ∧ !d.requireAll then .ok { d with requireAll := true }
  else .error .misuse

/-- Reads the arguments of a command. -/
def read (kind : Kind) (d : Draft) : List Bytes → Except Stop Draft
  | [] => .ok d
  | a :: rest =>
    if a = Utf8.encode "--" then rest.foldlM (addName kind) d
    else if asksForHelp a then .error .help
    else if a = Utf8.encode "--output" then
      match rest with
      | [] => .error .misuse
      | value :: rest => do
        if isOption value then .error .misuse
        read kind (← d.setOutput value) rest
    else
      match valueOf? "--output" a with
      | some value => do read kind (← d.setOutput value) rest
      | none => do
        if isOption a then read kind (← d.setFlag kind a) rest
        else read kind (← d.addName kind a) rest

/-- The command that was read. A probe has a name at least. -/
def command (kind : Kind) (d : Draft) : Except Stop Command :=
  match kind with
  | .status => .ok (.status d.output)
  | .table => .ok (.table d.output)
  | .probe =>
    if d.names = [] then .error .misuse
    else .ok (.probe d.names.reverse d.process d.requireAll d.output)

end Draft

/-- The word that asks for help on the words behind it. -/
def helpWord : Bytes := Utf8.encode "help"

/-- There is help on a word: a command, or help itself. -/
def isTopic (word : Bytes) : Bool := word = helpWord || (Kind.ofBytes? word).isSome

/-- There is help on the words behind `help`: on all commands, or on one topic. -/
def hasHelp : List Bytes → Bool
  | [] => true
  | [word] => isTopic word
  | _ => false

/-- The command that arguments ask for, or why there is none. -/
def parse : List Bytes → Except Stop Command
  | [] => .error .misuse
  | word :: rest =>
    if asksForHelp word then .error .help
    else if word = helpWord then .error (if hasHelp rest then .help else .misuse)
    else
      match Kind.ofBytes? word with
      | none => .error .misuse
      | some kind => do Draft.command kind (← Draft.read kind {} rest)

end Linkage.CommandLine
