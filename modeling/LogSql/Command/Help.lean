import LogSql.Command.Basic
import LogSql.Text.Glyph

/-!
Explanations of commands, and the commands that every program has for them.
-/
namespace LogSql.Command

/-- A flag in a list of flags, up to its usage. -/
def Flag.heading (f : Flag) : Text :=
  let value := f.valueName
  let start : Text := match f.letter with
    | some b => .concat ["  -", [b], ", --", f.name]
    | none => "      --" ++ f.name
  if value.isEmpty then start else .concat [start, " ", value]

/-- A list of flags by name, their usages below each other. -/
def flagLines (flags : List Flag) : Text :=
  let widest := (flags.map fun f => f.heading.length).foldl max 0
  Text.join "\n" ((byName Flag.name flags).map fun f =>
    .concat [f.heading, List.replicate (widest + 3 - f.heading.length) (Text.byte ' '), f.usage,
      f.initialText])

/-- The width of the column of names in a list of commands. -/
def nameWidth : Nat := 11

namespace Program

variable {α : Type}

/-- A list of commands with what they do. -/
def commandLines (p : Program α) (cs : List (Command α)) : Text :=
  let widest := (cs.map fun c => (p.nameOf c).length).foldl max nameWidth
  (cs.map fun c =>
    let name := p.nameOf c
    Text.concat ["\n  ", name, List.replicate (widest - name.length) (Text.byte ' '), " ", c.short]).flatten

/-- How a command is used: its line, the commands below it and its flags. -/
def usage (p : Program α) (c : Command α) : Text :=
  let children := p.below c
  let path := p.pathText c
  let line : Text := match c.action with
    | .group => []
    | _ => .concat ["\n  ", path, if c.arguments.isEmpty then [] else Text.byte ' ' :: c.arguments,
        " [flags]"]
  let inherited := p.inherited c
  let below : Text := if children.isEmpty then [] else
    .concat ["\n\nAvailable Commands:", p.commandLines children]
  .concat ["Usage:", line, if children.isEmpty then [] else .concat ["\n  ", path, " [command]"], below,
    "\n\nFlags:\n", flagLines (c.flags ++ c.shared ++ [helpFlag (p.nameOf c)]),
    if inherited.isEmpty then [] else .concat ["\n\nGlobal Flags:\n", flagLines inherited],
    if children.isEmpty then [] else
      .concat ["\n\nUse \"", path, " [command] --help\" for more information about a command."],
    "\n"]

/-- The explanation of a command. -/
def help (p : Program α) (c : Command α) : Text :=
  let about := if c.long.isEmpty then c.short else c.long
  let shown := Text.trimEndBy Text.isSpace about
  (if shown.isEmpty then [] else shown ++ Text.ofString "\n\n") ++ p.usage c

/-- What is said about a topic that does not exist. -/
def unknownTopic (p : Program α) (root : Command α) (words : List Text) : Text :=
  let shown := words.map fun w => Text.concat ["`", w, "`"]
  .concat ["Unknown help topic [", Text.join " " shown, "]\n", p.usage root]

/-- The commands that explain others or help a shell to complete words. -/
def common (name : Text) : List (Command α) :=
  let shell := fun (shell : Text) => ({
    path := ["completion", shell], arity := .none, action := .group
    short := "Generate the autocompletion script for " ++ shell
    flags := [{ name := "no-descriptions", initial := .switch false
                usage := "disable completion descriptions" }] } : Command α)
  [{ path := ["help"], arguments := "[command]", action := .explain
     short := "Help about any command"
     long := .concat ["Help provides help for any command in the application.\nSimply type ", name,
       " help [path to command] for full details."] },
   { path := ["completion"], arity := .none, action := .group
     short := "Generate the autocompletion script for the specified shell"
     long := .concat ["Generate the autocompletion script for ", name, " for the specified shell.\n",
       "See each sub-command's help for details on how to use the generated script."] },
   shell "bash", shell "fish", shell "powershell", shell "zsh"]

end Program
end LogSql.Command
