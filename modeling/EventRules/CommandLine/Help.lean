/-
**Help on the command line.**

The help for a command says what it does, how it is written and which flags it takes; the help for
the program lists the commands instead.  Flags are listed by name in one column and explained in a
second one, three blanks behind the longest name.

Main definitions:

* `CommandLine.flagLines` — the list of flags;
* `CommandLine.usageText`, `CommandLine.helpText` — how a command is used, and the whole help.
-/

import EventRules.CommandLine.Commands

set_option relaxedAutoImplicit false
set_option autoImplicit false

namespace EventRules.CommandLine

def padded (width : Nat) (s : String) : String :=
  s ++ Text.copies (width - s.length) ' '

/-! ### Flags -/

def Flag.heading (f : Flag) : String :=
  (if f.letter.isNone then "      " else "  ") ++ f.spelling ++
    match f.kind with
    | .text => " string"
    | .switch => ""

def Flag.explanation (f : Flag) : String :=
  f.usage ++
    match f.kind with
    | .text => if f.fallback = "" then "" else " (default " ++ Text.quote f.fallback ++ ")"
    | .switch => if truth? f.fallback = some true then " (default true)" else ""

/-- **The list of flags.** -/
def flagLines (flags : List Flag) : List String :=
  let width := (flags.map fun f => f.heading.length).foldl max 0
  flags.map fun f => padded (width + 3) f.heading ++ f.explanation

def flagSection (title : String) (flags : List Flag) : String :=
  "\n\n" ++ title ++ ":\n" ++ Text.join "\n" (flagLines flags)

def inOrder (flags : List Flag) : List Flag :=
  flags.mergeSort (·.name ≤ ·.name)

/-! ### Usage and help -/

def commandWidth : Nat := 11

/-- How something with commands of its own is used: the words that name it, the commands with what
they do, and the flags. -/
def groupUsage (path : String) (commands : List (String × String)) (flags : String) : String :=
  "Usage:\n  " ++ path ++ " [command]\n\nAvailable Commands:" ++
    String.join (commands.map fun c => "\n  " ++ padded commandWidth c.1 ++ " " ++ c.2) ++
    flags ++ "\n\nUse \"" ++ path ++ " [command] --help\" for more information about a command.\n"

/-- How the program is used; the flag that asks for help may be left out. -/
def programUsage (defaults : Dictionary String) (withHelp : Bool) : String :=
  let help := if withHelp then [helpFlag programName] else []
  groupUsage programName (Command.all.map fun c => (c.name, c.summary))
    (flagSection "Flags" (inOrder (help ++ commonFlags defaults)))

/-- The flags of a command, its own and those of every command. -/
def commandFlags (defaults : Dictionary String) (c : Command) : String :=
  flagSection "Flags" c.ownFlags ++ flagSection "Global Flags" (commonFlags defaults)

def commandUsage (defaults : Dictionary String) : Command → String
  | .completion none =>
      groupUsage (Command.completion none).path (Shell.all.map fun s => (s.name, s.summary))
        (commandFlags defaults (.completion none))
  | .completion (some s) =>
      "Usage:\n  " ++ (Command.completion (some s)).path ++
        commandFlags defaults (.completion (some s)) ++ "\n"
  | c => "Usage:\n  " ++ c.path ++ c.operands ++ " [flags]" ++ commandFlags defaults c ++ "\n"

/-- **How a command, or the program, is used.** -/
def usageText (defaults : Dictionary String) : Option Command → String
  | none => programUsage defaults true
  | some c => commandUsage defaults c

def programDescription : String :=
  Text.join "\n"
    [programName ++ " turns event rule XML into indented, human-readable pseudocode.",
      "",
      "Lookups for table indexes, data dictionary titles, business functions and",
      "templates come from per-environment catalogs kept under the data directory",
      "(see \"" ++ programName ++ " import\")."]

def Shell.description : Shell → String
  | .bash =>
      Text.join "\n"
        ["Generate the autocompletion script for the bash shell.",
          "",
          "This script depends on the 'bash-completion' package.",
          "If it is not installed already, you can install it via your OS's package manager.",
          "",
          "To load completions in your current shell session:",
          "",
          "\tsource <(" ++ programName ++ " completion bash)",
          "",
          "To load completions for every new session, execute once:",
          "",
          "#### Linux:",
          "",
          "\t" ++ programName ++ " completion bash > /etc/bash_completion.d/" ++ programName,
          "",
          "#### macOS:",
          "",
          "\t" ++ programName ++ " completion bash > $(brew --prefix)/etc/bash_completion.d/" ++
            programName,
          "",
          "You will need to start a new shell for this setup to take effect."]
  | .fish =>
      Text.join "\n"
        ["Generate the autocompletion script for the fish shell.",
          "",
          "To load completions in your current shell session:",
          "",
          "\t" ++ programName ++ " completion fish | source",
          "",
          "To load completions for every new session, execute once:",
          "",
          "\t" ++ programName ++ " completion fish > ~/.config/fish/completions/" ++ programName ++
            ".fish",
          "",
          "You will need to start a new shell for this setup to take effect."]
  | .powershell =>
      Text.join "\n"
        ["Generate the autocompletion script for powershell.",
          "",
          "To load completions in your current shell session:",
          "",
          "\t" ++ programName ++ " completion powershell | Out-String | Invoke-Expression",
          "",
          "To load completions for every new session, add the output of the above command",
          "to your powershell profile."]
  | .zsh =>
      Text.join "\n"
        ["Generate the autocompletion script for the zsh shell.",
          "",
          "If shell completion is not already enabled in your environment you will need",
          "to enable it.  You can execute the following once:",
          "",
          "\techo \"autoload -U compinit; compinit\" >> ~/.zshrc",
          "",
          "To load completions in your current shell session:",
          "",
          "\tsource <(" ++ programName ++ " completion zsh)",
          "",
          "To load completions for every new session, execute once:",
          "",
          "#### Linux:",
          "",
          "\t" ++ programName ++ " completion zsh > \"$\x7bfpath[1]\x7d/_" ++ programName ++ "\"",
          "",
          "#### macOS:",
          "",
          "\t" ++ programName ++
            " completion zsh > $(brew --prefix)/share/zsh/site-functions/_" ++ programName,
          "",
          "You will need to start a new shell for this setup to take effect."]

def Command.description : Command → String
  | .completion none =>
      "Generate the autocompletion script for " ++ programName ++ " for the specified shell.\n" ++
        "See each sub-command's help for details on how to use the generated script."
  | .completion (some s) => s.description
  | .help =>
      "Help provides help for any command in the application.\nSimply type " ++ programName ++
        " help [path to command] for full details."
  | c => c.summary

/-- **The help for a command, or for the program.** -/
def helpText (defaults : Dictionary String) (about : Option Command) : String :=
  (about.map Command.description).getD programDescription ++ "\n\n" ++ usageText defaults about

/-- A word between backquotes, or between double quotes if it cannot stand between backquotes. -/
def topicWord (s : String) : String :=
  if s.toList.all (fun c => c != '\x60' && c != Char.ofNat 0xFEFF && c != '\x7f' &&
      (c = '\t' || ' ' ≤ c)) then
    "\x60" ++ s ++ "\x60"
  else Text.quote s

/-- The answer to a question for help about something that does not exist. -/
def noHelpText (defaults : Dictionary String) (topic : List String) : String :=
  "Unknown help topic [" ++ Text.join " " (topic.map topicWord) ++ "]\n" ++
    programUsage defaults false

end EventRules.CommandLine
