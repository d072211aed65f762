/-
**Flags on the command line.**

A command line mixes flags with plain arguments in any order.  A flag is given by its name after
two dashes or, if it has one, by its letter after a single dash.  A switch is on by being given; a
flag with a text takes the text behind an equals sign, the rest of its group of letters, or the
next argument.  Two dashes by themselves end the flags: what follows is plain, whatever it looks
like.  A single dash is plain.

Reading goes from left to right and stops at the first fault.  A flag that still waits for its text
is carried along to the next argument.

Main definitions:

* `CommandLine.Flag`, `CommandLine.FlagFault` — a flag, and what can be wrong with a command line;
* `CommandLine.Given` — what a command line gives: values of flags, and plain arguments;
* `CommandLine.readArguments` — reading a command line;
* `CommandLine.words`, `CommandLine.withoutWord` — a command line looked at before the flags of
  its command are known.
-/

import EventRules.Dictionary
import EventRules.Text.Quoted
import EventRules.Text.Search

set_option relaxedAutoImplicit false
set_option autoImplicit false

namespace EventRules.CommandLine

/-! ### Flags -/

inductive FlagKind where
  | text
  | switch
  deriving DecidableEq, Repr

/-- **A flag.** -/
structure Flag where
  /-- The name, given after two dashes. -/
  name : String
  /-- The letter, given after one dash. -/
  letter : Option Char := none
  kind : FlagKind := .text
  usage : String := ""
  fallback : String := ""
  deriving DecidableEq, Repr

def truth? (s : String) : Option Bool :=
  if s ∈ ["1", "t", "T", "true", "TRUE", "True"] then some true
  else if s ∈ ["0", "f", "F", "false", "FALSE", "False"] then some false
  else none

def truthText (b : Bool) : String :=
  if b then "true" else "false"

/-- The flag as it is given, by letter and by name. -/
def Flag.spelling (f : Flag) : String :=
  match f.letter with
  | some c => "-" ++ String.ofList [c] ++ ", --" ++ f.name
  | none => "--" ++ f.name

def findName? (flags : List Flag) (name : String) : Option Flag :=
  flags.find? (·.name == name)

def findLetter? (flags : List Flag) (c : Char) : Option Flag :=
  flags.find? (·.letter == some c)

/-! ### Faults -/

/-- **What can be wrong with a command line.**  A letter comes with the group it stands in, from
the letter on. -/
inductive FlagFault where
  | unknownName (name : String)
  | unknownLetter (letter : Char) (group : String)
  | noName (argument : String)
  | nameWithoutText (name : String)
  | letterWithoutText (letter : Char) (group : String)
  | noTruthValue (flag : Flag) (text : String)
  deriving DecidableEq, Repr

/-- A letter between single quotes.  Letters are single bytes: all those beyond ASCII look the
same. -/
def shownLetter (c : Char) : String :=
  let inner :=
    if 0x80 ≤ c.toNat then [Char.ofNat 0xC3]
    else if c = '\x27' then ['\\', c]
    else if c = '"' then [c]
    else Text.quoteChar c
  String.ofList ('\x27' :: inner ++ ['\x27'])

def FlagFault.message : FlagFault → String
  | .unknownName name => "unknown flag: --" ++ name
  | .unknownLetter c group => "unknown shorthand flag: " ++ shownLetter c ++ " in -" ++ group
  | .noName argument => "bad flag syntax: " ++ argument
  | .nameWithoutText name => "flag needs an argument: --" ++ name
  | .letterWithoutText c group => "flag needs an argument: " ++ shownLetter c ++ " in -" ++ group
  | .noTruthValue flag text =>
      "invalid argument " ++ Text.quote text ++ " for " ++ Text.quote flag.spelling ++
        " flag: strconv.ParseBool: parsing " ++ Text.quote text ++ ": invalid syntax"

/-! ### Reading -/

/-- **What a command line gives.** -/
structure Given where
  /-- The values of the flags that are given; the last one counts. -/
  values : Dictionary String := []
  arguments : List String := []
  deriving DecidableEq, Repr

namespace Given

def add (g : Given) (argument : String) : Given :=
  { g with arguments := g.arguments ++ [argument] }

def set (g : Given) (flag : Flag) (value : String) : Except FlagFault Given :=
  if flag.kind = .switch && (truth? value).isNone then .error (.noTruthValue flag value)
  else .ok { g with values := g.values.insert flag.name value }

def text (g : Given) (flag : Flag) : String :=
  (g.values.get? flag.name).getD flag.fallback

def isOn (g : Given) (flag : Flag) : Bool :=
  truth? (g.text flag) = some true

end Given

/-- A flag that waits for its text, with the fault if none comes. -/
structure Waiting where
  flag : Flag
  /-- What is wrong if the command line ends here. -/
  fault : FlagFault
  deriving DecidableEq, Repr

def readName (flags : List Flag) (written : String) (g : Given) :
    Except FlagFault (Given × Option Waiting) :=
  let (name, value) := Text.cut '=' written
  match findName? flags name with
  | none => .error (.unknownName name)
  | some flag =>
      match value, flag.kind with
      | some text, _ => (g.set flag text).map (·, none)
      | none, .switch => (g.set flag (truthText true)).map (·, none)
      | none, .text => .ok (g, some ⟨flag, .nameWithoutText name⟩)

def readLetters (flags : List Flag) : List Char → Given →
    Except FlagFault (Given × Option Waiting)
  | [], g => .ok (g, none)
  | c :: rest, g =>
      match findLetter? flags c with
      | none => .error (.unknownLetter c (String.ofList (c :: rest)))
      | some flag =>
          match rest, flag.kind with
          | '=' :: d :: text, _ => (g.set flag (String.ofList (d :: text))).map (·, none)
          | _, .switch =>
              match g.set flag (truthText true) with
              | .error fault => .error fault
              | .ok g' => readLetters flags rest g'
          | [], .text => .ok (g, some ⟨flag, .letterWithoutText c (String.ofList [c])⟩)
          | d :: text, .text => (g.set flag (String.ofList (d :: text))).map (·, none)

/-- Reads one argument that starts with a dash and is neither one dash nor two. -/
def readFlag (flags : List Flag) (argument : String) (g : Given) :
    Except FlagFault (Given × Option Waiting) :=
  match argument.toList with
  | '-' :: '-' :: c :: rest =>
      if c = '-' || c = '=' then .error (.noName argument)
      else readName flags (String.ofList (c :: rest)) g
  | '-' :: letters => readLetters flags letters g
  | _ => .ok (g.add argument, none)

/-- Is the argument plain?  It is if it does not start with a dash, or is nothing but one. -/
def isPlain (argument : String) : Bool :=
  argument = "-" || !Text.hasStart "-" argument

/-- **Reads a command line**, given a flag that waits for its text. -/
def readArguments (flags : List Flag) : Option Waiting → List String → Given →
    Except FlagFault Given
  | none, [], g => .ok g
  | some waiting, [], _ => .error waiting.fault
  | some waiting, argument :: rest, g =>
      match g.set waiting.flag argument with
      | .error fault => .error fault
      | .ok g' => readArguments flags none rest g'
  | none, argument :: rest, g =>
      if argument = "--" then .ok { g with arguments := g.arguments ++ rest }
      else if isPlain argument then readArguments flags none rest (g.add argument)
      else
        match readFlag flags argument g with
        | .error fault => .error fault
        | .ok (g', waiting) => readArguments flags waiting rest g'

/-! ### Looking for the command -/

/-- Does the argument look like a flag whose text is the next argument?  A flag that is not known
does. -/
def takesNext (flags : List Flag) (argument : String) : Bool :=
  let switch (f : Option Flag) : Bool := f.any (·.kind = .switch)
  !argument.toList.contains '=' &&
    match argument.toList with
    | '-' :: '-' :: name => !switch (findName? flags (String.ofList name))
    | ['-', c] => !switch (findLetter? flags c)
    | _ => false

/-- The plain words of a command line; `taken` says that the first argument belongs to a flag. -/
def wordsFrom (flags : List Flag) : Bool → List String → List String
  | _, [] => []
  | true, _ :: rest => wordsFrom flags false rest
  | false, argument :: rest =>
      if argument = "--" then []
      else if takesNext flags argument then wordsFrom flags true rest
      else if argument = "" || Text.hasStart "-" argument then wordsFrom flags false rest
      else argument :: wordsFrom flags false rest

/-- **The plain words** of a command line. -/
def words (flags : List Flag) (arguments : List String) : List String :=
  wordsFrom flags false arguments

/-- The command line without a plain word; `taken` says that the first argument belongs to a
flag. -/
def withoutWordFrom (flags : List Flag) (word : String) : Bool → List String → List String
  | _, [] => []
  | true, argument :: rest => argument :: withoutWordFrom flags word false rest
  | false, argument :: rest =>
      if argument = "--" then argument :: rest
      else if takesNext flags argument then argument :: withoutWordFrom flags word true rest
      else if argument = word then rest
      else argument :: withoutWordFrom flags word false rest

def withoutWord (flags : List Flag) (word : String) (arguments : List String) : List String :=
  withoutWordFrom flags word false arguments

end EventRules.CommandLine
