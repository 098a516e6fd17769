import DirectiveLint.Text

/-!
# Arguments

The arguments of a command, told apart into options with their values, switches and words.
`Arguments.read?` follows the usual rules: the value of an option stands behind an equals
sign or is the next argument, `--` turns all that follow into words, and a lone dash is a
word.  Which options there are, and how many words, is given by a `Grammar`.
-/

namespace DirectiveLint.CommandLine

/-- The words that a command takes. -/
inductive Words where
  /-- No words. -/
  | none
  /-- One word, which may look like an option that is unknown. -/
  | one
  /-- Any number of words. -/
  | any
  deriving DecidableEq, Repr

/-- What arguments a command takes. -/
structure Grammar where
  /-- The options with a value. -/
  options : List Text
  /-- The options without a value. -/
  switches : List Text
  /-- The words. -/
  words : Words

/-- The arguments of a command. -/
structure Arguments where
  /-- The options with their values. -/
  options : List (Text × Text) := []
  /-- The options without a value. -/
  switches : List Text := []
  /-- The words. -/
  words : List Text := []
  deriving DecidableEq, Repr

/-- The switch that every command has, and that may be repeated. -/
def verboseSwitch : Text := "verbose".toList

/-- The letter of that switch. -/
def verboseLetter : Char := 'v'

/-- The switch that asks for help, which is never a word. -/
def helpSwitch : Text := "help".toList

/-- The letter of that switch. -/
def helpLetter : Char := 'h'

namespace Grammar

/-- There is room for another word. -/
def hasRoom (g : Grammar) (a : Arguments) : Bool :=
  match g.words with
  | .none => false
  | .one => a.words.isEmpty
  | .any => true

/-- There is room for a word that looks like an option. -/
def hasLooseRoom (g : Grammar) (a : Arguments) : Bool := g.words = .one && g.hasRoom a

end Grammar

/-- What an argument is. -/
inductive Argument where
  /-- The argument behind which all are words. -/
  | separator
  /-- An option, with the value if that is attached to it. -/
  | option (name : Text) (value : Option Text)
  /-- A switch. -/
  | switch (name : Text)
  /-- A word, or the value of the option before it. -/
  | word (text : Text)
  /-- An argument that is refused. -/
  | unknown
  deriving DecidableEq, Repr

/-- What an argument is that starts with two dashes. -/
def Argument.ofLong (g : Grammar) (loose : Bool) (arg rest : Text) : Argument :=
  let (name, value) :=
    match cutAt '=' rest with
    | some (name, value) => (name, some value)
    | none => (rest, none)
  if g.options.contains name then .option name value
  else if g.switches.contains name then if value.isNone then .switch name else .unknown
  else if loose && name ≠ helpSwitch then .word arg
  else .unknown

/-- What an argument is that starts with one dash. -/
def Argument.ofLetters (loose : Bool) (arg letters : Text) : Argument :=
  if letters.all (· = verboseLetter) then .switch verboseSwitch
  else if loose && letters.any fun c => c ≠ verboseLetter && c ≠ helpLetter then .word arg
  else .unknown

/-- What an argument is; `loose` says that a word may look like an option. -/
def Argument.ofText (g : Grammar) (loose : Bool) (arg : Text) : Argument :=
  match arg with
  | ['-', '-'] => .separator
  | '-' :: '-' :: rest => .ofLong g loose arg rest
  | ['-'] => .word arg
  | '-' :: letters => .ofLetters loose arg letters
  | _ => .word arg

namespace Arguments

/-- The arguments with all that remain taken as words. -/
def takeWords? (g : Grammar) (a : Arguments) : List Text → Option Arguments
  | [] => some a
  | w :: ws =>
    if g.hasRoom a then takeWords? g { a with words := a.words ++ [w] } ws else none

/-- The arguments that a list makes up after those before it; `pending` is an option whose
value is to come. -/
def extend? (g : Grammar) (a : Arguments) (pending : Option Text) : List Text → Option Arguments
  | [] => if pending.isSome then none else some a
  | arg :: rest =>
    match Argument.ofText g (g.hasLooseRoom a) arg, pending with
    | .word w, some name => extend? g { a with options := a.options ++ [(name, w)] } none rest
    | .word w, none =>
      if g.hasRoom a then extend? g { a with words := a.words ++ [w] } none rest else none
    | .separator, none => takeWords? g a rest
    | .option name none, none => extend? g a (some name) rest
    | .option name (some value), none =>
      extend? g { a with options := a.options ++ [(name, value)] } none rest
    | .switch name, none => extend? g { a with switches := a.switches ++ [name] } none rest
    | _, _ => none

/-- The arguments that a list makes up. -/
def read? (g : Grammar) (args : List Text) : Option Arguments := extend? g {} none args

/-- The value of an option, if it is there; `none` if it is there twice. -/
def option? (a : Arguments) (name : Text) : Option (Option Text) :=
  match a.options.filter (·.1 = name) with
  | [] => some none
  | [(_, value)] => some (some value)
  | _ => none

/-- A switch is there; `none` if it is there twice. -/
def switch? (a : Arguments) (name : Text) : Option Bool :=
  match a.switches.filter (· = name) with
  | [] => some false
  | [_] => some true
  | _ => none

end Arguments

end DirectiveLint.CommandLine
