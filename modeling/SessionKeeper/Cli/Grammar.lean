import SessionKeeper.Text.Blank
import SessionKeeper.Text.Digits

/-!
Command lines. A command line names a command by a path of words, with options before and between
its operands. An option's value stands behind it or is attached to it; nothing that looks like an
option is ever taken as a value, unless it is attached. Behind `--` everything is an operand.

A value that stands behind its option is looked at only when the next option or operand comes, or
at the end; so of several mistakes the one that is reported is not always the first.
-/

namespace SessionKeeper.Cli

/-- Why a command line is refused, or answered with a help text. -/
inductive UsageError where
  /-- A help text is asked for. -/
  | displayHelp
  /-- The version is asked for. -/
  | displayVersion
  /-- Nothing is asked for. -/
  | displayHelpOnMissing
  /-- No command is named. -/
  | missingSubcommand
  /-- There is no such command. -/
  | invalidSubcommand
  /-- There is no such option, or no room for an operand. -/
  | unknownArgument
  /-- An option is given twice. -/
  | argumentConflict
  /-- A value is missing or is none of the choices. -/
  | invalidValue
  /-- A value is not a number. -/
  | valueValidation
  /-- A value is attached to a switch. -/
  | tooManyValues
  /-- An operand is missing. -/
  | missingRequiredArgument
deriving DecidableEq, Repr

namespace UsageError

/-- The name of a refusal. -/
def name : UsageError → String
  | .displayHelp => "DisplayHelp"
  | .displayVersion => "DisplayVersion"
  | .displayHelpOnMissing => "DisplayHelpOnMissingArgumentOrSubcommand"
  | .missingSubcommand => "MissingSubcommand"
  | .invalidSubcommand => "InvalidSubcommand"
  | .unknownArgument => "UnknownArgument"
  | .argumentConflict => "ArgumentConflict"
  | .invalidValue => "InvalidValue"
  | .valueValidation => "ValueValidation"
  | .tooManyValues => "TooManyValues"
  | .missingRequiredArgument => "MissingRequiredArgument"

end UsageError

/-- What an option does. -/
inductive OptionKind where
  /-- It takes any text. -/
  | text
  /-- It takes an integer. -/
  | integer
  /-- It takes one of several words. -/
  | choice (words : List String)
  /-- It takes no value. -/
  | switch
  /-- It asks for a help text. -/
  | help
  /-- It asks for the version. -/
  | version
deriving DecidableEq

/-- An option. -/
structure OptionSpec where
  /-- Its name, which stands behind two hyphens. -/
  long : String
  /-- The letter that can stand for it behind one hyphen. -/
  short : Option Char
  /-- What it does. -/
  kind : OptionKind

namespace OptionSpec

/-- Whether the option takes a value. -/
def takesValue (o : OptionSpec) : Bool :=
  match o.kind with
  | .text | .integer | .choice _ => true
  | .switch | .help | .version => false

/-- The option that every command has. -/
def help : OptionSpec := ⟨"help", some 'h', .help⟩

end OptionSpec

/-- The commands and what each of them takes. -/
inductive Grammar where
  /-- A command that is completed by another word. -/
  | group (options : List OptionSpec) (commands : List (String × Grammar))
  /-- A command with its operands, all of which are needed. -/
  | command (options : List OptionSpec) (operands : List String)

namespace Grammar

/-- The options of a command. -/
def options : Grammar → List OptionSpec
  | group options _ => options
  | command options _ => options

/-- The commands that complete a command. -/
def commands : Grammar → List (String × Grammar)
  | group _ commands => commands
  | command _ _ => []

/-- Whether a command is completed by another word. -/
def isGroup : Grammar → Bool
  | group _ _ => true
  | command _ _ => false

/-- Whether a word completes the command. Each group is also completed by `help`. -/
def isCompletedBy (g : Grammar) (word : String) : Bool :=
  g.isGroup && (word == "help" || (g.commands.lookup word).isSome)

/-- The answer to `help`, which may be followed by the path of a command. -/
def helpOn (g : Grammar) : List String → UsageError
  | [] => .displayHelp
  | word :: words =>
    match g.commands.lookup word with
    | some sub => helpOn sub words
    | none =>
      if g.isGroup && word == "help" && words.isEmpty then .displayHelp else .invalidSubcommand

end Grammar

/-- What a command line says about one word of its command. -/
structure Level where
  /-- The options given, with their values; a switch has an empty one. -/
  options : List (String × String) := []
  /-- The operands. -/
  operands : List String := []
deriving DecidableEq, Repr

/-- What has been read of a level so far. -/
structure Reading where
  /-- The options and operands that are settled. -/
  level : Level := {}
  /-- An option that waits for its value, or whose value has not been looked at. -/
  pending : Option (OptionSpec × Option String) := none
  /-- Whether `--` has been read. -/
  operandsOnly : Bool := false

namespace Reading

/-- Look at an option's value. -/
def check (kind : OptionKind) (value : String) : Except UsageError Unit :=
  match kind with
  | .integer => if (Text.readInt64? value).isSome then .ok () else .error .valueValidation
  | .choice words => if words.contains value then .ok () else .error .invalidValue
  | _ => .ok ()

/-- Settle an option, which cannot be given twice. -/
def settle (o : OptionSpec) (value : String) (r : Reading) : Except UsageError Reading :=
  if (r.level.options.lookup o.long).isSome then .error .argumentConflict
  else do
    check o.kind value
    return { r with level := { r.level with options := r.level.options ++ [(o.long, value)] } }

/-- Settle the option that is pending, which needs its value now. -/
def resolve (r : Reading) : Except UsageError Reading :=
  match r.pending with
  | none => .ok r
  | some (_, none) => .error .invalidValue
  | some (o, some value) => settle o value { r with pending := none }

/-- An option has been met, with the value attached to it, if there is one. -/
def meet (o : OptionSpec) (attached : Option String) (r : Reading) : Except UsageError Reading :=
  match o.kind, attached with
  | .switch, some _ | .help, some _ | .version, some _ => .error .tooManyValues
  | .switch, none => do settle o "" (← r.resolve)
  | .help, none => do
    let _ ← r.resolve
    throw .displayHelp
  | .version, none => do
    let _ ← r.resolve
    throw .displayVersion
  | _, some value => do settle o value (← r.resolve)
  | _, none => do return { ← r.resolve with pending := some (o, none) }

/-- Read an option by its name, with what may be attached to it behind an equals sign. -/
def long (options : List OptionSpec) (body : List Char) (r : Reading) :
    Except UsageError Reading :=
  let name := String.ofList (body.takeWhile (· != '='))
  let attached :=
    match body.dropWhile (· != '=') with
    | [] => none
    | _ :: value => some (String.ofList value)
  match options.find? fun o => o.long == name with
  | none => .error .unknownArgument
  | some o => r.meet o attached

/-- What is attached to the letter of an option: all that stands behind it, less an equals sign. -/
def attachedTo : List Char → Option String
  | [] => none
  | '=' :: value => some (String.ofList value)
  | value => some (String.ofList value)

/-- Read options by their letters. One that takes a value takes all that stands behind it. -/
def short (options : List OptionSpec) : List Char → Reading → Except UsageError Reading
  | [], r => .ok r
  | c :: cs, r =>
    match options.find? fun o => o.short == some c with
    | none => .error .unknownArgument
    | some o =>
      if o.takesValue then r.meet o (attachedTo cs)
      else do short options cs (← r.meet o none)

/-- Read an operand, if the command takes one more. -/
def operand (g : Grammar) (word : String) (r : Reading) : Except UsageError Reading :=
  match g with
  | .group _ _ =>
    if r.operandsOnly && g.isCompletedBy word then .error .unknownArgument
    else .error .invalidSubcommand
  | .command _ operands =>
    if r.level.operands.length < operands.length then do
      let r ← r.resolve
      return { r with level := { r.level with operands := r.level.operands ++ [word] } }
    else .error .unknownArgument

/-- The command line ends here. -/
def finish (g : Grammar) (r : Reading) : Except UsageError Level := do
  let r ← r.resolve
  match g with
  | .group _ _ =>
    if r.level.options.isEmpty then throw .displayHelpOnMissing else throw .missingSubcommand
  | .command _ operands =>
    if r.level.operands.length < operands.length then throw .missingRequiredArgument
    else return r.level

/-- Whether the option that is pending waits for its value. -/
def isWaiting (r : Reading) : Bool :=
  match r.pending with
  | some (_, none) => true
  | _ => false

/-- A word that is neither an option nor the name of a command. -/
def plain (g : Grammar) (word : String) (r : Reading) : Except UsageError Reading :=
  match r.pending, r.operandsOnly with
  | some (o, none), false => .ok { r with pending := some (o, some word) }
  | _, _ => r.operand g word

/-- A word that is not the name of a command. -/
def word (g : Grammar) (w : String) (r : Reading) : Except UsageError Reading :=
  if r.operandsOnly then r.operand g w
  else
    match w.toList with
    | ['-', '-'] => .ok { r with operandsOnly := true }
    | '-' :: '-' :: body => r.long g.options body
    | '-' :: c :: cs => r.short g.options (c :: cs)
    | _ => r.plain g w

end Reading

namespace Grammar

/-- Read what is left of a command line. The words of the command are given with what was read at
each of them. -/
def readFrom (g : Grammar) (r : Reading) :
    List String → Except UsageError (List String × List Level)
  | [] => do return ([], [← r.finish g])
  | w :: ws =>
    if !r.operandsOnly && !r.isWaiting && g.isCompletedBy w then
      match g.commands.lookup w with
      | none => .error (g.helpOn ws)
      | some sub => do
        let (path, levels) ← readFrom sub {} ws
        let r ← r.resolve
        return (w :: path, r.level :: levels)
    else do readFrom g (← r.word g w) ws

/-- Read a command line. -/
def read (g : Grammar) (words : List String) : Except UsageError (List String × List Level) :=
  g.readFrom {} words

end Grammar

end SessionKeeper.Cli
