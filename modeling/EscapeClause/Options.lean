import EscapeClause.CloseMatch
import EscapeClause.Files
import EscapeClause.Text.Quoted

/-!
# Options

The arguments of a command line are options and plain arguments in any order; two dashes end the
options. A long option is written in full and takes its value from the next argument, whatever
that looks like, or after an equals sign; the only short option is that of the version. Reading
stops at the first mistake (`Arguments.read`).

What was read is then looked at in turn (`Request.ofArguments`): the first of the options that ask
for the version or for help wins over everything else; the handlers file that was named last must
exist; at most one plain argument may be left.
-/

namespace EscapeClause

inductive OptionName
  | split
  | echoed
  | dropped
  | noDefaults
  | handlers
  | version
  | help
  deriving DecidableEq, Repr

namespace OptionName

def all : List OptionName := [split, echoed, dropped, noDefaults, handlers, version, help]

/-- How an option is written. -/
def long : OptionName → Text
  | split => "--split".toList
  | echoed => "--passthru".toList
  | dropped => "--arg-only".toList
  | noDefaults => "--no-defaults".toList
  | handlers => "--handlers".toList
  | version => "--version".toList
  | help => "--help".toList

def takesValue : OptionName → Bool
  | echoed | dropped | handlers => true
  | _ => false

/-- The option that is written like this. -/
def ofLong? (t : Text) : Option OptionName := all.find? fun o => o.long == t

theorem ofLong?_long (o : OptionName) : ofLong? o.long = some o := by cases o <;> decide

end OptionName

inductive UsageError
  | missingValue (option : OptionName)
  | needlessValue (option : OptionName)
  /-- There is no such option, but perhaps one that is like it. -/
  | unknownOption (written : Text) (alike : List Text)
  | missingFile (path : Text)
  | notAFile (path : Text)
  | extraArguments (arguments : List Text)
  deriving DecidableEq, Repr

namespace UsageError

/-- A hint at what was meant; several options are listed in the order of code points. -/
def hint : List Text → Text
  | [] => []
  | [one] => " Did you mean ".toList ++ Text.quoted one ++ ['?']
  | several =>
    " (Did you mean one of: ".toList ++
      Text.join ", ".toList ((several.mergeSort Text.le).map Text.quoted) ++ "?)".toList

def message : UsageError → Text
  | missingValue option =>
    "Option ".toList ++ Text.quoted option.long ++ " requires an argument.".toList
  | needlessValue option =>
    "Option ".toList ++ Text.quoted option.long ++ " does not take a value.".toList
  | unknownOption written alike =>
    "No such option ".toList ++ Text.quoted written ++ ['.'] ++ hint alike
  | missingFile path =>
    "Invalid value for '--handlers': File ".toList ++ Text.quoted path ++
      " does not exist.".toList
  | notAFile path =>
    "Invalid value for '--handlers': File ".toList ++ Text.quoted path ++
      " is a directory.".toList
  | extraArguments arguments =>
    "Got unexpected extra argument".toList ++ (if arguments.length = 1 then [] else ['s']) ++
      " (".toList ++ Text.join [' '] arguments ++ [')']

/-- Whether the usage of the program is shown before the mistake. -/
def showsUsage : UsageError → Bool
  | missingValue _ | needlessValue _ => false
  | _ => true

end UsageError

/-- The arguments of a command line, sorted. -/
structure Arguments where
  /-- The options with their values, in order; an option without a value has an empty one. -/
  options : List (OptionName × Text)
  /-- The other arguments, in order. -/
  plain : List Text
  deriving DecidableEq, Repr

namespace Arguments

def addOption (option : OptionName) (value : Text) (a : Arguments) : Arguments :=
  { a with options := (option, value) :: a.options }

def addPlain (argument : Text) (a : Arguments) : Arguments :=
  { a with plain := argument :: a.plain }

/-- The value after the first equals sign. -/
def valuePart? (t : Text) : Option Text :=
  match t.dropWhile (· != '=') with
  | [] => none
  | _ :: value => some value

/-- The first letter after a dash, and what it asks for, of letters that are short options: the
only one is that of the version. -/
def readLetters : Text → Except UsageError (List OptionName)
  | [] => .ok []
  | c :: r =>
    if c = 'V' then (readLetters r).map (.version :: ·)
    else .error (.unknownOption ['-', c] [])

/-- Sorts the arguments of a command line. -/
def read : List Text → Except UsageError Arguments
  | [] => .ok ⟨[], []⟩
  | argument :: rest =>
    if argument = "--".toList then .ok ⟨[], rest⟩
    else if argument.head? ≠ some '-' ∨ argument.length ≤ 1 then
      (read rest).map (addPlain argument)
    else
      let written := argument.takeWhile (· != '=')
      match OptionName.ofLong? written with
      | some option =>
        if option.takesValue then
          match valuePart? argument with
          | some value => (read rest).map (addOption option value)
          | none =>
            match rest with
            | [] => .error (.missingValue option)
            -- The next argument is the value, even if it looks like an option.
            | value :: rest => (read rest).map (addOption option value)
        else if (valuePart? argument).isSome then .error (.needlessValue option)
        else (read rest).map (addOption option [])
      | none =>
        -- Two dashes start a long option, one dash a row of letters.
        match argument with
        | '-' :: '-' :: _ =>
          .error (.unknownOption written
            (CloseMatch.closeMatches written (OptionName.all.map OptionName.long)))
        | _ =>
          match readLetters argument.tail with
          | .error e => .error e
          | .ok options => (read rest).map fun a => options.foldr (fun o => addOption o []) a

def has (a : Arguments) (option : OptionName) : Bool := a.options.any (·.1 == option)

def values (a : Arguments) (option : OptionName) : List Text :=
  (a.options.filter (·.1 == option)).map Prod.snd

end Arguments

/-- What a run is asked to do with its text. -/
structure RunOptions where
  sql : Option Text
  split : Bool
  echoed : List Text
  dropped : List Text
  defaults : Bool
  handlersFile : Option Text
  deriving DecidableEq, Repr

/-- What a command line asks for. -/
inductive Request
  | run (options : RunOptions)
  | showVersion
  | showHelp
  deriving DecidableEq, Repr

namespace Request

/-- The options that win over everything else. -/
def ofEager? : OptionName → Option Request
  | .version => some showVersion
  | .help => some showHelp
  | _ => none

/-- Refuses a handlers file that is none. -/
def checkHandlersFile (files : Files) : Option Text → Except UsageError Unit
  | none => .ok ()
  | some path =>
    match files path with
    | none => .error (.missingFile path)
    | some .directory => .error (.notAFile path)
    | some (.file _) => .ok ()

def ofArguments (files : Files) (a : Arguments) : Except UsageError Request :=
  match a.options.findSome? fun o => ofEager? o.1 with
  | some request => .ok request
  | none =>
    -- Of several handlers files the last one is used.
    let handlersFile := (a.values .handlers).getLast?
    match checkHandlersFile files handlersFile with
    | .error e => .error e
    | .ok () =>
      let run (sql : Option Text) : Request :=
        .run ⟨sql, a.has .split, a.values .echoed, a.values .dropped, !a.has .noDefaults,
          handlersFile⟩
      match a.plain with
      | [] => .ok (run none)
      | [sql] => .ok (run (some sql))
      | _ :: extra => .error (.extraArguments extra)

def ofCommandLine (files : Files) (arguments : List Text) : Except UsageError Request :=
  match Arguments.read arguments with
  | .error e => .error e
  | .ok a => ofArguments files a

end Request

end EscapeClause
