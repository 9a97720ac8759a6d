import EscapeClause.Flag
import EscapeClause.Path

/-!
# Settings

What a user sets through environment variables: whether the log is quiet, whether a run prints a
summary, and where the handlers file is. A variable is a setting's name after `variablePrefix`, in
any case of ASCII letters; of two spellings of one name the later one counts. A handlers file that
no variable names is the user's own one, in the directory where the system keeps configurations
(`userHandlersFile`).
-/

namespace EscapeClause

structure Settings where
  quiet : Bool := false
  detailed : Bool := false
  /-- Where the handlers file is; `none` is the user's own one. -/
  handlersFile : Option Path := none
  deriving DecidableEq, Repr

namespace Settings

/-! ### Variables -/

/-- The variables of a block of entries, which a zero byte ends each. An entry that is no UTF-8 is
left out. -/
def readVariables (block : ByteArray) : List (Text × Text) :=
  let entries := (block.toList.splitOn 0).filterMap fun bytes => String.fromUTF8? ⟨bytes.toArray⟩
  let pairs := entries.filterMap fun entry =>
    let name := entry.toList.takeWhile (· != '=')
    match entry.toList.drop name.length with
    | _ :: value => some (name, value)
    | [] => none
  -- The first one of two entries with one name is the variable.
  pairs.eraseDupsBy fun a b => a.1 == b.1

/-- The directory that keeps the configurations of all programs. -/
def configurationsDirectory (environment : List (Text × Text)) : Text :=
  match environment.lookup "XDG_CONFIG_HOME".toList with
  | some directory => directory
  | none =>
    let home := (environment.lookup "HOME".toList).getD ['~']
    (home.reverse.dropWhile (· = '/')).reverse ++ "/.config".toList

def userHandlersFile (environment : List (Text × Text)) : Path :=
  Path.ofText (Path.join (Path.join (configurationsDirectory environment) "sqlescape".toList)
    "handlers.json".toList)

/-! ### Settings -/

/-- A setting that is a truth value. -/
inductive FlagName
  | quiet
  | detailed
  deriving DecidableEq, Repr

def FlagName.text : FlagName → Text
  | quiet => "beQuiet".toList
  | detailed => "detailedOutput".toList

/-- What the name of every variable starts with. -/
def variablePrefix : Text := "esq_".toList

/-- The value of the variable for a setting. -/
def lookup? (environment : List (Text × Text)) (setting : Text) : Option Text :=
  let name := variablePrefix ++ Text.lowerAscii setting
  (environment.reverse.find? fun e => Text.lowerAscii e.1 == name).map Prod.snd

def flag (environment : List (Text × Text)) (name : FlagName) : Except FlagName Bool :=
  match lookup? environment name.text with
  | none => .ok false
  | some value =>
    match flagOfText value with
    | .ok b => .ok b
    | .error _ => .error name

/-- The settings of an environment, or those of them that are no truth values. -/
def ofEnvironment (environment : List (Text × Text)) : Except (List FlagName) Settings :=
  match flag environment .quiet, flag environment .detailed with
  | .ok quiet, .ok detailed =>
    .ok ⟨quiet, detailed, (lookup? environment "handlersFile".toList).map Path.ofText⟩
  | .error q, .ok _ => .error [q]
  | .ok _, .error d => .error [d]
  | .error q, .error d => .error [q, d]

end Settings

end EscapeClause
