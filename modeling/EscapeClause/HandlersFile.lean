import EscapeClause.Files
import EscapeClause.Flag
import EscapeClause.Json.Reader
import EscapeClause.Record

/-!
# Handlers files

A handlers file is a JSON object that binds keywords to specifications, and a specification is an
object with at most one field, a truth value that tells whether a clause keeps its keyword. Every
keyword becomes an echoing handler. `readHandlers` is all or nothing: the first specification with
a problem, in the order of the keywords, refuses the file. `load` looks the file up first; a file
that does not exist specifies no handlers.

A keyword of a file is a string of JSON and need not be a text. No clause has such a keyword, and
`loadRegistry` is the registry of the others.
-/

namespace EscapeClause.HandlersFile

inductive ProblemKind
  /-- A text or an integer of 64 bits that is no truth value. -/
  | unreadableFlag
  /-- A value of a kind that has no truth values. -/
  | wrongFlagKind
  /-- A string, or the name of a field, that is no text. -/
  | notText
  /-- A field that no specification has. -/
  | unknownField
  | notAnObject
  deriving DecidableEq, Repr

def ProblemKind.name : ProblemKind → Text
  | unreadableFlag => "bool_parsing".toList
  | wrongFlagKind => "bool_type".toList
  | notText => "string_unicode".toList
  | unknownField => "extra_forbidden".toList
  | notAnObject => "model_type".toList

def ProblemKind.ofFlagError : FlagError → ProblemKind
  | .unreadable => unreadableFlag
  | .notText => notText
  | .wrongKind => wrongFlagKind

/-- A problem and the field that has it; a problem of the whole has an empty field. -/
structure Problem where
  field : Text
  kind : ProblemKind
  deriving DecidableEq, Repr

/-- Problems are listed by field and then by name. -/
def Problem.le (a b : Problem) : Bool :=
  if a.field = b.field then Text.le a.kind.name b.kind.name else Text.le a.field b.field

/-- The one field of a specification. -/
def flagField : Text := "include_keyword".toList

/-- What one member of a specification has to complain about. -/
def memberProblem? (name : Text) (value : Json) : Option Problem :=
  if name = flagField then
    match flagOfJson value with
    | .ok _ => none
    | .error e => some ⟨name, .ofFlagError e⟩
  else some ⟨name, .unknownField⟩

/-- The fields of a specification by their names, if all of these are texts. -/
def nameFields? : List (Decoded × Json) → Option (List (Text × Json))
  | [] => some []
  | (name, value) :: fields =>
    match name.text?, nameFields? fields with
    | some name, some fields => some ((name, value) :: fields)
    | _, _ => none

/-- The flag of a specification, which is true when it is not given, or the problems of the
specification in order. A name that is no text is the only problem there is. -/
def readSpec : Json → Except (List Problem) Bool
  | .object members =>
    -- Of a repeated field the last value counts.
    match nameFields? (Json.effective members).entries with
    | none => .error [⟨[], .notText⟩]
    | some fields =>
      match fields.filterMap fun e => memberProblem? e.1 e.2 with
      | [] =>
        match OrderedMap.lookupEntries flagField fields with
        | none => .ok true
        | some value =>
          match flagOfJson value with
          | .ok flag => .ok flag
          | .error e => .error [⟨flagField, .ofFlagError e⟩]
      | problems => .error (problems.mergeSort Problem.le)
  | _ => .error [⟨[], .notAnObject⟩]

/-- How many arrays and objects the runtime's stack lets a run open inside each other. -/
def maxLevels : Nat := 989

inductive Error
  | undecodable
  | invalidJson (path : Text)
  /-- An integer has this many digits. -/
  | tooManyDigits (count : Nat)
  /-- An array or an object stands deeper than the stack is high. -/
  | tooDeep (container : Json.Container)
  | notAnObject (path : Text)
  | invalidSpec (keyword : Decoded) (path : Text) (problems : List Problem)
  deriving DecidableEq, Repr

def Error.message : Error → Text
  | undecodable => "'utf-8' codec can't decode".toList
  | invalidJson path => "Invalid JSON in handlers file ".toList ++ path
  | tooManyDigits count =>
    "Exceeds the limit (".toList ++ Text.ofNat Json.maxDigits ++
      " digits) for integer string conversion: value has ".toList ++ Text.ofNat count ++
      " digits; use sys.set_int_max_str_digits() to increase the limit".toList
  | tooDeep container =>
    let name := match container with
      | .array => "array".toList
      | .object => "object".toList
    "maximum recursion depth exceeded while decoding a JSON ".toList ++ name ++
      " from a unicode string".toList
  | notAnObject path => "Handlers file ".toList ++ path ++ " must contain a JSON object".toList
  | invalidSpec keyword path _ =>
    "Invalid handler '".toList ++ keyword.shown ++ "' in ".toList ++ path

/-- Whether the file is refused for what it says. A text that is nested too deeply is not: it is
given up. -/
def Error.isRefusal : Error → Bool
  | tooDeep _ => false
  | _ => true

variable {σ : Type}

/-- The handlers that the members of a file specify, up to the first one with problems. -/
def readSpecs (path : Text) : List (Decoded × Json) → Except Error (List (Decoded × Handler σ))
  | [] => .ok []
  | (keyword, value) :: members =>
    match readSpec value with
    | .error problems => .error (.invalidSpec keyword path problems)
    | .ok flag => (readSpecs path members).map ((keyword, .echo flag) :: ·)

/-- Handlers by keyword, as a file binds them. -/
abbrev Handlers (σ : Type) := OrderedMap Decoded (Handler σ)

def handlersOfJson (path : Text) : Json → Except Error (Handlers σ)
  | .object members => (readSpecs path (Json.effective members).entries).map OrderedMap.ofList
  | _ => .error (.notAnObject path)

def handlersOfText (path text : Text) : Except Error (Handlers σ) :=
  match Json.ofText maxLevels text with
  | .error .malformed => .error (.invalidJson path)
  | .error (.tooManyDigits count) => .error (.tooManyDigits count)
  | .error (.tooDeep container) => .error (.tooDeep container)
  | .ok value => handlersOfJson path value

def readHandlers (path : Text) (bytes : ByteArray) : Except Error (Handlers σ) :=
  match decodeFile bytes with
  | none => .error .undecodable
  | some text => handlersOfText path text

/-- The handlers that the file at a path specifies: none when there is no such file. -/
def load (files : Files) (path : Text) : Logged (Except Error (Handlers σ)) :=
  let path := (Path.ofText path).text
  match files path with
  | some (.file bytes) =>
    match readHandlers path bytes with
    | .ok handlers => ⟨.ok handlers, [.handlersLoaded handlers.size path]⟩
    | .error e => ⟨.error e, []⟩
  | _ => ⟨.ok ∅, [.noHandlersFile path]⟩

/-- The handlers whose keywords are texts. -/
def registryOf (handlers : Handlers σ) : Registry σ :=
  handlers.filterMapKeys Decoded.text? fun h h' =>
    (Decoded.text?_eq_some_iff.1 h).trans (Decoded.text?_eq_some_iff.1 h').symm

def registryOfText (path text : Text) : Except Error (Registry σ) :=
  (handlersOfText path text).map registryOf

/-- The registry that the file at a path specifies: an empty one when there is no such file. -/
def loadRegistry (files : Files) (path : Text) : Logged (Except Error (Registry σ)) :=
  let loaded := load files path
  ⟨loaded.value.map registryOf, loaded.records⟩

end EscapeClause.HandlersFile
