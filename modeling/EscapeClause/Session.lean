import EscapeClause.HandlersFile
import EscapeClause.Parse

/-!
# Sessions

A session works on named registries and named parsers, one step after the other. A name stands for
a registry by reference: a parser sees later changes of the registry that it was made for, while
building or loading a name again makes a new registry and leaves the old one to the parsers that
have it. Scripts count their answers wherever their handlers are registered. A step that fails
changes no registry and no name, and the session goes on.
-/

namespace EscapeClause

/-! ### Handlers for trials

Four kinds of supplied values, enough to see what a scan calls, with which arguments, how often
and in which order. The state they share is a `Tally`: how often each numbered script has
answered. -/

structure Tally where
  counts : OrderedMap Nat Nat
  deriving Inhabited

namespace Tally

def zero : Tally := ⟨∅⟩

def count (t : Tally) (script : Nat) : Nat := (t.counts.get? script).getD 0

def bump (t : Tally) (script : Nat) : Tally := ⟨t.counts.insert script (t.count script + 1)⟩

end Tally

/-- A handler as a step writes it down. -/
inductive TrialHandler
  | echo (includeKeyword : Bool)
  | scalarFunction
  /-- Shows keyword and arguments between angle brackets. -/
  | bracketing
  /-- Answers the same text always. -/
  | constant (text : Text)
  /-- Answers the texts in turn, and the last one from then on. -/
  | script (texts : List Text)
  | inert
  deriving Repr

/-- The answer of a script that has already answered `done` times. -/
def scriptAnswer (texts : List Text) (done : Nat) : Text :=
  texts.getD (min done (texts.length - 1)) []

/-- The handler that was written down; a script counts its answers under the given number. -/
def TrialHandler.handler (script : Nat) : TrialHandler → Handler Tally
  | echo includeKeyword => .echo includeKeyword
  | scalarFunction => .scalarFunction
  | bracketing =>
    .custom "Show".toList fun keyword args tally =>
      ('<' :: keyword ++ '|' :: args ++ ['>'], tally)
  | constant text => .custom "Const".toList fun _ _ tally => (text, tally)
  | .script texts =>
    .custom "Script".toList fun _ _ tally =>
      (scriptAnswer texts (tally.count script), tally.bump script)
  | inert => .inert "Bad".toList

/-- The registry that was written down. The script at place `i` counts under `first + i`, so
that no two scripts share a count. -/
def Registry.ofTrials (first : Nat) (trials : List (Text × TrialHandler)) : Registry Tally :=
  OrderedMap.ofList (trials.mapIdx fun i e => (e.1, e.2.handler (first + i)))

/-! ### Steps -/

/-- A registry that already exists: the standard one, or the one made at this place in the row of
registries. -/
inductive RegistryRef
  | standard
  | made (index : Nat)
  deriving DecidableEq, Repr

/-- The further handlers of a registry to build: nothing, a named registry, or handlers written
down. -/
inductive ExtraSource
  | nothing
  | named (name : Text)
  | specified (trials : List (Text × TrialHandler))

inductive Step
  | build (name : Text) (echoed dropped : List Text) (defaults : Bool) (extra : ExtraSource)
  | set (name keyword : Text) (trial : TrialHandler)
  | erase (name keyword : Text)
  | load (name path : Text) (files : Files)
  /-- Try to bind a keyword of the standard registry. -/
  | setStandard
  | showStandard
  /-- Make a parser for a named registry, or for the standard one. -/
  | makeParser (name : Text) (registry : Option Text)
  | parse (parser text : Text)
  | split (parser text : Text)
  | expand (name text : Text)
  /-- Make the log quiet, or let it speak. -/
  | setQuiet (quiet : Bool)

inductive StepResult
  /-- A registry: every keyword with the way its handler is shown. -/
  | shown (entries : List (Text × Text))
  | parsed (result : ParseResult)
  | fields (fields : List Text)
  | text (text : Text)
  | nothing

inductive StepError
  /-- There is no such registry, parser or keyword. -/
  | missing (name : Text)
  | unusable (error : UnusableHandler)
  | readOnly
  | file (error : HandlersFile.Error)
  | failed (failure : Failure)

/-- The wording of an attempt on the standard registry. -/
def readOnlyMessage : Text := "'mappingproxy' object does not support item assignment".toList

/-- The wording of a call of a value that cannot answer. -/
def inertMessage (label : Text) : Text :=
  ['\''] ++ label ++ "' object has no attribute 'process'".toList

structure Session where
  registries : List (Registry Tally) := []
  /-- The registry that each name stands for. -/
  names : OrderedMap Text Nat := ∅
  parsers : OrderedMap Text RegistryRef := ∅
  tally : Tally := .zero
  /-- The number of scripts written down so far. -/
  scripts : Nat := 0
  quiet : Bool := false

namespace Session

def registry (s : Session) : RegistryRef → Registry Tally
  | .standard => Registry.standard
  | .made index => s.registries.getD index ∅

def index (s : Session) (name : Text) : Except StepError Nat :=
  match s.names.get? name with
  | some index => .ok index
  | none => .error (.missing name)

def parserRef (s : Session) (parser : Text) : Except StepError RegistryRef :=
  match s.parsers.get? parser with
  | some ref => .ok ref
  | none => .error (.missing parser)

/-- The session in which a name stands for a new registry. -/
def make (s : Session) (name : Text) (registry : Registry Tally) : Session :=
  { s with
    registries := s.registries ++ [registry]
    names := s.names.insert name s.registries.length }

/-- The session in which a registry is changed in its place. -/
def update (s : Session) (index : Nat) (registry : Registry Tally) : Session :=
  { s with registries := s.registries.set index registry }

/-- The handlers of a source, and the session in which their scripts are counted. -/
def extraRegistry (s : Session) : ExtraSource → Except StepError (Registry Tally × Session)
  | .nothing => .ok (∅, s)
  | .named name => (s.index name).map fun i => (s.registry (.made i), s)
  | .specified trials =>
    .ok (Registry.ofTrials s.scripts trials, { s with scripts := s.scripts + trials.length })

/-- What a step comes to: its answer, its records, and the session after it. -/
structure Outcome where
  result : Except StepError StepResult
  records : List Record
  session : Session

/-- A step that fails leaves the session as it is. -/
def fail (s : Session) (e : StepError) : Outcome := ⟨.error e, [], s⟩

def answer (s : Session) (r : StepResult) : Outcome := ⟨.ok r, [], s⟩

def showing (s : Session) (registry : Registry Tally) : Outcome := s.answer (.shown registry.shown)

def parseWith (s : Session) (ref : RegistryRef) (text : Text) : Outcome :=
  let parsing := EscapeClause.parse (s.registry ref) text s.tally
  let result : Except StepError StepResult := match parsing.result with
    | .ok parsed => .ok (.parsed parsed)
    | .error label => .error (.failed (.inert label))
  ⟨result, parsing.records, { s with tally := parsing.state }⟩

def expandWith (s : Session) (ref : RegistryRef) (text : Text) : Outcome :=
  let expansion := EscapeClause.expand (s.registry ref) text s.tally
  let result : Except StepError StepResult := match expansion.result with
    | .ok expanded => .ok (.text expanded)
    | .error failure => .error (.failed failure)
  ⟨result, expansion.dispatches.map .dispatched, { s with tally := expansion.state }⟩

def run (s : Session) : Step → Outcome
  | .build name echoed dropped defaults extra =>
    match s.extraRegistry extra with
    | .error e => s.fail e
    | .ok (extra, s) =>
      let registry := Registry.assemble ⟨defaults, extra, echoed, dropped⟩
      (s.make name registry).showing registry
  | .set name keyword trial =>
    match s.index name with
    | .error e => s.fail e
    | .ok i =>
      let registry := (s.registry (.made i)).insert keyword (trial.handler s.scripts)
      ({ s with scripts := s.scripts + 1 }.update i registry).showing registry
  | .erase name keyword =>
    match s.index name with
    | .error e => s.fail e
    | .ok i =>
      let registry := s.registry (.made i)
      if registry.contains keyword then
        (s.update i (registry.erase keyword)).showing (registry.erase keyword)
      else s.fail (.missing keyword)
  | .load name path files =>
    let loaded := HandlersFile.loadRegistry files path
    match loaded.value with
    | .error e => ⟨.error (.file e), loaded.records, s⟩
    | .ok registry => { (s.make name registry).showing registry with records := loaded.records }
  | .setStandard => s.fail .readOnly
  | .showStandard => s.showing Registry.standard
  | .makeParser name registry =>
    match registry.elim (.ok .standard) fun r => (s.index r).map .made with
    | .error e => s.fail e
    | .ok ref =>
      match checkUsable (s.registry ref) with
      | .error e => s.fail (.unusable e)
      | .ok () => { s with parsers := s.parsers.insert name ref }.showing (s.registry ref)
  | .parse parser text =>
    match s.parserRef parser with
    | .error e => s.fail e
    | .ok ref => s.parseWith ref text
  | .split parser text =>
    match s.parserRef parser with
    | .error e => s.fail e
    | .ok _ => s.answer (.fields (EscapeClause.fields text))
  | .expand name text =>
    match s.index name with
    | .error e => s.fail e
    | .ok i => s.expandWith (.made i) text
  | .setQuiet quiet => { s with quiet := quiet }.answer .nothing

/-- An answer of a session as it is seen: what the step came to, and the lines of its log. -/
structure Answer where
  result : Except StepError StepResult
  log : List Text

/-- Does steps one after the other. A record is shown when the log was not quiet at its step. -/
def runAll (s : Session) : List Step → List Answer
  | [] => []
  | step :: steps =>
    let outcome := s.run step
    ⟨outcome.result, Record.visible s.quiet outcome.records⟩ :: outcome.session.runAll steps

end Session

end EscapeClause
