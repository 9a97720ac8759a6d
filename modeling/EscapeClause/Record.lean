import EscapeClause.Expansion
import EscapeClause.Text.Quoted

/-!
# Log records

What the library tells about its work: the calls of handlers, refused texts, handlers files and
configurations, and rendered help. A computation returns its records beside its value
(`Logged`); whether they are shown is the choice of whoever runs it (`visible`).
-/

namespace EscapeClause

inductive Record
  /-- A clause was closed and its handler called. -/
  | dispatched (call : Dispatch)
  /-- A text was refused with this message. -/
  | refused (message : Text)
  | noHandlersFile (path : Text)
  | handlersLoaded (count : Nat) (path : Text)
  | configurationFailed (message : Text)
  | helpRendered (command : Text)
  deriving DecidableEq, Repr

namespace Record

def message : Record → Text
  | dispatched call =>
    "Escape '".toList ++ call.clause.keyword ++ "' at ".toList ++ Text.ofNat call.clause.brace ++
      " (depth ".toList ++ Text.ofNat call.depth ++ ") -> ".toList ++ Text.quoted call.replacement
  | refused message => "Error in parse: ".toList ++ message
  | noHandlersFile path => "No handlers file at ".toList ++ path
  | handlersLoaded count path =>
    "Loaded ".toList ++ Text.ofNat count ++ " handler(s) from ".toList ++ path
  | configurationFailed message => "Handler configuration failed: ".toList ++ message
  | helpRendered command => "Rendering help for ".toList ++ command

/-- A record as a log shows it: every record has the level of a debugging message. -/
def line (r : Record) : Text := "DEBUG ".toList ++ r.message

/-- The lines that a log shows of these records: none when it is to be quiet. -/
def visible (quiet : Bool) (records : List Record) : List Text :=
  if quiet then [] else records.map line

end Record

/-- A value together with the records of the work that made it. -/
structure Logged (α : Type) where
  value : α
  records : List Record

end EscapeClause
