import EscapeClause.Record

/-!
# Parsing with a result

`expand` fails on a malformed text. `parse` reports the refusal as a result instead, and as a
record. A parser is made for a registry in which every value can answer (`checkUsable`).
-/

namespace EscapeClause

/-- A registry has a value that cannot answer. -/
structure UnusableHandler where
  keyword : Text
  deriving DecidableEq, Repr

def UnusableHandler.message (e : UnusableHandler) : Text :=
  "Handler for '".toList ++ e.keyword ++ "' has no process() method".toList

def checkUsable {σ : Type} (handlers : Registry σ) : Except UnusableHandler Unit :=
  match handlers.firstInert? with
  | some keyword => .error ⟨keyword⟩
  | none => .ok ()

inductive ParseResult
  | expanded (text : Text)
  | refused (message : Text)
  deriving DecidableEq, Repr

namespace ParseResult

def text : ParseResult → Text
  | expanded text => text
  | refused _ => []

def error? : ParseResult → Option Text
  | expanded _ => none
  | refused message => some message

def succeeded : ParseResult → Bool
  | expanded _ => true
  | refused _ => false

end ParseResult

/-- A parse with its records and the state in which it left the handlers. -/
structure Parsing (σ : Type) where
  /-- The result, or the label of a value that was called and cannot answer. -/
  result : Except Text ParseResult
  records : List Record
  state : σ

/-- Expands a text and reports a malformation as a result. -/
def parse {σ : Type} (handlers : Registry σ) (text : Text) (state : σ) : Parsing σ :=
  let expansion := expand handlers text state
  let calls := expansion.dispatches.map Record.dispatched
  match expansion.result with
  | .ok expanded => ⟨.ok (.expanded expanded), calls, expansion.state⟩
  | .error (.malformed e) =>
    ⟨.ok (.refused e.message), calls ++ [.refused e.message], expansion.state⟩
  -- A registry that a parser has accepted never comes here.
  | .error (.inert label) => ⟨.error label, calls, expansion.state⟩

end EscapeClause
