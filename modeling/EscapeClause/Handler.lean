import EscapeClause.ScalarCall

/-!
# Handlers

A handler answers a closed clause: it is given the keyword and the trimmed argument tail, in which
inner clauses are already replaced, and returns the text that takes the place of the clause. Two
kinds belong to the library: a handler that echoes the clause, with its keyword or without it, and
the one that writes scalar function calls in the dialect of SQLite. Any other function of keyword,
arguments and a state `σ` may be supplied, so that a handler may answer differently from one call
to the next. An inert value can be registered like a handler and cannot answer.
-/

namespace EscapeClause

/-- What can be registered for a keyword; `σ` is the state that supplied handlers share. -/
inductive Handler (σ : Type)
  /-- Leaves the clause as it is, with or without its keyword. -/
  | echo (includeKeyword : Bool)
  /-- Writes a scalar function call in the dialect of SQLite. -/
  | scalarFunction
  /-- Answers as its supplier says; shown by `label`. -/
  | custom (label : Text) (answer : Text → Text → σ → Text × σ)
  /-- Cannot answer; shown by `label`. -/
  | inert (label : Text)

/-- The clause itself, or its arguments alone. -/
def echoClause (includeKeyword : Bool) (keyword args : Text) : Text :=
  if !includeKeyword then args
  else if args = [] then keyword
  else keyword ++ ' ' :: args

namespace Handler

variable {σ : Type}

/-- The replacement of a clause and the state after the call; `none` of an inert value. -/
def process : Handler σ → Text → Text → σ → Option (Text × σ)
  | echo includeKeyword, keyword, args, state =>
    some (echoClause includeKeyword keyword args, state)
  | scalarFunction, _, args, state => some (sqliteCall args, state)
  | custom _ answer, keyword, args, state => some (answer keyword args state)
  | inert _, _, _, _ => none

def label : Handler σ → Text
  | echo true => "PassthruEscapeHandler(include_keyword=True)".toList
  | echo false => "PassthruEscapeHandler(include_keyword=False)".toList
  | scalarFunction => "FunctionEscapeHandler()".toList
  | custom label _ => label
  | inert label => label

def isUsable : Handler σ → Bool
  | inert _ => false
  | _ => true

theorem process_isSome (h : Handler σ) (keyword args : Text) (state : σ) :
    (h.process keyword args state).isSome = h.isUsable := by
  cases h <;> rfl

end Handler

end EscapeClause
