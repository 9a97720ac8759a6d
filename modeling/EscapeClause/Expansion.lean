import EscapeClause.Outline
import EscapeClause.Registry

/-!
# Expanding escape clauses

Expanding a text replaces every clause by the answer of the handler registered for its keyword,
inner clauses before outer ones and left before right. It goes along the outline of the text: a
`Draft` holds what the innermost open clause has written so far and what the levels around it had
written when it began. So no answer of a handler is read again, and the calls are those of the
clauses that the outline closes, up to one whose keyword has no handler.
-/

namespace EscapeClause

/-- One call of a handler. -/
structure Dispatch where
  clause : Clause
  /-- The number of clauses open around the clause. -/
  depth : Nat
  /-- The argument tail that the handler is given. -/
  args : Text
  replacement : Text
  deriving DecidableEq, Repr

/-- A text being written. -/
structure Draft (σ : Type) where
  /-- What the innermost level has written, last code point first. -/
  written : Text
  /-- What the levels around it had written, innermost first, each last code point first. -/
  outer : List Text
  /-- The calls of handlers, last one first. -/
  log : List Dispatch
  state : σ

/-- What ends a draft early. -/
inductive Fault
  | unknownKeyword (clause : Clause)
  /-- A clause closes whose keyword is bound to a value that cannot answer. -/
  | inert (label : Text)
  deriving DecidableEq, Repr

namespace Draft

variable {σ : Type}

def start (state : σ) : Draft σ := ⟨[], [], [], state⟩

/-- The text that the innermost level has written. -/
def text (d : Draft σ) : Text := d.written.reverse

def args (d : Draft σ) : Text := Text.strip d.text

/-- The draft after the call of a handler for a clause, whose answer goes to the level around the
clause. -/
def splice (d : Draft σ) (clause : Clause) (depth : Nat) (replacement : Text) (state : σ) :
    Draft σ :=
  { written := replacement.reverse ++ d.outer.headD []
    outer := d.outer.tail
    log := ⟨clause, depth, d.args, replacement⟩ :: d.log
    state := state }

/-- Goes along one event; a draft that ends early is returned with its fault. -/
def apply (handlers : Registry σ) (d : Draft σ) : Event → Except (Fault × Draft σ) (Draft σ)
  | .write c => .ok { d with written := c :: d.written }
  | .enter _ => .ok { d with written := [], outer := d.written :: d.outer }
  | .leave clause depth =>
    match handlers.get? clause.keyword with
    -- The draft goes with its fault: the calls before it have been made.
    | none => .error (.unknownKeyword clause, d)
    | some handler =>
      match handler.process clause.keyword d.args d.state with
      | none => .error (.inert handler.label, d)
      | some (replacement, state) => .ok (d.splice clause depth replacement state)

def applyAll (handlers : Registry σ) (d : Draft σ) (events : List Event) :
    Except (Fault × Draft σ) (Draft σ) :=
  events.foldlM (apply handlers) d

@[simp] theorem applyAll_nil (handlers : Registry σ) (d : Draft σ) :
    d.applyAll handlers [] = .ok d := rfl

theorem applyAll_cons (handlers : Registry σ) (d : Draft σ) (e : Event) (es : List Event) :
    d.applyAll handlers (e :: es) =
      (d.apply handlers e).bind fun d' => d'.applyAll handlers es := rfl

theorem applyAll_append (handlers : Registry σ) (d : Draft σ) (es fs : List Event) :
    d.applyAll handlers (es ++ fs) =
      (d.applyAll handlers es).bind fun d' => d'.applyAll handlers fs := by
  induction es generalizing d with
  | nil => rfl
  | cons e es ih =>
    rw [List.cons_append, applyAll_cons, applyAll_cons]
    cases d.apply handlers e with
    | error e => rfl
    | ok d' => exact ih d'

end Draft

inductive Failure
  | malformed (error : SyntaxError)
  | inert (label : Text)
  deriving DecidableEq, Repr

/-- The failure that a fault is in a given text: an unknown keyword is reported where it starts. -/
def Fault.failure (text : Text) : Fault → Failure
  | unknownKeyword clause => .malformed (.ofPosition .unknownKeyword text (clause.brace + 1))
  | inert label => .inert label

structure Expansion (σ : Type) where
  result : Except Failure Text
  /-- The calls of handlers in order, also those made before a failure. -/
  dispatches : List Dispatch
  /-- The state in which the calls left the handlers. -/
  state : σ

/-- Replaces every clause of a text by the answer of its handler. -/
def expand {σ : Type} (handlers : Registry σ) (text : Text) (state : σ) : Expansion σ :=
  let outline := Outline.ofText text
  match (Draft.start state).applyAll handlers outline.events with
  -- A fault on the way comes before whatever the outline says of the rest of the text.
  | .error (fault, d) => ⟨.error (fault.failure text), d.log.reverse, d.state⟩
  | .ok d =>
    let result : Except Failure Text := match outline.refusal with
      | some refusal => .error (.malformed (refusal.syntaxError text))
      | none => .ok d.text
    ⟨result, d.log.reverse, d.state⟩

def expandStandard (text : Text) : Expansion Unit := expand Registry.standard text ()

end EscapeClause
