import EscapeClause.Quote
import EscapeClause.SyntaxError

/-!
# The outline of escaped text

Escaped text is plain text with quoted regions and clauses: an opening brace, a keyword that
follows it at once, an argument tail that starts with white space, and a closing brace. A tail may
hold clauses of its own. The outline of a text says what it is made of, in the order in which it
is read: code points that stand for themselves, clauses that open, and clauses that close. It ends
where the text ends or where the text is refused. No registry has a say in it.

A `Reader` reads one code point at a time and knows the clauses that are still open, so that
reading a text and then another is reading both in one (`Reader.feed_append`).
-/

namespace EscapeClause

/-- An escape clause: where its opening brace stands, and its keyword. -/
structure Clause where
  brace : Nat
  keyword : Text
  deriving DecidableEq, Repr

/-- What a reader comes upon. -/
inductive Event
  | write (c : Char)
  /-- The keyword of a clause is complete. -/
  | enter (clause : Clause)
  /-- A clause closes; `depth` clauses are open around it. -/
  | leave (clause : Clause) (depth : Nat)
  deriving DecidableEq, Repr

/-- Why and where a text is refused. -/
structure Refusal where
  cause : Malformation
  position : Nat
  deriving DecidableEq, Repr

/-- The error that a refusal is in a given text. -/
def Refusal.syntaxError (r : Refusal) (text : Text) : SyntaxError :=
  .ofPosition r.cause text r.position

inductive Mode
  | plain
  /-- A quoted region that was opened at `start`. -/
  | quoted (quote : Quote) (start : Nat)
  /-- The keyword of the clause whose brace stands at `brace`; `read` is the part of it that has
  been read, last code point first. -/
  | keyword (brace : Nat) (read : Text)
  deriving DecidableEq, Repr

/-- How far escaped text has been read. -/
structure Reader where
  position : Nat
  mode : Mode
  /-- The open clauses, innermost first. -/
  clauses : List Clause
  deriving DecidableEq, Repr

namespace Reader

def start : Reader := ⟨0, .plain, []⟩

def advance (s : Reader) (mode : Mode) : Reader :=
  { s with position := s.position + 1, mode := mode }

/-- Reads a code point outside quoted regions and keywords. -/
def stepPlain (s : Reader) (c : Char) : Except Refusal (Reader × List Event) :=
  match Quote.ofOpener? c with
  | some q => .ok (s.advance (.quoted q s.position), [.write c])
  | none =>
    if c = '\x7b' then .ok (s.advance (.keyword s.position []), [])
    else if c = '\x7d' then
      match s.clauses with
      | [] => .error ⟨.unopenedClause, s.position⟩
      | clause :: outer =>
        .ok ({ s.advance .plain with clauses := outer }, [.leave clause outer.length])
    else .ok (s.advance .plain, [.write c])

/-- Reads the code point after a complete keyword. -/
def stepAfterKeyword (s : Reader) (clause : Clause) (c : Char) :
    Except Refusal (Reader × List Event) :=
  -- What ends the keyword is read as the first code point of the tail.
  match stepPlain { s with mode := .plain, clauses := clause :: s.clauses } c with
  | .error refusal => .error refusal
  | .ok (s', events) => .ok (s', .enter clause :: events)

def step (s : Reader) (c : Char) : Except Refusal (Reader × List Event) :=
  match s.mode with
  | .plain => s.stepPlain c
  | .quoted q start =>
    -- A brace in a quoted region is a code point like any other.
    .ok (s.advance (if c = q.closer then .plain else .quoted q start), [.write c])
  | .keyword brace read =>
    -- Quotes and opening braces do not end a keyword.
    if Text.isBlank c || c = '\x7d' then
      if read = [] then .error ⟨.missingKeyword, brace⟩
      else s.stepAfterKeyword ⟨brace, read.reverse⟩ c
    else .ok (s.advance (.keyword brace (c :: read)), [])

/-- Reads a text: what it comes upon, and how far it gets or what refuses the text. -/
def feed (s : Reader) : Text → List Event × Except Refusal Reader
  | [] => ([], .ok s)
  | c :: r =>
    match s.step c with
    | .error refusal => ([], .error refusal)
    | .ok (s', events) =>
      let rest := s'.feed r
      (events ++ rest.1, rest.2)

/-- Where an outermost clause begins, if `brace` begins the innermost one. -/
def outermostBrace (s : Reader) (brace : Nat) : Nat :=
  match s.clauses.getLast? with
  | none => brace
  | some clause => clause.brace

/-- What is missing when the text ends here. A brace that is the last code point of the text is
reported itself; any other clause that is never closed is reported at the outermost one. -/
def missing? (s : Reader) : Option Refusal :=
  match s.mode with
  | .quoted _ start => some ⟨.unterminatedQuote, start⟩
  -- The brace is the last code point of the text.
  | .keyword brace [] => some ⟨.unterminatedClause, brace⟩
  | .keyword brace (_ :: _) => some ⟨.unterminatedClause, s.outermostBrace brace⟩
  | .plain => s.clauses.getLast?.map fun clause => ⟨.unterminatedClause, clause.brace⟩

@[simp] theorem feed_nil (s : Reader) : s.feed [] = ([], .ok s) := rfl

theorem feed_cons_of_error {s : Reader} {c : Char} {refusal : Refusal}
    (h : s.step c = .error refusal) (r : Text) : s.feed (c :: r) = ([], .error refusal) := by
  simp [feed, h]

theorem feed_cons_of_ok {s s' : Reader} {c : Char} {events : List Event}
    (h : s.step c = .ok (s', events)) (r : Text) :
    s.feed (c :: r) = (events ++ (s'.feed r).1, (s'.feed r).2) := by
  simp [feed, h]

/-- A text that is refused is refused whatever follows it. -/
theorem feed_append_of_error {s : Reader} {t : Text} {refusal : Refusal}
    (h : (s.feed t).2 = .error refusal) (u : Text) : s.feed (t ++ u) = s.feed t := by
  induction t generalizing s with
  | nil => simp at h
  | cons c r ih =>
    rw [List.cons_append]
    -- A refused text is refused where it was: the reader never gets to what follows.
    cases hstep : s.step c with
    | error e => rw [feed_cons_of_error hstep, feed_cons_of_error hstep]
    | ok p =>
      rw [feed_cons_of_ok hstep] at h
      rw [feed_cons_of_ok hstep, feed_cons_of_ok hstep, ih h]

/-- Reading a text and then another is reading both in one. -/
theorem feed_append {s s' : Reader} {t : Text} (h : (s.feed t).2 = .ok s') (u : Text) :
    s.feed (t ++ u) = ((s.feed t).1 ++ (s'.feed u).1, (s'.feed u).2) := by
  induction t generalizing s with
  | nil =>
    simp only [feed_nil, Except.ok.injEq] at h
    simp [h]
  | cons c r ih =>
    rw [List.cons_append]
    cases hstep : s.step c with
    | error e =>
      rw [feed_cons_of_error hstep] at h
      cases h
    | ok p =>
      rw [feed_cons_of_ok hstep] at h
      rw [feed_cons_of_ok hstep, feed_cons_of_ok hstep, ih h]
      simp

end Reader

structure Outline where
  /-- What a reader comes upon, in order. -/
  events : List Event
  /-- Why and where the text is refused, if it is. -/
  refusal : Option Refusal
  deriving DecidableEq, Repr

def Outline.ofText (t : Text) : Outline :=
  let read := Reader.start.feed t
  ⟨read.1, match read.2 with
    | .error refusal => some refusal
    | .ok s => s.missing?⟩

end EscapeClause
