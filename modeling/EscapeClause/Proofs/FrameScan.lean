import EscapeClause.Proofs.Drafts
import EscapeClause.Proofs.Reading

/-!
# A scan with a stack of frames

`expand` first reads the outline of a text and then writes along it. Here is the expansion in one
pass: a `Scan` keeps a stack with a frame for every clause whose closing brace has not been reached
and one at the bottom for the text around all clauses. A round (`Scan.round`) deals with the code
point where the scan stands, and jumps over quoted regions and keywords. Nothing in its definition
makes sure that the frame is there which it looks at (`Round.noFrame`).

The shape of a stack is `Scan.Stacked`, which has a case for each way to build one; `Scan.Sound`
says what it means for the frames and the text (`Scan.Stacked.sound`). What a round can do with
such a stack is listed once (`Scan.turn_round`), and a round keeps the shape (`Scan.Stacked.next`).
-/

namespace EscapeClause

/-- A clause whose closing brace has not been reached, or the text around all clauses. -/
structure Frame where
  /-- The index of the opening brace; -1 for the text around all clauses. -/
  brace : Int
  /-- The keyword; none for the text around all clauses. -/
  keyword : Text
  /-- What it has written so far, last code point first. -/
  written : Text

def Frame.clause (f : Frame) : Clause := ⟨f.brace.toNat, f.keyword⟩

/-- A text being expanded in one pass. -/
structure Scan (σ : Type) where
  position : Nat
  /-- The stack, innermost frame first. -/
  frames : List Frame
  /-- The calls of handlers, last one first. -/
  log : List Dispatch
  state : σ

/-- What comes of one round. -/
inductive Round (σ : Type)
  | next (s : Scan σ)
  | ended (e : Expansion σ)
  /-- A frame was to be looked at that is not there. -/
  | noFrame

/-- The frame of a clause of the text whose keyword ends at `position` or before. -/
structure Frame.Marks (text : Text) (position : Nat) (f : Frame) : Prop where
  keyword_ne_nil : f.keyword ≠ []
  keyword_chars : ∀ c ∈ f.keyword, Text.isBlank c = false ∧ c ≠ '\x7d'
  /-- The brace and behind it the keyword stand in the text. -/
  stands : ∃ before after, text = before ++ '\x7b' :: (f.keyword ++ after) ∧
    f.brace = before.length
  read : f.brace + 1 + f.keyword.length ≤ position

variable {σ : Type}

namespace Scan

/-! ### One round -/

def start (state : σ) : Scan σ := ⟨0, [⟨-1, [], []⟩], [], state⟩

def fail (s : Scan σ) (failure : Failure) : Round σ :=
  .ended ⟨.error failure, s.log.reverse, s.state⟩

def refuse (s : Scan σ) (text : Text) (cause : Malformation) (position : Int) : Round σ :=
  s.fail (.malformed (.ofPosition cause text position))

def write (s : Scan σ) (t : Text) : Round σ :=
  match s.frames with
  | [] => .noFrame
  | top :: below =>
    .next { s with
      position := s.position + t.length
      frames := { top with written := t.reverse ++ top.written } :: below }

/-- Jumps over the quoted region that begins here; `rest` follows its opener. -/
def passQuoted (s : Scan σ) (text : Text) (q : Quote) (rest : Text) : Round σ :=
  match rest.dropWhile (· != q.closer) with
  | [] => s.refuse text .unterminatedQuote s.position
  | closer :: _ => s.write (q.opener :: rest.takeWhile (· != q.closer) ++ [closer])

/-- Pushes the frame of the clause that begins here and jumps over its keyword; `rest` follows the
brace. -/
def openClause (s : Scan σ) (text rest : Text) : Round σ :=
  let keyword := rest.takeWhile isKeywordChar
  if keyword = [] then
    s.refuse text (if rest = [] then .unterminatedClause else .missingKeyword) s.position
  else
    .next { s with
      position := s.position + keyword.length + 1
      frames := ⟨s.position, keyword, []⟩ :: s.frames }

/-- Pops the innermost frame and hands the answer of its handler to the one below. -/
def closeClause (handlers : Registry σ) (text : Text) (s : Scan σ) : Round σ :=
  match s.frames with
  | [] => .noFrame
  | [_] => s.refuse text .unopenedClause s.position
  | closed :: parent :: below =>
    match handlers.get? closed.keyword with
    | none => s.refuse text .unknownKeyword (closed.brace + 1)
    | some handler =>
      let args := Text.strip closed.written.reverse
      match handler.process closed.keyword args s.state with
      | none => s.fail (.inert handler.label)
      | some (replacement, state) =>
        .next {
          position := s.position + 1
          frames := { parent with written := replacement.reverse ++ parent.written } :: below
          log := ⟨closed.clause, below.length, args, replacement⟩ :: s.log
          state := state }

def finish (text : Text) (s : Scan σ) : Round σ :=
  match s.frames.reverse with
  | [] => .noFrame
  | [bottom] => .ended ⟨.ok bottom.written.reverse, s.log.reverse, s.state⟩
  -- Of the clauses that are open the outermost one is reported.
  | _ :: opened :: _ => s.refuse text .unterminatedClause opened.brace

/-- Deals with the code point where the scan stands. -/
def round (handlers : Registry σ) (text : Text) (s : Scan σ) : Round σ :=
  match text.drop s.position with
  | [] => s.finish text
  | c :: rest =>
    match Quote.ofOpener? c with
    | some q => s.passQuoted text q rest
    | none =>
      if c = '\x7b' then s.openClause text rest
      else if c = '\x7d' then s.closeClause handlers text
      else s.write [c]

/-- The scans with which a round can begin. -/
inductive Reached (handlers : Registry σ) (text : Text) (state : σ) : Scan σ → Prop
  | start : Reached handlers text state (start state)
  | next {s s' : Scan σ} (h : Reached handlers text state s)
      (hround : s.round handlers text = .next s') : Reached handlers text state s'

/-! ### The shape of the stack -/

/-- The frames of a scan that stands at `position`. -/
inductive Stacked (text : Text) : Nat → List Frame → Prop
  | bottom {position : Nat} {written : Text} : Stacked text position [⟨-1, [], written⟩]
  | clause {position : Nat} {before keyword after written : Text} {frames : List Frame}
      (h : Stacked text before.length frames)
      (htext : text = before ++ '\x7b' :: (keyword ++ after)) (hkeyword : keyword ≠ [])
      (hchars : ∀ c ∈ keyword, isKeywordChar c = true)
      (hread : before.length + 1 + keyword.length ≤ position) :
      Stacked text position (⟨before.length, keyword, written⟩ :: frames)

namespace Stacked

variable {text : Text} {position : Nat} {f : Frame} {frames : List Frame}

theorem mono {position' : Nat} (h : Stacked text position frames) (hle : position ≤ position') :
    Stacked text position' frames := by
  cases h with
  | bottom => exact .bottom
  | clause h htext hkeyword hchars hread =>
    exact .clause h htext hkeyword hchars (Nat.le_trans hread hle)

/-- A frame may write what it likes. -/
theorem write (h : Stacked text position (f :: frames)) (t : Text) :
    Stacked text position ({ f with written := t } :: frames) := by
  cases h with
  | bottom => exact .bottom
  | clause h htext hkeyword hchars hread => exact .clause h htext hkeyword hchars hread

theorem ne_nil (h : Stacked text position frames) : frames ≠ [] := by
  cases h <;> exact List.cons_ne_nil _ _

/-- Above another frame there is only the frame of a clause. -/
theorem pop {g : Frame} (h : Stacked text position (f :: g :: frames)) :
    f.brace = f.clause.brace ∧ Stacked text position (g :: frames) := by
  cases h with
  | clause h htext hkeyword hchars hread => exact ⟨rfl, h.mono (by omega)⟩

/-- The frame next to the bottom is that of the outermost clause. -/
theorem reverse_eq {g : Frame} (h : Stacked text position (f :: g :: frames)) :
    ∃ bottom opened inner, (f :: g :: frames).reverse = bottom :: opened :: inner ∧
      opened.brace = opened.clause.brace ∧
      ((f :: g :: frames).dropLast.map Frame.clause).getLast? = some opened.clause := by
  induction frames generalizing f g with
  | nil => exact ⟨g, f, [], rfl, h.pop.1, rfl⟩
  | cons e frames ih =>
    -- One more frame on the top changes nothing at the bottom of the stack.
    obtain ⟨bottom, opened, inner, hreverse, hbrace, hlast⟩ := ih h.pop.2
    refine ⟨bottom, opened, inner ++ [f], ?_, hbrace, ?_⟩
    · rw [List.reverse_cons, hreverse, List.cons_append, List.cons_append]
    · rw [List.dropLast_cons_of_ne_nil (List.cons_ne_nil _ _), List.map_cons, List.getLast?_cons,
        hlast, Option.getD_some]

end Stacked

/-- The stack is in order. -/
structure Sound (text : Text) (s : Scan σ) : Prop where
  position_le : s.position ≤ text.length
  /-- There is a bottom, which is no clause. -/
  bottom : ∃ f, s.frames.getLast? = some f ∧ f.brace = -1 ∧ f.keyword = []
  /-- All above it are clauses. -/
  marks : ∀ f ∈ s.frames.dropLast, f.Marks text s.position
  increasing : s.frames.Pairwise fun f g : Frame => g.brace < f.brace
  /-- A brace stands behind the keywords of the frames below. -/
  apart : s.frames.Pairwise fun f g : Frame => g.brace + 1 + g.keyword.length ≤ f.brace

section Sound

variable {text : Text} {position : Nat} {frames : List Frame}

theorem Stacked.end_le (h : Stacked text position frames) :
    ∀ f ∈ frames, f.brace + 1 + f.keyword.length ≤ position := by
  induction h with
  | bottom => simp
  | @clause position before keyword after written frames h htext hkeyword hchars hread ih =>
    refine List.forall_mem_cons.2 ⟨?_, fun f hf => ?_⟩
    · show (before.length : Int) + 1 + keyword.length ≤ position
      omega
    · have := ih f hf
      omega

theorem Stacked.exists_bottom (h : Stacked text position frames) :
    ∃ f, frames.getLast? = some f ∧ f.brace = -1 ∧ f.keyword = [] := by
  induction h with
  | bottom => exact ⟨_, rfl, rfl, rfl⟩
  | clause h htext hkeyword hchars hread ih =>
    obtain ⟨f, hlast, hf⟩ := ih
    refine ⟨f, ?_, hf⟩
    rw [List.getLast?_cons, hlast, Option.getD_some]

theorem Stacked.marks (h : Stacked text position frames) :
    ∀ f ∈ frames.dropLast, f.Marks text position := by
  induction h with
  | bottom => exact List.forall_mem_nil _
  | @clause position before keyword after written frames h htext hkeyword hchars hread ih =>
    rw [List.dropLast_cons_of_ne_nil h.ne_nil]
    refine List.forall_mem_cons.2 ⟨?_, fun f hf => ?_⟩
    · refine ⟨hkeyword, fun c hc => isKeywordChar_iff.1 (hchars c hc), ⟨before, after, htext, rfl⟩,
        ?_⟩
      show (before.length : Int) + 1 + keyword.length ≤ position
      omega
    · -- A frame further down was in order at a place before this one.
      have hmarks := ih f hf
      have := hmarks.read
      exact { hmarks with read := by omega }

theorem Stacked.apart (h : Stacked text position frames) :
    frames.Pairwise fun f g : Frame => g.brace + 1 + g.keyword.length ≤ f.brace := by
  induction h with
  | bottom => exact List.pairwise_singleton _ _
  | clause h htext hkeyword hchars hread ih => exact List.pairwise_cons.2 ⟨h.end_le, ih⟩

theorem Stacked.sound {s : Scan σ} (h : Stacked text s.position s.frames)
    (hle : s.position ≤ text.length) : Sound text s where
  position_le := hle
  bottom := h.exists_bottom
  marks := h.marks
  increasing := h.apart.imp fun hfg => by omega
  apart := h.apart

end Sound

def openClauses (frames : List Frame) : List Clause := frames.dropLast.map Frame.clause

/-- What a frame has written does not show in its clause. -/
theorem openClauses_write (f : Frame) (frames : List Frame) (t : Text) :
    openClauses ({ f with written := t } :: frames) = openClauses (f :: frames) := by
  cases frames <;> rfl

theorem openClauses_cons (f : Frame) {frames : List Frame} (h : frames ≠ []) :
    openClauses (f :: frames) = f.clause :: openClauses frames := by
  rw [openClauses, List.dropLast_cons_of_ne_nil h, List.map_cons]
  rfl

/-! ### What a round can do -/

/-- What a round does. -/
inductive Turn (handlers : Registry σ) (text : Text) : Scan σ → Round σ → Prop
  | plain {p : Nat} {top : Frame} {below : List Frame} {log : List Dispatch} {state : σ} {c : Char}
      {rest : Text} (hrest : text.drop p = c :: rest) (hc : isPlain c = true) :
      Turn handlers text ⟨p, top :: below, log, state⟩
        (.next ⟨p + 1, { top with written := c :: top.written } :: below, log, state⟩)
  | quoted {p : Nat} {top : Frame} {below : List Frame} {log : List Dispatch} {state : σ}
      {q : Quote} {body rest : Text}
      (hrest : text.drop p = q.opener :: (body ++ q.closer :: rest)) (hbody : q.closer ∉ body) :
      Turn handlers text ⟨p, top :: below, log, state⟩
        (.next ⟨p + (body.length + 2),
          { top with written := (q.opener :: body ++ [q.closer]).reverse ++ top.written } :: below,
          log, state⟩)
  | unterminatedQuote {s : Scan σ} {q : Quote} {body : Text}
      (hrest : text.drop s.position = q.opener :: body) (hbody : q.closer ∉ body) :
      Turn handlers text s (s.refuse text .unterminatedQuote s.position)
  | opened {p : Nat} {frames : List Frame} {log : List Dispatch} {state : σ} {keyword rest : Text}
      (hrest : text.drop p = '\x7b' :: (keyword ++ rest)) (hkeyword : keyword ≠ [])
      (hchars : ∀ c ∈ keyword, isKeywordChar c = true)
      (hend : ∀ c ∈ rest.head?, isKeywordChar c = false) :
      Turn handlers text ⟨p, frames, log, state⟩
        (.next ⟨p + (keyword.length + 1), ⟨p, keyword, []⟩ :: frames, log, state⟩)
  | lastBrace {s : Scan σ} (hrest : text.drop s.position = ['\x7b']) :
      Turn handlers text s (s.refuse text .unterminatedClause s.position)
  /-- No keyword follows an opening brace. -/
  | missingKeyword {s : Scan σ} {c : Char} {rest : Text}
      (hrest : text.drop s.position = '\x7b' :: c :: rest) (hc : isKeywordChar c = false) :
      Turn handlers text s (s.refuse text .missingKeyword s.position)
  | closed {p : Nat} {top parent : Frame} {below : List Frame} {log : List Dispatch} {state : σ}
      {rest : Text} {answer : Text × σ} (hrest : text.drop p = '\x7d' :: rest)
      (hanswer : handlers.answer? ⟨top.keyword, Text.strip top.written.reverse⟩ state =
        some answer) :
      Turn handlers text ⟨p, top :: parent :: below, log, state⟩
        (.next ⟨p + 1, { parent with written := answer.1.reverse ++ parent.written } :: below,
          ⟨top.clause, below.length, Text.strip top.written.reverse, answer.1⟩ :: log, answer.2⟩)
  /-- A clause is closed that nobody answers. -/
  | unanswered {p : Nat} {top parent : Frame} {below : List Frame} {log : List Dispatch} {state : σ}
      {rest : Text} (hrest : text.drop p = '\x7d' :: rest)
      (hanswer : handlers.answer? ⟨top.keyword, Text.strip top.written.reverse⟩ state = none) :
      Turn handlers text ⟨p, top :: parent :: below, log, state⟩
        (fail ⟨p, top :: parent :: below, log, state⟩ ((handlers.fault top.clause).failure text))
  /-- No clause is open that a closing brace could close. -/
  | unopened {p : Nat} {bottom : Frame} {log : List Dispatch} {state : σ} {rest : Text}
      (hrest : text.drop p = '\x7d' :: rest) :
      Turn handlers text ⟨p, [bottom], log, state⟩
        (refuse ⟨p, [bottom], log, state⟩ text .unopenedClause p)
  | finished {p : Nat} {bottom : Frame} {log : List Dispatch} {state : σ}
      (hrest : text.drop p = []) :
      Turn handlers text ⟨p, [bottom], log, state⟩
        (.ended ⟨.ok bottom.written.reverse, log.reverse, state⟩)
  | unclosed {s : Scan σ} {k : Clause} (hrest : text.drop s.position = [])
      (hk : (openClauses s.frames).getLast? = some k) :
      Turn handlers text s (s.refuse text .unterminatedClause k.brace)

section Turns

variable {handlers : Registry σ} {text : Text} {p : Nat} {frames : List Frame}
  {log : List Dispatch} {state : σ}

theorem turn_passQuoted (h : frames ≠ []) {q : Quote} {rest : Text}
    (hrest : text.drop p = q.opener :: rest) :
    Turn handlers text ⟨p, frames, log, state⟩
      (passQuoted ⟨p, frames, log, state⟩ text q rest) := by
  -- The search for the closer cuts what follows into the body and the rest.
  have hsplit := List.takeWhile_append_dropWhile (p := (· != q.closer)) (l := rest)
  have hbody : q.closer ∉ rest.takeWhile (· != q.closer) := by
    intro hmem
    simpa using List.all_eq_true.1 List.all_takeWhile _ hmem
  rw [passQuoted]
  cases hend : rest.dropWhile (· != q.closer) with
  | nil =>
    rw [hend, List.append_nil] at hsplit
    rw [hsplit] at hbody
    exact .unterminatedQuote hrest hbody
  | cons closer rest' =>
    obtain ⟨top, below, rfl⟩ := List.exists_cons_of_ne_nil h
    have hcloser : closer = q.closer := by
      have hhead := List.head?_dropWhile_not (· != q.closer) rest
      rw [hend] at hhead
      simpa using hhead
    rw [hend, hcloser] at hsplit
    rw [← hsplit] at hrest
    rw [hcloser]
    have hturn : Turn handlers text ⟨p, top :: below, log, state⟩ _ := .quoted hrest hbody
    simpa [write, Nat.add_assoc] using hturn

theorem turn_openClause {rest : Text} (hrest : text.drop p = '\x7b' :: rest) :
    Turn handlers text ⟨p, frames, log, state⟩
      (openClause ⟨p, frames, log, state⟩ text rest) := by
  have hsplit := List.takeWhile_append_dropWhile (p := isKeywordChar) (l := rest)
  have hchars : ∀ c ∈ rest.takeWhile isKeywordChar, isKeywordChar c = true :=
    List.all_eq_true.1 List.all_takeWhile
  have hend : ∀ c ∈ (rest.dropWhile isKeywordChar).head?, isKeywordChar c = false := by
    intro c hc
    have hhead := List.head?_dropWhile_not isKeywordChar rest
    rw [hc] at hhead
    simpa using hhead
  rw [openClause]
  by_cases hkeyword : rest.takeWhile isKeywordChar = []
  · rw [if_pos hkeyword]
    -- Nothing that could be a keyword follows the brace: the text ends, or something else stands
    -- there.
    rw [hkeyword, List.nil_append] at hsplit
    rw [hsplit] at hend
    cases rest with
    | nil => exact .lastBrace hrest
    | cons c rest => exact .missingKeyword hrest (hend c rfl)
  · rw [if_neg hkeyword]
    rw [← hsplit] at hrest
    exact .opened hrest hkeyword hchars hend

theorem turn_closeClause (h : Stacked text p frames) {rest : Text}
    (hrest : text.drop p = '\x7d' :: rest) :
    Turn handlers text ⟨p, frames, log, state⟩
      (closeClause handlers text ⟨p, frames, log, state⟩) := by
  match frames, h with
  | [bottom], _ => exact .unopened hrest
  | top :: parent :: below, h =>
    -- A frame with another one below it belongs to a clause.
    have hbrace := h.pop.1
    cases hanswer : handlers.answer? ⟨top.keyword, Text.strip top.written.reverse⟩ state with
    | some answer =>
      obtain ⟨handler, hget, hprocess⟩ := Option.bind_eq_some_iff.1 hanswer
      have hturn : Turn handlers text ⟨p, top :: parent :: below, log, state⟩ _ :=
        .closed hrest hanswer
      simp only [closeClause, hget, hprocess]
      exact hturn
    | none =>
      have hturn : Turn handlers text ⟨p, top :: parent :: below, log, state⟩ _ :=
        .unanswered hrest hanswer
      rw [Registry.fault] at hturn
      rw [Registry.answer?] at hanswer
      -- Either there is no value for the keyword, or there is one that cannot answer.
      cases hget : handlers.get? top.keyword with
      | none =>
        simp only [Frame.clause, hget] at hturn
        simp only [closeClause, hget, hbrace]
        exact hturn
      | some handler =>
        simp only [Frame.clause, hget] at hturn
        rw [hget, Option.bind_some] at hanswer
        simp only [closeClause, hget, hanswer]
        exact hturn

theorem turn_finish (h : Stacked text p frames) (hrest : text.drop p = []) :
    Turn handlers text ⟨p, frames, log, state⟩ (finish text ⟨p, frames, log, state⟩) := by
  match frames, h with
  | [bottom], _ => exact .finished hrest
  | top :: parent :: below, h =>
    obtain ⟨bottom, opened, inner, hreverse, hbrace, hlast⟩ := h.reverse_eq
    simp only [finish, hreverse, hbrace]
    exact .unclosed hrest hlast

theorem turn_round (handlers : Registry σ) {s : Scan σ} (h : Stacked text s.position s.frames) :
    Turn handlers text s (s.round handlers text) := by
  obtain ⟨p, frames, log, state⟩ := s
  cases hrest : text.drop p with
  | nil =>
    simp only [round, hrest]
    exact turn_finish h hrest
  | cons c rest =>
    -- The same questions in the same order as a round asks them.
    cases hq : Quote.ofOpener? c with
    | some q =>
      simp only [round, hrest, hq]
      rw [Quote.ofOpener?_eq_some_iff.1 hq] at hrest
      exact turn_passQuoted h.ne_nil hrest
    | none =>
      simp only [round, hrest, hq]
      by_cases hopen : c = '\x7b'
      · rw [if_pos hopen]
        rw [hopen] at hrest
        exact turn_openClause hrest
      by_cases hclose : c = '\x7d'
      · rw [if_neg hopen, if_pos hclose]
        rw [hclose] at hrest
        exact turn_closeClause h hrest
      obtain ⟨top, below, rfl⟩ := List.exists_cons_of_ne_nil h.ne_nil
      rw [if_neg hopen, if_neg hclose]
      exact .plain hrest (isPlain_iff.2 ⟨hq, hopen, hclose⟩)

/-- A round that goes on leaves a stack of the right shape. -/
theorem Stacked.next {s s' : Scan σ} (h : Stacked text s.position s.frames)
    (hround : s.round handlers text = .next s') : Stacked text s'.position s'.frames := by
  have hturn := turn_round handlers h
  rw [hround] at hturn
  cases hturn with
  | plain => exact (h.write _).mono (Nat.le_add_right _ _)
  | quoted => exact (h.write _).mono (Nat.le_add_right _ _)
  | closed => exact (h.pop.2.write _).mono (Nat.le_add_right _ _)
  | @opened p _ _ _ keyword rest hrest hkeyword hchars =>
    -- The brace stands inside the text, at the place of the scan.
    have hp : (text.take p).length = p := by
      have hlength := congrArg List.length hrest
      rw [List.length_drop, List.length_cons] at hlength
      rw [List.length_take]
      omega
    have htext : text = text.take p ++ '\x7b' :: (keyword ++ rest) := by
      rw [← hrest, List.take_append_drop]
    have hread : p + 1 + keyword.length ≤ p + (keyword.length + 1) := by omega
    rw [← hp] at h hread
    have hpush : Stacked text _ (⟨_, keyword, []⟩ :: _) := .clause h htext hkeyword hchars hread
    rw [hp] at hpush
    exact hpush

end Turns

end Scan

end EscapeClause
