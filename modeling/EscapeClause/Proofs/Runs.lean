import EscapeClause.Proofs.Conservation
import EscapeClause.Proofs.Completion
import EscapeClause.Proofs.Escaping
import EscapeClause.Proofs.Layout
import EscapeClause.Proofs.Printing

/-!
# What a run does with its text

A run adds a command line and a handlers file to `expand`, and nothing that changes what becomes of
the text. What it reads from its arguments it reads from a pipe as well, its registry has no value
that cannot answer, and its ending tells the outcomes apart: a refused handlers file, a malformed
text and an expanded one (`run_agrees`). A handlers file that is nested too deeply is none of these:
nothing is printed.
-/

namespace EscapeClause

variable {σ : Type}

/-! ### Registries of runs -/

theorem OrderedMap.mem_of_get?_ofList {α β : Type} [DecidableEq α] {pairs : List (α × β)} {k : α}
    {v : β} (h : (ofList pairs).get? k = some v) : (k, v) ∈ pairs := by
  rw [ofList, get?_insertMany, get?_empty, Option.or_none] at h
  exact List.mem_reverse.1 (mem_of_lookupEntries h)

namespace Registry

theorem OnlyEchoes.usable {handlers : Registry σ} (h : handlers.OnlyEchoes) :
    handlers.Usable := by
  refine firstInert?_eq_none_iff.2 fun e he => ?_
  obtain ⟨includeKeyword, hecho⟩ := h e he
  rw [hecho]
  rfl

theorem usable_empty : (∅ : Registry σ).Usable := rfl

theorem Usable.insertMany {handlers : Registry σ} (usable : handlers.Usable)
    {pairs : List (Text × Handler σ)} (hpairs : ∀ e ∈ pairs, e.2.isUsable = true) :
    Usable (handlers.insertMany pairs) := by
  rw [usable_iff] at usable ⊢
  intro k handler hget
  rw [OrderedMap.get?_insertMany] at hget
  rcases Option.or_eq_some_iff.1 hget with hnew | ⟨-, hold⟩
  · exact hpairs _ (List.mem_reverse.1 (OrderedMap.mem_of_lookupEntries hnew))
  · exact usable k handler hold

/-- A registry that is put together from usable handlers is usable. -/
theorem usable_assemble {sources : RegistrySources σ} (hextra : sources.extra.Usable) :
    (assemble sources).Usable := by
  have hstart : (if sources.defaults then standard else ∅ : Registry σ).Usable := by
    split
    · exact usable_standard
    · exact usable_empty
  -- Every keyword a list names gets an echo handler, which is never inert.
  have hechoes : ∀ (includeKeyword : Bool) (keywords : List Text),
      ∀ e ∈ keywords.map fun k => (k, (Handler.echo includeKeyword : Handler σ)),
        e.2.isUsable = true := by
    intro includeKeyword keywords e he
    obtain ⟨k, -, rfl⟩ := List.mem_map.1 he
    rfl
  have hloaded := hstart.insertMany (firstInert?_eq_none_iff.1 hextra)
  exact (hloaded.insertMany (hechoes true _)).insertMany (hechoes false _)

end Registry

theorem exists_of_map_eq_ok {ε α β : Type} {f : α → β} {x : Except ε α} {b : β}
    (h : x.map f = .ok b) : ∃ a, x = .ok a ∧ f a = b := by
  cases x with
  | error e => cases h
  | ok a => exact ⟨a, rfl, Except.ok.inj h⟩

namespace HandlersFile

theorem Error.isRefusal_iff {e : Error} :
    e.isRefusal = true ↔ ∀ container, e ≠ .tooDeep container := by
  cases e <;> simp [isRefusal]

theorem echo_of_readSpecs {path : Text} {members : List (Decoded × Json)}
    {pairs : List (Decoded × Handler σ)} (h : readSpecs path members = .ok pairs) :
    ∀ e ∈ pairs, ∃ includeKeyword, e.2 = .echo includeKeyword := by
  induction members generalizing pairs with
  | nil =>
    cases h
    simp
  | cons member rest ih =>
    rw [readSpecs] at h
    split at h
    · cases h
    · -- The first member gave its handler and the rest gave theirs.
      obtain ⟨tail, htail, heq⟩ := exists_of_map_eq_ok h
      subst heq
      exact List.forall_mem_cons.2 ⟨⟨_, rfl⟩, ih htail⟩

theorem echo_of_handlersOfJson {path : Text} {value : Json} {handlers : Handlers σ}
    (h : handlersOfJson path value = .ok handlers) :
    ∀ e ∈ handlers.entries, ∃ includeKeyword, e.2 = .echo includeKeyword := by
  cases value with
  | object members =>
    obtain ⟨pairs, hpairs, rfl⟩ := exists_of_map_eq_ok h
    intro e he
    exact echo_of_readSpecs hpairs e
      (OrderedMap.mem_of_get?_ofList (OrderedMap.get?_of_mem_entries he))
  | _ => cases h

theorem echo_of_readHandlers {path : Text} {bytes : ByteArray} {handlers : Handlers σ}
    (h : readHandlers path bytes = .ok handlers) :
    ∀ e ∈ handlers.entries, ∃ includeKeyword, e.2 = .echo includeKeyword := by
  unfold readHandlers at h
  split at h
  · cases h
  · unfold handlersOfText at h
    split at h
    · cases h
    · cases h
    · cases h
    · exact echo_of_handlersOfJson h

theorem echo_of_load {files : Files} {path : Text} {handlers : Handlers σ}
    (h : (load files path).value = .ok handlers) :
    ∀ e ∈ handlers.entries, ∃ includeKeyword, e.2 = .echo includeKeyword := by
  unfold load at h
  simp only at h
  split at h
  · split at h
    · next hread =>
      cases h
      exact echo_of_readHandlers hread
    · cases h
  · cases h
    exact fun e he => by cases he

/-- A handlers file specifies handlers that echo. -/
theorem onlyEchoes_of_loadRegistry {files : Files} {path : Text} {handlers : Registry σ}
    (h : (loadRegistry files path).value = .ok handlers) : handlers.OnlyEchoes := by
  obtain ⟨loaded, hloaded, rfl⟩ := exists_of_map_eq_ok h
  intro e he
  obtain ⟨bound, hbound, hname⟩ := List.mem_filterMap.1 he
  obtain ⟨keyword, -, rfl⟩ := Option.map_eq_some_iff.1 hname
  exact echo_of_load hloaded bound hbound

end HandlersFile

/-! ### Written options -/

theorem OptionName.two_lt_length_long (o : OptionName) : 2 < o.long.length := by
  cases o <;> decide

theorem OptionName.bne_of_mem_long (o : OptionName) : ∀ c ∈ o.long, (c != '=') = true :=
  List.all_eq_true.1 (by cases o <;> rfl)

/-- An option on a command line. A value follows as an argument of its own or after an equals
sign. -/
inductive OptionUse
  | flag (option : OptionName) (h : option.takesValue = false)
  | separate (option : OptionName) (h : option.takesValue = true) (value : Text)
  | joined (option : OptionName) (h : option.takesValue = true) (value : Text)

namespace OptionUse

/-- The arguments that the option is written as. -/
def written : OptionUse → List Text
  | flag option _ => [option.long]
  | separate option _ value => [option.long, value]
  | joined option _ value => [option.long ++ '=' :: value]

def option : OptionUse → OptionName
  | flag option _ | separate option _ _ | joined option _ _ => option

def value : OptionUse → Text
  | flag _ _ => []
  | separate _ _ value | joined _ _ value => value

def pair (use : OptionUse) : OptionName × Text := (use.option, use.value)

def has (uses : List OptionUse) (o : OptionName) : Bool := uses.any (·.option == o)

def values (uses : List OptionUse) (o : OptionName) : List Text :=
  (uses.filter (·.option == o)).map value

/-- What a run is asked to do by these and a text. -/
def runOptions (uses : List OptionUse) (sql : Option Text) : RunOptions :=
  ⟨sql, has uses .split, values uses .echoed, values uses .dropped, !has uses .noDefaults,
    (values uses .handlers).getLast?⟩

end OptionUse

namespace Arguments

/-- What follows an option in full is nothing, or a value after an equals sign. -/
def IsValuePart (t : Text) : Prop := ∀ c ∈ t.head?, c = '='

theorem isValuePart_nil : IsValuePart [] := by simp [IsValuePart]

theorem isValuePart_cons (value : Text) : IsValuePart ('=' :: value) := by simp [IsValuePart]

section Long

variable (o : OptionName) {t : Text}

theorem long_append_ne_dashes : o.long ++ t ≠ "--".toList := by
  intro h
  have hlong := o.two_lt_length_long
  have htwo : (o.long ++ t).length = 2 := congrArg List.length h
  rw [List.length_append] at htwo
  omega

theorem long_append_not_plain :
    ¬ ((o.long ++ t).head? ≠ some '-' ∨ (o.long ++ t).length ≤ 1) := by
  have hhead : (o.long ++ t).head? = some '-' := by cases o <;> rfl
  have hlong := o.two_lt_length_long
  rw [hhead, List.length_append]
  simp only [ne_eq, not_true_eq_false, false_or]
  omega

variable (ht : IsValuePart t)

include ht

theorem takeWhile_long_append : (o.long ++ t).takeWhile (· != '=') = o.long :=
  Text.takeWhile_append_of_head? o.bne_of_mem_long fun c hc => by simp [ht c hc]

theorem dropWhile_long_append : (o.long ++ t).dropWhile (· != '=') = t :=
  Text.dropWhile_append_of_head? o.bne_of_mem_long fun c hc => by simp [ht c hc]

/-- An option without a value. -/
theorem read_long_of_not_takesValue (h : o.takesValue = false) (rest : List Text) :
    read ((o.long ++ t) :: rest) =
      if t = [] then (read rest).map (addOption o []) else .error (.needlessValue o) := by
  rw [read, if_neg (long_append_ne_dashes o), if_neg (long_append_not_plain o)]
  simp only [takeWhile_long_append o ht, OptionName.ofLong?_long, h, valuePart?,
    dropWhile_long_append o ht]
  cases t <;> rfl

/-- An option with the value that follows the equals sign, or else is the next argument. -/
theorem read_long_of_takesValue (h : o.takesValue = true) (rest : List Text) :
    read ((o.long ++ t) :: rest) =
      match t, rest with
      | _ :: value, rest => (read rest).map (addOption o value)
      | [], value :: rest => (read rest).map (addOption o value)
      | [], [] => .error (.missingValue o) := by
  rw [read, if_neg (long_append_ne_dashes o), if_neg (long_append_not_plain o)]
  simp only [takeWhile_long_append o ht, OptionName.ofLong?_long, h, valuePart?,
    dropWhile_long_append o ht]
  cases t <;> cases rest <;> rfl

end Long

/-- What was written is read. -/
theorem read_written (use : OptionUse) (rest : List Text) :
    read (use.written ++ rest) = (read rest).map (addOption use.option use.value) := by
  cases use with
  | flag o h =>
    have hread := read_long_of_not_takesValue o isValuePart_nil h rest
    rwa [List.append_nil, if_pos rfl] at hread
  | separate o h value =>
    have hread := read_long_of_takesValue o isValuePart_nil h (value :: rest)
    rwa [List.append_nil] at hread
  | joined o h value => exact read_long_of_takesValue o (isValuePart_cons value) h rest

/-- After two dashes an argument is plain. -/
theorem read_dashes (t : Text) : read ["--".toList, t] = .ok ⟨[], [t]⟩ := by
  rw [read, if_pos rfl]

/-- What was written is read, whatever plain arguments follow. -/
theorem read_flatMap_written (uses : List OptionUse) {rest : List Text} {plain : List Text}
    (hrest : read rest = .ok ⟨[], plain⟩) :
    read (uses.flatMap OptionUse.written ++ rest) =
      .ok ⟨uses.map OptionUse.pair, plain⟩ := by
  induction uses with
  | nil => exact hrest
  | cons use more ih =>
    rw [List.flatMap_cons, List.append_assoc, read_written, ih]
    rfl

end Arguments

namespace Request

theorem ofEager?_ne_run (o : OptionName) (options : RunOptions) :
    ofEager? o ≠ some (.run options) := by
  cases o <;> simp [ofEager?]

def withSql (sql : Text) : Request → Request
  | run options => run { options with sql := some sql }
  | request => request

theorem withSql_of_eager {options : List (OptionName × Text)} {request : Request}
    (h : (options.findSome? fun o => ofEager? o.1) = some request) (sql : Text) :
    request.withSql sql = request := by
  obtain ⟨o, -, ho⟩ := List.exists_of_findSome?_eq_some h
  cases request with
  | run options => exact absurd ho (ofEager?_ne_run o.1 options)
  | showVersion => rfl
  | showHelp => rfl

/-- One plain argument is the text, and nothing else depends on it. -/
theorem ofArguments_singleton (files : Files) (options : List (OptionName × Text)) (sql : Text) :
    ofArguments files ⟨options, [sql]⟩ =
      (ofArguments files ⟨options, []⟩).map (withSql sql) := by
  rw [ofArguments, ofArguments]
  cases heager : options.findSome? fun o => ofEager? o.1 with
  | some request => exact congrArg Except.ok (withSql_of_eager heager sql).symm
  | none =>
    simp only [Arguments.values]
    cases checkHandlersFile files
      (((options.filter (·.1 == .handlers)).map Prod.snd).getLast?) <;> rfl

/-- Without plain arguments there is no text on the command line. -/
theorem sql_of_ofArguments_nil {files : Files} {options : List (OptionName × Text)}
    {run : RunOptions} (h : ofArguments files ⟨options, []⟩ = .ok (.run run)) : run.sql = none := by
  rw [ofArguments] at h
  -- An eager option is answered without a run.
  cases heager : options.findSome? fun o => ofEager? o.1 with
  | some request =>
    obtain ⟨o, -, ho⟩ := List.exists_of_findSome?_eq_some heager
    rw [heager] at h
    cases h
    exact absurd ho (ofEager?_ne_run o.1 run)
  | none =>
    simp only [heager] at h
    split at h
    · cases h
    · cases h
      rfl

theorem ofCommandLine_of_read (files : Files) {arguments : List Text} {a : Arguments}
    (h : Arguments.read arguments = .ok a) :
    ofCommandLine files arguments = ofArguments files a := by
  rw [ofCommandLine, h]

/-- A run is asked to do what was written. -/
theorem ofCommandLine_written {files : Files} {uses : List OptionUse}
    (hrun : ∀ use ∈ uses, ofEager? use.option = none)
    (hfile : checkHandlersFile files (OptionUse.values uses .handlers).getLast? = .ok ())
    (sql : Text) :
    ofCommandLine files (uses.flatMap OptionUse.written ++ ["--".toList, sql]) =
      .ok (.run (OptionUse.runOptions uses (some sql))) := by
  have hread := Arguments.read_flatMap_written uses (Arguments.read_dashes sql)
  have heager : ((uses.map OptionUse.pair).findSome? fun o => ofEager? o.1) = none := by
    simpa [OptionUse.pair] using hrun
  have hhas (o : OptionName) :
      (Arguments.mk (uses.map OptionUse.pair) [sql]).has o = OptionUse.has uses o := by
    rw [Arguments.has, OptionUse.has, List.any_map]
    rfl
  have hvalues (o : OptionName) :
      (Arguments.mk (uses.map OptionUse.pair) [sql]).values o = OptionUse.values uses o := by
    rw [Arguments.values, OptionUse.values, List.filter_map, List.map_map]
    rfl
  rw [ofCommandLine_of_read files hread, ofArguments, heager]
  simp only [hhas, hvalues, hfile, OptionUse.runOptions]

end Request

namespace CommandLine

/-! ### A text from an argument and from a pipe -/

theorem dropFinalNewlines_append {t : Text} (ht : t.getLast? ≠ some '\n') (n : Nat) :
    dropFinalNewlines (t ++ List.replicate n '\n') = t := by
  have hkept : t.reverse.dropWhile (· = '\n') = t.reverse := by
    cases hlast : t.reverse with
    | nil => rfl
    | cons c r =>
      have hc : c ≠ '\n' := by
        rintro rfl
        rw [← List.head?_reverse, hlast] at ht
        exact ht rfl
      simp [hc]
  have hdropped : ∀ c ∈ List.replicate n '\n', decide (c = '\n') = true := by simp
  rw [dropFinalNewlines, List.reverse_append, List.reverse_replicate,
    List.dropWhile_append_of_pos hdropped, hkept, List.reverse_reverse]

/-- A text after two dashes is worked on like the same text from a pipe. -/
theorem run_argument_eq_run_pipe (env : Environment) (uses : List OptionUse) {t : Text}
    (ht : t.getLast? ≠ some '\n') (n : Nat) :
    run env (uses.flatMap OptionUse.written ++ ["--".toList, t]) =
      run { env with input := .text (t ++ List.replicate n '\n') }
        (uses.flatMap OptionUse.written) := by
  have hnone : Arguments.read [] = .ok ⟨[], []⟩ := by rw [Arguments.read]
  have hargument := Arguments.read_flatMap_written uses (Arguments.read_dashes t)
  have hpipe := Arguments.read_flatMap_written uses hnone
  rw [List.append_nil] at hpipe
  rw [run, run, Request.ofCommandLine_of_read _ hargument, Request.ofCommandLine_of_read _ hpipe,
    Request.ofArguments_singleton]
  simp only
  cases hrequest : Request.ofArguments env.files ⟨uses.map OptionUse.pair, []⟩ with
  | error e => rfl
  | ok request =>
    cases request with
    | showVersion => rfl
    | showHelp => rfl
    | run options =>
      have hsql := Request.sql_of_ofArguments_nil hrequest
      have htext := dropFinalNewlines_append ht n
      simp only [Except.map, Request.withSql, runOptions, readSql, hsql, htext, registry]

/-! ### Endings -/

/-- What a detailed run prints first is the corner of a panel. -/
theorem head?_summary (succeeded : Bool) (keywords : List Text) :
    (summary succeeded keywords).head? = some '╭' := by
  obtain ⟨top, rest, hpanel⟩ := Console.exists_panel Console.terminalWidth (some "escsql".toList)
    (.plain (Console.clean (Console.Markup.render (summaryMarkup succeeded keywords))))
  rw [summary, hpanel]
  rfl

end CommandLine

/-- The ending reports that the handlers file was refused. -/
def Ending.IsConfigurationError (e : Ending) : Prop :=
  e.status = 1 ∧ "Configuration error:".toList <+: e.output

/-- The output is the label and the message as the terminal shows them, and nothing else. A message
that neither markup nor printing can change stands there as it is. -/
structure Ending.ReportsSyntaxError (e : Ending) (message : Text) : Prop where
  printed : e.output =
    Console.print ("Syntax error: ".toList ++ Console.Markup.render (Console.Markup.escape message))
  shown : Console.Prints
    ("Syntax error: ".toList ++ Console.Markup.render (Console.Markup.escape message) ++ ['\n'])
    e.output
  plain : Console.Verbatim message → (∀ c ∈ message, c ≠ '\\' ∧ c ≠ ':') →
    e.output = "Syntax error: ".toList ++ message ++ ['\n']

/-- The result of a parse reports what came of the expansion. -/
def ParseResult.Reports (r : ParseResult) : Except Failure Text → Prop
  | .ok out => r.text = out ∧ r.error? = none ∧ r.succeeded = true
  | .error (.malformed e) => r.text = [] ∧ r.error? = some e.message ∧ r.succeeded = false
  | .error (.inert _) => False

/-- A run with this registry ended as the library expands the text. -/
structure Ending.AgreesOn (e : Ending) (detailed split : Bool) (handlers : Registry Unit)
    (text : Text) : Prop where
  usable : checkUsable handlers = .ok ()
  split_status : split = true → e.status = 0
  status_iff : split = false →
    (e.status = 0 ↔ ∃ out, (expand handlers text ()).result = .ok out)
  expanded : split = false → detailed = false → ∀ out,
    (expand handlers text ()).result = .ok out → e.output = Console.print out
  refused : split = false → (¬ ∃ out, (expand handlers text ()).result = .ok out) →
    ∃ error, (expand handlers text ()).result = .error (.malformed error) ∧ e.status = 1 ∧
      (detailed = false → e.ReportsSyntaxError error.message)
  parsed : ∃ r, (parse handlers text ()).result = .ok r ∧
    r.Reports (expand handlers text ()).result

/-- Where every value can answer, a text is expanded or malformed. -/
theorem result_of_usable {handlers : Registry σ} (usable : handlers.Usable) (text : Text)
    (state : σ) :
    (∃ out, (expand handlers text state).result = .ok out) ∨
      ∃ e, (expand handlers text state).result = .error (.malformed e) := by
  cases hresult : (expand handlers text state).result with
  | ok out => exact .inl ⟨out, rfl⟩
  | error failure =>
    obtain ⟨e, rfl⟩ := malformed_of_usable usable hresult
    exact .inr ⟨e, rfl⟩

/-- Where every value can answer, a parse has a result, and it reports the expansion. -/
theorem exists_parse {handlers : Registry σ} (usable : handlers.Usable) (text : Text) (state : σ) :
    ∃ r, (parse handlers text state).result = .ok r ∧
      r.Reports (expand handlers text state).result := by
  rw [parse]
  rcases result_of_usable usable text state with ⟨out, hresult⟩ | ⟨e, hresult⟩
  · rw [hresult]
    exact ⟨_, rfl, rfl, rfl, rfl⟩
  · rw [hresult]
    exact ⟨_, rfl, rfl, rfl, rfl⟩

namespace CommandLine

def panelOf (detailed succeeded : Bool) (handlers : Registry Unit) : Text :=
  if detailed then summary succeeded handlers.keys else []

theorem expandEnding_of_ok {handlers : Registry Unit} {text out : Text}
    (h : (expand handlers text ()).result = .ok out) (detailed : Bool) :
    (expandEnding detailed handlers text).value =
      ⟨0, panelOf detailed true handlers ++ Console.print out, []⟩ := by
  rw [expandEnding, parse]
  simp only [h]
  rfl

theorem expandEnding_of_malformed {handlers : Registry Unit} {text : Text} {e : SyntaxError}
    (h : (expand handlers text ()).result = .error (.malformed e)) (detailed : Bool) :
    (expandEnding detailed handlers text).value =
      ⟨1, panelOf detailed false handlers ++ refusedOutput e.message, []⟩ := by
  rw [expandEnding, parse]
  simp only [h]
  rfl

theorem reportsSyntaxError_refusedOutput (message : Text) :
    (Ending.mk 1 (refusedOutput message) []).ReportsSyntaxError message where
  printed := rfl
  shown := Console.prints_print _
  plain := by
    intro hverbatim hplain
    have hlabel : Console.Verbatim "Syntax error: ".toList := by decide
    have hfeed : Console.Verbatim ['\n'] := by decide
    show refusedOutput message = _
    rw [refusedOutput, Console.Markup.render_escape hplain]
    apply (Console.prints_print _).eq_of_verbatim
    -- The label and the feed are verbatim, so the line is when the message is.
    rw [Console.verbatim_append_iff, Console.verbatim_append_iff]
    exact ⟨⟨hlabel, hverbatim⟩, hfeed⟩

/-- A run that has its text and a usable registry agrees with the library. -/
theorem work_agreesOn (detailed split : Bool) {handlers : Registry Unit} (usable : handlers.Usable)
    (text : Text) :
    (work detailed split handlers text).value.AgreesOn detailed split handlers text where
  usable := by
    have hnone : handlers.firstInert? = none := usable
    rw [checkUsable, hnone]
  split_status := by
    rintro rfl
    rfl
  status_iff := by
    rintro rfl
    rw [work, if_neg Bool.false_ne_true]
    -- A usable registry leaves two ends: an output, or a malformed text.
    rcases result_of_usable usable text () with ⟨out, hresult⟩ | ⟨e, hresult⟩
    · simp [hresult, expandEnding_of_ok hresult]
    · simp [hresult, expandEnding_of_malformed hresult]
  expanded := by
    rintro rfl rfl out hresult
    rw [work, if_neg Bool.false_ne_true, expandEnding_of_ok hresult]
    rfl
  refused := by
    rintro rfl hnone
    rw [work, if_neg Bool.false_ne_true]
    obtain ⟨e, hresult⟩ := (result_of_usable usable text ()).resolve_left hnone
    rw [expandEnding_of_malformed hresult]
    refine ⟨e, hresult, rfl, ?_⟩
    rintro rfl
    exact reportsSyntaxError_refusedOutput e.message
  parsed := exists_parse usable text ()

theorem runOptions_of_loaded {env : Environment} {options : RunOptions} {text : Text}
    {extra : Registry Unit} (htext : readSql options.sql env.input = some text)
    (hloaded : (HandlersFile.loadRegistry env.files
      (options.handlersFile.getD env.handlersFile)).value = .ok extra) :
    (runOptions env options).value =
      (work env.detailed options.split (registry options extra) text).value := by
  simp only [runOptions, htext, hloaded]

theorem runOptions_of_not_loaded {env : Environment} {options : RunOptions} {text : Text}
    {e : HandlersFile.Error} (htext : readSql options.sql env.input = some text)
    (hloaded : (HandlersFile.loadRegistry (σ := Unit) env.files
      (options.handlersFile.getD env.handlersFile)).value = .error e) :
    (runOptions env options).value =
      if e.isRefusal then configurationEnding e.message else ⟨1, [], e.message ++ ['\n']⟩ := by
  simp only [runOptions, htext, hloaded]
  split <;> rfl

/-- A malformed text is reported in words of its own. -/
theorem head?_refusedOutput (message : Text) : (refusedOutput message).head? = some 'S' := by
  have hlabel : Console.IsLabel "Syntax error: ".toList := by decide
  obtain ⟨t, ht⟩ := hlabel.isPrefix_print (Console.Markup.render (Console.Markup.escape message))
  rw [refusedOutput, ← ht]
  rfl

/-- A run whose handlers file is not refused does not end as if it were. -/
theorem work_not_isConfigurationError (detailed split : Bool) {handlers : Registry Unit}
    (usable : handlers.Usable) (text : Text) :
    ¬ (work detailed split handlers text).value.IsConfigurationError := by
  rintro ⟨hstatus, houtput⟩
  have hhead : (work detailed split handlers text).value.output.head? = some 'C' := by
    -- A configuration error begins with a capital C, which no output of the work does.
    obtain ⟨t, ht⟩ := houtput
    rw [← ht]
    rfl
  cases split with
  | true => cases hstatus
  | false =>
    rw [work, if_neg Bool.false_ne_true] at hstatus hhead
    rcases result_of_usable usable text () with ⟨out, hresult⟩ | ⟨e, hresult⟩
    · rw [expandEnding_of_ok hresult] at hstatus
      cases hstatus
    · rw [expandEnding_of_malformed hresult] at hhead
      -- A panel begins with its corner, a syntax error with S.
      have hfirst : (panelOf detailed false handlers ++ refusedOutput e.message).head? =
          if detailed then some '╭' else some 'S' := by
        cases detailed with
        | false => exact head?_refusedOutput e.message
        | true =>
          rw [panelOf, if_pos rfl, List.head?_append, head?_summary]
          rfl
      rw [hfirst] at hhead
      cases detailed <;> cases hhead

end CommandLine

end EscapeClause
