import EscapeClause.HandlersFile
import EscapeClause.Proofs.JsonText

/-!
# Handlers files written down

A list of keywords, each with a flag or without one, is written as a JSON object of specifications
(`documentTokens`). However its tokens are spelled, with whatever white space between them and
whatever escapes in their strings, the file loads to a registry with exactly these keywords, in
their order and with their flags (`loadRegistry_document`).
-/

namespace EscapeClause

namespace OrderedMap

variable {α β : Type} [DecidableEq α]

theorem insertEntries_of_not_mem {k : α} {v : β} {es : List (α × β)}
    (h : k ∉ es.map Prod.fst) : insertEntries k v es = es ++ [(k, v)] := by
  induction es with
  | nil => rfl
  | cons e es ih =>
    rw [List.map_cons, List.mem_cons, not_or] at h
    rw [insertEntries, if_neg (Ne.symm h.1), ih h.2, List.cons_append]

/-- Keys that are new are bound in their order behind the old ones. -/
theorem entries_insertMany {m : OrderedMap α β} {pairs : List (α × β)}
    (h : ((m.entries ++ pairs).map Prod.fst).Nodup) :
    (m.insertMany pairs).entries = m.entries ++ pairs := by
  induction pairs generalizing m with
  | nil => exact (List.append_nil _).symm
  | cons e es ih =>
    -- Each key is new when its turn comes, so that its binding goes to the end.
    have hnew : e.1 ∉ m.entries.map Prod.fst := by
      intro hmem
      rw [List.map_append, List.nodup_append] at h
      exact h.2.2 _ hmem _ (List.mem_map_of_mem List.mem_cons_self) rfl
    have hentries : (m.insert e.1 e.2).entries = m.entries ++ [e] := insertEntries_of_not_mem hnew
    have hsplit : m.entries ++ e :: es = (m.insert e.1 e.2).entries ++ es := by
      rw [hentries, List.append_assoc, List.singleton_append]
    rw [hsplit] at h ⊢
    exact ih h

theorem entries_ofList {pairs : List (α × β)} (h : (pairs.map Prod.fst).Nodup) :
    (ofList pairs).entries = pairs :=
  entries_insertMany (m := ∅) h

end OrderedMap

namespace HandlersFile

variable {σ : Type}

/-- The members of a specification: its flag, if it has one. -/
def specMembers : Option Bool → List (Text × Bool)
  | none => []
  | some includeKeyword => [("include_keyword".toList, includeKeyword)]

def specTokens (spec : Option Bool) : List Json.Token :=
  Json.objectTokens (fun value => [.flag value]) (specMembers spec)

def documentTokens (specs : List (Text × Option Bool)) : List Json.Token :=
  Json.objectTokens specTokens specs

def specJson (spec : Option Bool) : Json :=
  .object ((specMembers spec).map fun m => (Decoded.ofText m.1, .bool m.2))

theorem readsAs_document (specs : List (Text × Option Bool)) :
    Json.ReadsAs 2 (documentTokens specs)
      (.object (specs.map fun e => (Decoded.ofText e.1, specJson e.2))) := by
  apply Json.readsAs_object
  intro e _
  apply Json.readsAs_object
  intro m _
  exact Json.readsAs_flag m.2

/-- The keyword is kept where nothing else is specified. -/
theorem readSpec_specJson (spec : Option Bool) :
    readSpec (specJson spec) = .ok (spec.getD true) := by
  cases spec <;> rfl

theorem readSpecs_document (path : Text) (specs : List (Text × Option Bool)) :
    readSpecs path (specs.map fun e => (Decoded.ofText e.1, specJson e.2)) =
      .ok (specs.map fun e => (Decoded.ofText e.1, (.echo (e.2.getD true) : Handler σ))) := by
  induction specs with
  | nil => rfl
  | cons e specs ih =>
    rw [List.map_cons, readSpecs, readSpec_specJson, ih]
    rfl

/-- Keywords that are texts are all in the registry. -/
theorem entries_registryOf {handlers : Handlers σ} {bindings : List (Text × Handler σ)}
    (h : handlers.entries = bindings.map fun e => (Decoded.ofText e.1, e.2)) :
    (registryOf handlers).entries = bindings := by
  show handlers.entries.filterMap _ = bindings
  have hname : ((fun e : Decoded × Handler σ => e.1.text?.map fun c => (c, e.2)) ∘
      fun e : Text × Handler σ => (Decoded.ofText e.1, e.2)) = some := by
    funext e
    simp
  rw [h, List.filterMap_map, hname, List.filterMap_some]

/-- A file of keywords that are all different specifies these keywords in their order. -/
theorem exists_handlersOfText {specs : List (Text × Option Bool)}
    (hnodup : (specs.map Prod.fst).Nodup) {text : Text}
    (htext : Json.Spelled (documentTokens specs) text) (path : Text) :
    ∃ handlers : Handlers σ, handlersOfText path text = .ok handlers ∧
      handlers.entries = specs.map fun e => (Decoded.ofText e.1, .echo (e.2.getD true)) := by
  have hkeys {γ : Type} (f : Text × Option Bool → γ) :
      ((specs.map fun e => (Decoded.ofText e.1, f e)).map Prod.fst).Nodup := by
    have hne : specs.Pairwise fun e e' => e.1 ≠ e'.1 := List.pairwise_map.1 hnodup
    rw [List.map_map, List.Nodup, List.pairwise_map]
    exact hne.imp fun hne h => hne (Decoded.ofText_inj.1 h)
  -- The keywords differ, so every member counts and keeps its place.
  have hmembers : (Json.effective (specs.map fun e => (Decoded.ofText e.1, specJson e.2))).entries =
      specs.map fun e => (Decoded.ofText e.1, specJson e.2) :=
    OrderedMap.entries_ofList (hkeys fun e => specJson e.2)
  have hentries := OrderedMap.entries_ofList (hkeys fun e => (.echo (e.2.getD true) : Handler σ))
  refine ⟨_, ?_, hentries⟩
  have hlevels : 2 ≤ maxLevels := by decide
  rw [handlersOfText, (readsAs_document specs).ofText_eq hlevels htext]
  show (readSpecs path (Json.effective _).entries).map OrderedMap.ofList = _
  rw [hmembers, readSpecs_document]
  rfl

/-- A handlers file loads to the keywords and flags that were written into it, however it is
spelled, and its ends of line do not matter. -/
theorem loadRegistry_document {specs : List (Text × Option Bool)}
    (hnodup : (specs.map Prod.fst).Nodup) {text : Text}
    (htext : Json.Spelled (documentTokens specs) text) {files : Files} {path : Text}
    (hfile : files (Path.ofText path).text = some (.file (String.ofList text).toUTF8)) :
    ∃ handlers : Registry σ,
      loadRegistry files path =
        ⟨.ok handlers, [.handlersLoaded specs.length (Path.ofText path).text]⟩ ∧
      handlers.entries = specs.map (fun e => (e.1, .echo (e.2.getD true))) ∧
      registryOfText (Path.ofText path).text text = .ok handlers := by
  obtain ⟨handlers, hread, hentries⟩ :=
    exists_handlersOfText (σ := σ) hnodup htext (Path.ofText path).text
  obtain ⟨handlers', hread', hentries'⟩ :=
    exists_handlersOfText (σ := σ) hnodup htext.unifyNewlines (Path.ofText path).text
  -- Changing the ends of line changes white space only, and so it gives the same handlers.
  have hsame : handlers' = handlers := OrderedMap.ext (hentries'.trans hentries.symm)
  subst hsame
  have hsize : handlers'.size = specs.length := by
    rw [OrderedMap.size, hentries, List.length_map]
  have hregistry : (registryOf handlers').entries =
      specs.map fun e => (e.1, .echo (e.2.getD true)) := by
    apply entries_registryOf
    rw [hentries, List.map_map]
    rfl
  refine ⟨registryOf handlers', ?_, hregistry, by rw [registryOfText, hread]; rfl⟩
  rw [loadRegistry, load]
  simp only [hfile, readHandlers, decodeFile_toUTF8, hread', hsize]
  rfl

/-- An empty keyword, and one of a carriage return and a code point that takes two units. -/
theorem loadRegistry_document_escapes :
    let specs : List (Text × Option Bool) := [([], none), (['\r', '😀'], some false)]
    let text : Text :=
      ['\x7b', '\r', '\n', '"', '"', ':', '\x7b', '\t', '\x7d', ','] ++
      ['"', '\\', 'r', '\\', 'u', 'D', '8', '3', 'd', '\\', 'u', 'd', 'E', '0', '0', '"', ':'] ++
      ['\x7b', '"', '\\', 'u', '0', '0', '6', '9'] ++ "nclude_keyword".toList ++
      ['"', ':', '\r', 'f', 'a', 'l', 's', 'e', '\x7d', '\x7d', '\n']
    let files : Files := fun _ => some (.file (String.ofList text).toUTF8)
    (specs.map Prod.fst).Nodup ∧ Json.Spelled (documentTokens specs) text ∧
      ∃ handlers : Registry Unit, (loadRegistry files []).value = .ok handlers ∧
        handlers.entries = [([], .echo true), (['\r', '😀'], .echo false)] := by
  intro specs text files
  have hnodup : (specs.map Prod.fst).Nodup := by decide
  have hgap : Json.IsGap [] := List.forall_mem_nil _
  have hkeyword : Json.TextWritten ['\r', '😀']
      ['\\', 'r', '\\', 'u', 'D', '8', '3', 'd', '\\', 'u', 'd', 'E', '0', '0'] := by
    have hhigh : Json.UnitWritten 0xd83d ['\\', 'u', 'D', '8', '3', 'd'] :=
      .digits (.inr rfl) (.inl rfl) (.inl rfl) (.inl rfl)
    have hlow : Json.UnitWritten 0xde00 ['\\', 'u', 'd', 'E', '0', '0'] :=
      .digits (.inl rfl) (.inr rfl) (.inl rfl) (.inl rfl)
    have hreturn : Json.CharWritten '\r' ['\\', 'r'] := .short (by decide)
    have hface : Json.CharWritten '😀'
        (['\\', 'u', 'D', '8', '3', 'd'] ++ ['\\', 'u', 'd', 'E', '0', '0']) :=
      .pair (by decide) hhigh hlow
    exact .cons hreturn (.cons hface .nil)
  have hfield : Json.TextWritten "include_keyword".toList
      (['\\', 'u', '0', '0', '6', '9'] ++ "nclude_keyword".toList) :=
    .cons (.unit (.digits (.inl rfl) (.inl rfl) (.inl rfl) (.inl rfl)))
      (Json.textWritten_self rfl)
  have htext : Json.Spelled (documentTokens specs) text := by
    apply Json.Spelled.cons (g := []) hgap .opening
    apply Json.Spelled.cons (g := ['\r', '\n']) (by decide) (.string .nil)
    apply Json.Spelled.cons (g := []) hgap .colon
    apply Json.Spelled.cons (g := []) hgap .opening
    apply Json.Spelled.cons (g := ['\t']) (by decide) .closing
    apply Json.Spelled.cons (g := []) hgap .comma
    apply Json.Spelled.cons (g := []) hgap (.string hkeyword)
    apply Json.Spelled.cons (g := []) hgap .colon
    apply Json.Spelled.cons (g := []) hgap .opening
    apply Json.Spelled.cons (g := []) hgap (.string hfield)
    apply Json.Spelled.cons (g := []) hgap .colon
    apply Json.Spelled.cons (g := ['\r']) (by decide) .flagFalse
    apply Json.Spelled.cons (g := []) hgap .closing
    apply Json.Spelled.cons (g := []) hgap .closing
    exact .nil (by decide)
  have hfile : files (Path.ofText []).text = some (.file (String.ofList text).toUTF8) := rfl
  obtain ⟨handlers, hload, hentries, -⟩ := loadRegistry_document (σ := Unit) hnodup htext hfile
  exact ⟨hnodup, htext, handlers, by rw [hload], hentries⟩

end HandlersFile

end EscapeClause
