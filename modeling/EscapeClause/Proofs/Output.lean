import EscapeClause.Proofs.Printing
import EscapeClause.Proofs.Runs

/-!
# The output of a run

The text that the library made passes through the terminal on its way out. It stands in the output
as it is exactly when printing changes nothing of it (`run_output_eq_iff`), and a tab in a quoted
literal is a counterexample to its always doing so (`run_widens_quoted_tab`).
-/

namespace EscapeClause

namespace CommandLine

open Console

/-- What a run writes shows its result code point by code point: each in its place, and any stretch
of it by itself. So the output is the result, ended by a line feed, exactly when the result has
neither tabs nor control codes that are dropped, and the same holds of the fields. -/
theorem run_output_eq_iff {env : Environment} {arguments : List Text} {options : RunOptions}
    {text : Text} {extra : Registry Unit}
    (hrequest : Request.ofCommandLine env.files arguments = .ok (.run options))
    (htext : readSql options.sql env.input = some text)
    (hloaded : (HandlersFile.loadRegistry env.files
      (options.handlersFile.getD env.handlersFile)).value = .ok extra)
    (hplain : env.detailed = false) :
    (options.split = false → ∀ out,
      (expand (registry options extra) text ()).result = .ok out →
        (run env arguments).value.status = 0 ∧
        Prints (out ++ ['\n']) (run env arguments).value.output ∧
        ((run env arguments).value.output = out ++ ['\n'] ↔ Verbatim out) ∧
        ∀ before literal after, out = before ++ literal ++ after →
          ∃ a shown b, (run env arguments).value.output = a ++ shown ++ b ∧
            Prints before a ∧ Prints literal shown ∧ Prints (after ++ ['\n']) b ∧
            (shown = literal ↔ Verbatim literal)) ∧
    (options.split = true →
      (run env arguments).value.status = 0 ∧
      Prints (unlines (fields text)) (run env arguments).value.output ∧
      ((run env arguments).value.output = unlines (fields text) ↔
        ∀ field ∈ fields text, Verbatim field)) := by
  have hfeed : Verbatim ['\n'] := by decide
  -- Neither the request nor the registry fails, so the run is the work on the text read.
  have hending : (run env arguments).value =
      (work false options.split (registry options extra) text).value := by
    rw [← hplain, ← runOptions_of_loaded htext hloaded]
    simp only [run, hrequest]
  rw [hending]
  constructor
  · intro hsplit out hout
    rw [hsplit, work, if_neg Bool.false_ne_true, expandEnding_of_ok hout]
    show 0 = 0 ∧ Prints (out ++ ['\n']) (print out) ∧ _
    have hprints := prints_print out
    refine ⟨rfl, hprints, ?_, ?_⟩
    · rw [panelOf, if_neg Bool.false_ne_true, List.nil_append, hprints.eq_iff, verbatim_append_iff,
        and_iff_left hfeed]
    · -- What is printed of a concatenation is cut where the concatenation is, twice.
      rintro before literal after rfl
      rw [List.append_assoc] at hprints
      obtain ⟨shown', b, hout', hshown, hb⟩ := hprints.exists_of_append
      obtain ⟨a, shown, rfl, ha, hliteral⟩ := hshown.exists_of_append
      exact ⟨a, shown, b, hout', ha, hliteral, hb, hliteral.eq_iff⟩
  · intro hsplit
    rw [hsplit, work, if_pos rfl]
    have hprints := prints_flatMap_print (fields text)
    exact ⟨rfl, hprints, hprints.eq_iff.trans verbatim_unlines_iff⟩

/-- A name in brackets and a word in quotes, cut into fields: a bell is lost, and nothing else. -/
theorem run_output_eq_iff_fields :
    let env : Environment := ⟨fun _ => none, .text "[a \x7bb\x7d], 'c\x07'\n".toList, false, []⟩
    let options : RunOptions := ⟨none, true, [], [], true, none⟩
    Request.ofCommandLine env.files ["--split".toList] = .ok (.run options) ∧
    fields "[a \x7bb\x7d], 'c\x07'".toList = ["[a \x7bb\x7d]".toList, "'c\x07'".toList] ∧
    Prints "[a \x7bb\x7d]\n'c\x07'\n".toList (run env ["--split".toList]).value.output ∧
    (run env ["--split".toList]).value.output ≠ "[a \x7bb\x7d]\n'c\x07'\n".toList := by
  intro env options
  have hrequest : Request.ofCommandLine env.files ["--split".toList] = .ok (.run options) := by
    have hnone : Arguments.read [] = .ok ⟨[], []⟩ := by rw [Arguments.read]
    have hread : Arguments.read ["--split".toList] = .ok ⟨[(.split, [])], []⟩ :=
      Arguments.read_flatMap_written [.flag .split rfl] hnone
    rw [Request.ofCommandLine_of_read env.files hread]
    rfl
  have hfields : fields "[a \x7bb\x7d], 'c\x07'".toList =
      ["[a \x7bb\x7d]".toList, "'c\x07'".toList] := by decide
  have htext : readSql options.sql env.input = some "[a \x7bb\x7d], 'c\x07'".toList := by decide
  have hloaded : (HandlersFile.loadRegistry env.files
      (options.handlersFile.getD env.handlersFile)).value = .ok (∅ : Registry Unit) := rfl
  obtain ⟨-, hsplit⟩ := run_output_eq_iff hrequest htext hloaded rfl
  obtain ⟨-, hprints, hiff⟩ := hsplit rfl
  rw [hfields] at hprints hiff
  exact ⟨hrequest, hfields, hprints, fun h => absurd (hiff.1 h) (by decide)⟩

/-- A tab inside a quoted literal reaches the output as spaces. -/
theorem run_widens_quoted_tab :
    let env : Environment := ⟨fun _ => none, .terminal, false, []⟩
    let options : RunOptions := ⟨some "'a\tb'".toList, false, [], [], true, none⟩
    Request.ofCommandLine env.files ["--".toList, "'a\tb'".toList] = .ok (.run options) ∧
    (expand (registry options ∅) "'a\tb'".toList ()).result = .ok "'a\tb'".toList ∧
    (run env ["--".toList, "'a\tb'".toList]).value = ⟨0, "'a      b'\n".toList, []⟩ ∧
    "'a      b'\n".toList ≠ "'a\tb'".toList ++ ['\n'] := by
  intro env options
  have hrequest : Request.ofCommandLine env.files ["--".toList, "'a\tb'".toList] =
      .ok (.run options) := by
    rw [Request.ofCommandLine_of_read env.files (Arguments.read_dashes _)]
    rfl
  have hresult : (expand (registry options ∅) "'a\tb'".toList ()).result =
      .ok "'a\tb'".toList := by decide
  refine ⟨hrequest, hresult, ?_, by decide⟩
  have htext : readSql options.sql env.input = some "'a\tb'".toList := rfl
  have hloaded : (HandlersFile.loadRegistry env.files
      (options.handlersFile.getD env.handlersFile)).value = .ok (∅ : Registry Unit) := rfl
  have hrun : (run env ["--".toList, "'a\tb'".toList]).value = (runOptions env options).value := by
    simp only [run, hrequest]
  rw [hrun, runOptions_of_loaded htext hloaded, work, if_neg Bool.false_ne_true,
    expandEnding_of_ok hresult]
  decide

end CommandLine

end EscapeClause
