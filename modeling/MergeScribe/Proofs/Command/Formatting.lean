import MergeScribe.Command.Run
import MergeScribe.Proofs.Changelog.Repeats
import MergeScribe.Proofs.System.Files

/-!
# Formatting a file

The command that formats a changelog, run on a machine in memory. Main statements: a canonical form
is kept, by a careful reader too if that reader took the text (`Formatting.judge_render`); a check
writes nothing (`Formatting.run_checks`), and any other run leaves the canonical form of a text that
is not refused (`Formatting.run_formats`); and so a second run finds nothing to do
(`Command.execute_format`).
-/

namespace MergeScribe

namespace Formatting

variable {t : Text}

/-! ## 1. Judgements -/

/-- A text is refused for its violations, if these matter. -/
def Refuses (strict : Bool) (t : Text) : Prop :=
  strict = true ∧ Changelog.violations t ≠ []

theorem judge_of_refuses {strict : Bool} (h : Refuses strict t) (check : Bool) :
    judge check strict t = .refused (Changelog.violations t) := by
  obtain ⟨rfl, hviolations⟩ := h
  have hdocument : document true t = .error (Changelog.violations t) := by
    rw [document, if_pos rfl, Changelog.parseStrict_eq, if_neg hviolations]
  rw [judge, hdocument]

/-- A text that is not refused is judged by its canonical form. -/
theorem judge_of_not_refuses {strict : Bool} (h : ¬ Refuses strict t) (check : Bool) :
    judge check strict t = if (Changelog.parse t).render = t then .kept
      else if check then .unformatted else .changed (Changelog.parse t).render := by
  have hdocument : document strict t = .ok (Changelog.parse t) := by
    cases strict with
    | false => rfl
    | true =>
        have hviolations : Changelog.violations t = [] := by
          by_contra hne
          exact h ⟨rfl, hne⟩
        rw [document, if_pos rfl, Changelog.parseStrict_eq, if_pos hviolations]
  rw [judge, hdocument]

/-- **A canonical form is kept**, by a careful reader too if that reader took the text. -/
theorem judge_render {strict : Bool} (h : ¬ Refuses strict t) (check : Bool) :
    judge check strict (Changelog.parse t).render = .kept := by
  have hread : Changelog.parse (Changelog.parse t).render = Changelog.parse t :=
    Changelog.parse_render (Changelog.parse_canonical t)
  -- what was taken once has no violations when it is read again
  have hnot : ¬ Refuses strict (Changelog.parse t).render := by
    rintro ⟨hs, hviolations⟩
    exact h ⟨hs, fun hnone => hviolations (Changelog.violations_render_parse_eq_nil hnone)⟩
  rw [judge_of_not_refuses hnot, hread, if_pos rfl]

/-! ## 2. Runs -/

variable {w : World} {file : Text}

/-- Complaining leaves the files alone. -/
theorem files_complainAll (lines : List Text) (w : World) :
    ((System.complainAll lines).run World.respond w).2.files = w.files := by
  induction lines generalizing w with
  | nil => rfl
  | cons line more ih => exact ih _

/-- What a run comes to: what its judgement of the file's text asks for. -/
theorem run_eq (h : w.readFile file = some (Text.toBytes t)) (check strict : Bool) :
    ((run file check strict).run World.respond w) =
      match judge check strict t with
      | .kept => (.ok (), w)
      | .unformatted => (.error (file ++ " is not formatted"), w)
      | .refused violations =>
        (.error (file ++ " has " ++ Text.ofNat violations.length ++ " problem(s)"),
          ((System.complainAll (violations.map (complaint file))).run World.respond w).2)
      | .changed canonical =>
        (if (w.writeFile file canonical).1 then .ok () else .error ("Failed to write " ++ file),
          (w.writeFile file canonical).2) := by
  have hread : (w.readFile file).bind Text.ofBytes? = some t := by
    rw [h]
    exact Text.ofBytes?_toBytes t
  unfold run System.readText System.readFile Program.request
  simp only [bind, Program.bind, pure, Program.run, World.respond, hread]
  cases judge check strict t with
  | kept => rfl
  | unformatted => rfl
  | refused violations => exact Program.run_bind World.respond _ _ w
  | changed canonical =>
      have hwritten (written : Bool) (w' : World) :
          (if written then .done (.ok ()) else .done (.error ("Failed to write " ++ file)) :
            Program System (Except Text Unit)).run World.respond w' =
          (if written then .ok () else .error ("Failed to write " ++ file), w') := by
        cases written <;> rfl
      exact hwritten (w.writeFile file canonical).1 (w.writeFile file canonical).2

/-- A text that is refused is left as it is, with an error. -/
theorem run_of_refuses (h : w.readFile file = some (Text.toBytes t)) {strict : Bool}
    (hr : Refuses strict t) (check : Bool) :
    (∃ message, ((run file check strict).run World.respond w).1 = .error message) ∧
      ((run file check strict).run World.respond w).2.files = w.files := by
  rw [run_eq h, judge_of_refuses hr]
  exact ⟨⟨_, rfl⟩, files_complainAll _ w⟩

/-- **A check writes nothing**, and passes a text that is not refused if it is in canonical form. -/
theorem run_checks (h : w.readFile file = some (Text.toBytes t)) {strict : Bool}
    (hr : ¬ Refuses strict t) : (run file true strict).run World.respond w =
      (if (Changelog.parse t).render = t then .ok () else .error (file ++ " is not formatted"),
        w) := by
  rw [run_eq h, judge_of_not_refuses hr]
  by_cases hsame : (Changelog.parse t).render = t
  · rw [if_pos hsame, if_pos hsame]
  · rw [if_neg hsame, if_neg hsame]
    rfl

/-- **A text that is not refused gives way to its canonical form**, unless it is in that form. -/
theorem run_formats (h : w.readFile file = some (Text.toBytes t)) (hw : w.Sound) {strict : Bool}
    (hr : ¬ Refuses strict t) : ∃ w', (run file false strict).run World.respond w = (.ok (), w') ∧
      w'.readFile file = some (Text.toBytes (Changelog.parse t).render) ∧
      ∀ other, w.locate other ≠ w.locate file → w'.readFile other = w.readFile other := by
  rw [run_eq h, judge_of_not_refuses hr]
  by_cases hsame : (Changelog.parse t).render = t
  · rw [if_pos hsame]
    refine ⟨w, rfl, ?_, fun _ _ => rfl⟩
    rw [hsame]
    exact h
  · obtain ⟨w', hwrite, hread, hothers⟩ :=
      World.writeFile_of_readFile hw h (Changelog.parse t).render
    rw [if_neg hsame, if_neg Bool.false_ne_true]
    refine ⟨w', ?_, hread, hothers⟩
    simp only [hwrite, if_true]

/-- After a run that succeeds the file has the canonical form of a text that is not refused. -/
theorem readFile_of_run (h : w.readFile file = some (Text.toBytes t)) (hw : w.Sound)
    {check strict : Bool} (hok : ((run file check strict).run World.respond w).1 = .ok ()) :
    ¬ Refuses strict t ∧ ((run file check strict).run World.respond w).2.readFile file =
      some (Text.toBytes (Changelog.parse t).render) := by
  have hr : ¬ Refuses strict t := fun hr => by
    obtain ⟨⟨message, e⟩, -⟩ := run_of_refuses h hr check
    rw [e] at hok
    cases hok
  refine ⟨hr, ?_⟩
  cases check with
  | true =>
      rw [run_checks h hr] at hok ⊢
      have hsame : (Changelog.parse t).render = t := by
        by_contra hother
        rw [if_neg hother] at hok
        cases hok
      rw [hsame]
      exact h
  | false =>
      obtain ⟨w', e, hread, -⟩ := run_formats h hw hr
      rw [e]
      exact hread

end Formatting

/-! ## 3. The command -/

namespace Command

/-- **Formatting a file** that has some text. A check never changes a file, and passes exactly the
canonical texts that are not refused. A text that is refused is left as it is, with an error. Any
other text gives way to its canonical form, and no other file changes. And after a run that
succeeds, runs that are no stricter succeed too and change nothing. -/
theorem execute_format (config : Config) {w : World} (hw : w.Sound) {file t : Text}
    (hfile : w.readFile file = some (Text.toBytes t)) (check strict : Bool) :
    let outcome := (execute config (.format file check strict)).run World.respond w
    let canonical := (Changelog.parse t).render
    let refused := strict = true ∧ Changelog.violations t ≠ []
    (check = true →
      outcome.2.files = w.files ∧ (outcome.1 = .ok () ↔ canonical = t ∧ ¬ refused)) ∧
    (refused → (∃ message, outcome.1 = .error message) ∧ outcome.2.files = w.files) ∧
    (check = false → ¬ refused →
      outcome.1 = .ok () ∧ outcome.2.readFile file = some (Text.toBytes canonical) ∧
      ∀ other, w.locate other ≠ w.locate file → outcome.2.readFile other = w.readFile other) ∧
    (outcome.1 = .ok () → ∀ check' strict', (strict' = true → strict = true) →
      let again := (execute config (.format file check' strict')).run World.respond outcome.2
      again.1 = .ok () ∧ again.2.files = outcome.2.files) := by
  intro outcome canonical refused
  have hrun : outcome = (Formatting.run file check strict).run World.respond w := rfl
  refine ⟨fun hcheck => ?_, fun hr => ?_, fun hcheck hr => ?_, fun hok check' strict' hstrict => ?_⟩
  · by_cases hr : refused
    · obtain ⟨⟨message, e⟩, hfiles⟩ := Formatting.run_of_refuses hfile hr check
      refine ⟨hfiles, fun hok => ?_, fun hboth => absurd hr hboth.2⟩
      rw [hrun, e] at hok
      cases hok
    · rw [hrun, hcheck, Formatting.run_checks hfile hr]
      by_cases hsame : canonical = t
      · rw [if_pos hsame]
        exact ⟨rfl, fun _ => ⟨hsame, hr⟩, fun _ => rfl⟩
      · rw [if_neg hsame]
        exact ⟨rfl, nofun, fun hboth => absurd hboth.1 hsame⟩
  · exact Formatting.run_of_refuses hfile hr check
  · obtain ⟨w', e, hread, hothers⟩ := Formatting.run_formats hfile hw hr
    rw [hrun, hcheck, e]
    exact ⟨rfl, hread, hothers⟩
  · obtain ⟨hr, hread⟩ := Formatting.readFile_of_run hfile hw hok
    have hr' : ¬ Formatting.Refuses strict' t := fun hr' => hr ⟨hstrict hr'.1, hr'.2⟩
    intro again
    have hagain : again = (.ok (), outcome.2) := by
      have hkept := Formatting.run_eq (w := outcome.2) hread check' strict'
      rw [Formatting.judge_render hr'] at hkept
      exact hkept
    rw [hagain]
    exact ⟨rfl, rfl⟩

/-- A file is formatted for a careful reader, who then finds nothing to do. -/
theorem execute_format_tidied :
    let t : Text := "## 1.0.0\n### Bugs\n* One (#1)\n### Docs\n### Bugs\n  * Two\n"
    let file : Text := "docs/../docs/History.markdown"
    let w : World :=
      ⟨[(["docs", "History.markdown"], .file (Text.toBytes t)), (["a"], .directory)], [], [], none,
        [], []⟩
    let outcome := (execute .default (.format file false true)).run World.respond w
    outcome.1 = .ok () ∧
      outcome.2.readFile file =
        some (Text.toBytes "## 1.0.0\n\n### Bugs\n\n  * One (#1)\n  * Two\n\n### Docs\n") ∧
      ((execute .default (.format file true true)).run World.respond outcome.2).1 = .ok () := by
  intro t file w outcome
  have hsound : w.Sound := by
    intro name content h
    have hentry : (name, FileState.file content) =
        (["docs".toList, "History.markdown".toList], .file (Text.toBytes t)) := by
      simpa [w] using h
    obtain rfl : name = _ := congrArg Prod.fst hentry
    decide +kernel
  have hfile : w.readFile file = some (Text.toBytes t) := by decide +kernel
  have hviolations : ¬ (true = true ∧ Changelog.violations t ≠ []) := by decide +kernel
  have hcanonical : (Changelog.parse t).render =
      "## 1.0.0\n\n### Bugs\n\n  * One (#1)\n  * Two\n\n### Docs\n" := by
    decide +kernel
  obtain ⟨-, -, hformats, hagain⟩ := execute_format .default hsound hfile false true
  obtain ⟨hok, hread, -⟩ := hformats rfl hviolations
  rw [hcanonical] at hread
  exact ⟨hok, hread, (hagain hok true true fun _ => rfl).1⟩

end Command

end MergeScribe
