import MergeScribe.Proofs.Config.Filing
import MergeScribe.Proofs.Handler.Course
import MergeScribe.Proofs.History.Twice

/-!
# Delivering a comment again

GitHub may deliver an event more than once, and a merge that went through once may go through again.
What keeps the changelog from listing the change twice is the changelog itself. Main statements: once
a run has recorded the change, or found it recorded, the changelog lists it
(`Touches.recorded`); as long as it does, a run leaves all files alone (`Touches.of_recorded`); and
so does every run of the same event from then on, whatever else changes in between
(`handle_redelivered`).
-/

namespace MergeScribe

open Program Text

namespace Memory

/-- The changelog in a store, where the configuration says that it is. -/
def changelog? (m : Memory) (config : Config) : Option StoredFile :=
  m.file? config.history.path config.history.branch

theorem changelog?_of_files {m m' : Memory} (h : m'.files = m.files) (config : Config) :
    m'.changelog? config = m.changelog? config :=
  congrArg (List.lookup _) h

end Memory

namespace Merge

/-! ## 1. The loop and a changelog that lists the change -/

/-- Whether the changelog in a store lists a pull request in a section. -/
def listedIn (config : Config) (sectionName : Text) (number : Nat) (m : Memory) : Bool :=
  lists (textOf ((m.changelog? config).map StoredFile.contents)) sectionName number

theorem listedIn_of_changelog {config : Config} {sectionName : Text} {number : Nat} {m m' : Memory}
    (h : m'.changelog? config = m.changelog? config) :
    listedIn config sectionName number m' = listedIn config sectionName number m := by
  unfold listedIn
  rw [h]

section Loop

variable {config : Config} {r : RepositoryId} {pr : PullRequest} {sectionName : Text} {left : Nat}
  {m m' : Memory} {exchanges : List (Exchange GitHub)} {outcome : StepOutcome}

/-- **A loop that did not fail leaves a changelog that lists the change**: it entered the change,
or found it there. -/
theorem Attempts.leaves_listed (hs : sectionName = noSection ∨ Phrase sectionName)
    (hb : isBlank pr.title = false) (hl : '\n' ∉ pr.title)
    (h : Attempts Memory.respond config r pr sectionName left m exchanges outcome m')
    (ho : outcome.isFailed = false) : listedIn config sectionName pr.number m' = true := by
  -- only the last attempt counts: the ones before it lost their race and wrote nothing
  induction h with
  | exhausted => cases ho
  | unread read => cases ho
  | refused h hc => cases ho
  | listed read h =>
      obtain ⟨hf, -, hcurrent⟩ := Memory.fetched read
      rw [hcurrent _ rfl, ← hf] at h
      exact h
  | written h =>
      obtain ⟨landed, f, -, -, hok, -⟩ := h.leaves
      unfold listedIn Memory.changelog?
      rw [hok _ rfl]
      exact lists_addMerge _ pr.number hs hl hb
  | lost h hc rest ih => exact ih ho

/-- An attempt comes to a write only where the change is not listed. -/
theorem Tries.not_listedIn {current : Option FileContent} {answer : Except Failure Text}
    (h : Tries Memory.respond config r pr sectionName current answer m m') :
    listedIn config sectionName pr.number m = false := by
  obtain ⟨read, fresh, -⟩ := h
  obtain ⟨-, -, hcurrent⟩ := Memory.fetched read
  rw [hcurrent current rfl] at fresh
  exact fresh

/-- **A loop that finds the change listed only reads.** -/
theorem Attempts.of_listedIn
    (h : Attempts Memory.respond config r pr sectionName left m exchanges outcome m')
    (hlisted : listedIn config sectionName pr.number m = true) :
    (∀ x ∈ exchanges, x.isUpdate = false) ∧ m'.files = m.files ∧ outcome.isDone = false := by
  have hread {answer : Except Failure (Option FileContent)}
      (read : Memory.respond ⟨r, .fetchFile config.history.path config.history.branch⟩ m =
        (answer, m')) : m'.files = m.files :=
    Memory.files_respond read nofun
  have hnot {current : Option FileContent} {answer : Except Failure Text} {m₁ : Memory}
      (h : Tries Memory.respond config r pr sectionName current answer m m₁) : False := by
    rw [h.not_listedIn] at hlisted
    cases hlisted
  cases h with
  | exhausted => exact ⟨by simp, rfl, rfl⟩
  | unread read => exact ⟨by simp, hread read, rfl⟩
  | listed read h => exact ⟨by simp, hread read, rfl⟩
  | written h => exact (hnot h).elim
  | refused h hc => exact (hnot h).elim
  | lost h hc rest => exact (hnot h).elim

end Loop

/-! ## 2. What a run does to files -/

section Touches

variable (config : Config) (event : IssueComment)

/-- What a run of the handler does to files: nothing, and then nothing is recorded, or what the loop
does, on the pull request that it found and in the section that the comment asks for. -/
inductive Touches : Memory → List (Exchange GitHub) → Verdict MergeReport → Memory → Prop
  | nothing {m m' : Memory} {exchanges : List (Exchange GitHub)} {verdict : Verdict MergeReport}
      (quiet : ∀ x ∈ exchanges, x.isUpdate = false) (kept : m'.files = m.files)
      (unrecorded : ∀ report, verdict = .ok (.handled report) → report.history.isFailed = true) :
      Touches m exchanges verdict m'
  | loop {m m₁ m' : Memory} {before exchanges : List (Exchange GitHub)} {report : MergeReport}
      {pr : PullRequest} {directive : Directive}
      (found : Directive.find? event.body = some directive)
      (pull : m.pullRequests.find? (fun p => p.number == event.number) = some pr)
      (quiet : ∀ x ∈ before, x.isUpdate = false) (kept : m₁.files = m.files)
      (runs : Attempts Memory.respond config event.repository.id pr
        (config.resolveSection directive event.labels) (attempts config) m₁ exchanges
        report.history m') :
      Touches m (before ++ exchanges) (.ok (.handled report)) m'

theorem isUpdate_eq_false {x : Exchange GitHub} {kinds : List Method} (h : OfKind kinds x.call)
    (hk : .updateFile ∉ kinds) : x.isUpdate = false := by
  obtain ⟨⟨r, o⟩, answer⟩ := x
  cases o with
  | updateFile update => exact absurd h hk
  | _ => rfl

/-- A program that makes no writes touches no files. -/
theorem files_run_of_only {α : Type} {p : Program GitHub α} {kinds : List Method}
    (h : Only (OfKind kinds) p) (hk : .updateFile ∉ kinds) (m : Memory) :
    (p.run Memory.respond m).2.files = m.files :=
  h.run_eq (fun _ _ hc => Memory.files_respond rfl fun e => hk (e ▸ hc)) m

variable {config event}

/-- A call that is no write may come before. -/
theorem Touches.cons {c : GitHubCall} {answer : Except Failure c.operation.Result}
    {m₀ m m' : Memory} {exchanges : List (Exchange GitHub)} {verdict : Verdict MergeReport}
    (hm : Memory.respond c m₀ = (answer, m)) (hc : c.operation.method ≠ .updateFile)
    (h : Touches config event m exchanges verdict m') :
    Touches config event m₀ (⟨c, answer⟩ :: exchanges) verdict m' := by
  have hfiles := Memory.files_respond hm hc
  have hpulls := Memory.pullRequests_respond hm
  have hquiet : Exchange.isUpdate ⟨c, answer⟩ = false :=
    isUpdate_eq_false (List.mem_singleton.mpr rfl) (by simpa using Ne.symm hc)
  cases h with
  | nothing quiet kept unrecorded =>
      exact .nothing (List.forall_mem_cons.mpr ⟨hquiet, quiet⟩) (kept.trans hfiles) unrecorded
  | loop found pull quiet kept runs =>
      rw [hpulls] at pull
      rw [← List.cons_append]
      exact .loop found pull (List.forall_mem_cons.mpr ⟨hquiet, quiet⟩) (kept.trans hfiles) runs

variable (config)

/-- What follows the answer to the question for the pull request. -/
theorem touches_afterLookup {directive : Directive} {sectionName : Text} {m : Memory}
    (found : Directive.find? event.body = some directive)
    (filed : sectionName = config.resolveSection directive event.labels)
    (answer : Except Failure PullRequest)
    (pull : ∀ pr, answer = .ok pr →
      m.pullRequests.find? (fun p => p.number == event.number) = some pr) :
    let next := afterLookup config event sectionName answer
    Touches config event m (next.transcript Memory.respond m)
      (reported event sectionName (next.run Memory.respond m).1)
      (next.run Memory.respond m).2 := by
  intro next
  cases answer with
  | error failure =>
      have honly : Only (OfKind [.addLabels]) next :=
        (only_applyLabels ..).bind fun _ => .done _
      have hrecorded : (next.run Memory.respond m).1.2.2 = unfetched failure :=
        congrArg (fun x => x.1.2.2) (run_bind Memory.respond
          (fun labelled => .done (unfetched failure, labelled, unfetched failure))
          (applyLabels config event.repository.id event.number sectionName) m)
      refine .nothing (fun x hx => ?_) (files_run_of_only honly (by decide) m) fun report e => ?_
      · exact isUpdate_eq_false (honly.of_mem_transcript _ hx) (by decide)
      · cases e
        show StepOutcome.isFailed (next.run Memory.respond m).1.2.2 = true
        rw [hrecorded]
        rfl
  | ok pr =>
      let tidying := tidy config event.repository.id pr event.number sectionName
        (defaultBranchOf config event)
      have honly : Only (OfKind [.deleteBranch, .addLabels]) tidying := only_tidy ..
      have hquiet : ∀ x ∈ tidying.transcript Memory.respond m, x.isUpdate = false :=
        fun x hx => isUpdate_eq_false (honly.of_mem_transcript _ hx) (by decide)
      have hkept := files_run_of_only honly (by decide) m
      have hnext : next = tidying.bind fun tidied =>
        (recordHistory config event.repository.id pr sectionName).bind fun recorded =>
          .done (tidied.1, tidied.2, recorded) := rfl
      rw [hnext, transcript_bind, transcript_bind, run_bind, run_bind]
      show Touches config event m (_ ++ (_ ++ [])) _ _
      rw [List.append_nil]
      subst filed
      exact .loop found (pull pr rfl) hquiet hkept (attempts_run ..)

theorem touches_afterMerge {directive : Directive} {sectionName : Text}
    (found : Directive.find? event.body = some directive)
    (filed : sectionName = config.resolveSection directive event.labels) (m : Memory) :
    Touches config event m ((afterMerge config event sectionName).transcript Memory.respond m)
      (reported event sectionName ((afterMerge config event sectionName).run Memory.respond m).1)
      ((afterMerge config event sectionName).run Memory.respond m).2 := by
  let P := fun exchanges outcomes m' =>
    Touches config event m exchanges (reported event sectionName outcomes) m'
  rw [afterMerge_eq]
  rcases asked : Memory.respond ⟨event.repository.id, .fetchPullRequest event.number⟩ m with
    ⟨answer, m₁⟩
  refine ask_elim (P := P) asked rfl (.cons asked nofun ?_)
  refine touches_afterLookup config found filed answer fun pr e => ?_
  rw [Memory.pullRequests_respond asked]
  exact Memory.fetchedPullRequest (e ▸ asked)

variable {config}

theorem Course.touches {m m' : Memory} {exchanges : List (Exchange GitHub)}
    {verdict : Verdict MergeReport}
    (h : Course Memory.respond config event m exchanges verdict m') :
    Touches config event m exchanges verdict m' := by
  cases h with
  | passedOver h => exact .nothing (by simp) rfl nofun
  | turnedDown h asked low => exact .cons asked nofun (.nothing (by simp) rfl nofun)
  | unmerged h asked enough tried failed =>
      exact .cons asked nofun (.cons tried nofun (.nothing (by simp) rfl nofun))
  | merged found onPull filed asked enough tried went goesOn =>
      subst goesOn
      exact .cons asked nofun (.cons tried nofun (touches_afterMerge config found filed _))

end Touches

/-! ## 3. Deliveries -/

section Deliveries

variable {config : Config} {event : IssueComment} {m m' : Memory}
  {exchanges : List (Exchange GitHub)} {verdict : Verdict MergeReport} {report : MergeReport}

/-- Whether the changelog in a store lists the pull request of a comment where the comment asks for
it to be listed. -/
def Recorded (config : Config) (event : IssueComment) (m : Memory) : Prop :=
  ∀ directive, Directive.find? event.body = some directive →
    listedIn config (config.resolveSection directive event.labels) event.number m = true

theorem number_eq_of_find? {pulls : List PullRequest} {number : Nat} {pr : PullRequest}
    (h : pulls.find? (fun p => p.number == number) = some pr) : pr.number = number := by
  simpa using List.find?_some h

/-- **A run that did not fail to record the change leaves it recorded.** -/
theorem Touches.recorded
    (htable : ∀ row ∈ config.categories, row.sectionName = noSection ∨ Phrase row.sectionName)
    (htitle : ∀ pr, m.pullRequests.find? (fun p => p.number == event.number) = some pr →
      isBlank pr.title = false ∧ '\n' ∉ pr.title)
    (h : Touches config event m exchanges verdict m') (hv : verdict = .ok (.handled report))
    (hr : report.history.isFailed = false) : Recorded config event m' := by
  cases h with
  | nothing quiet kept unrecorded =>
      rw [unrecorded report hv] at hr
      cases hr
  | loop found pull quiet kept runs =>
      cases hv
      intro directive hd
      cases found.symm.trans hd
      obtain ⟨hb, hl⟩ := htitle _ pull
      rw [← number_eq_of_find? pull]
      exact runs.leaves_listed (Config.resolveSection_filed hd event.labels htable) hb hl hr

/-- **As long as the change is recorded, a run leaves all files alone.** -/
theorem Touches.of_recorded (h : Touches config event m exchanges verdict m')
    (hrecorded : Recorded config event m) :
    (∀ x ∈ exchanges, x.isUpdate = false) ∧ m'.files = m.files ∧
      ∀ report, verdict = .ok (.handled report) → report.history.isDone = false := by
  cases h with
  | nothing quiet kept unrecorded =>
      refine ⟨quiet, kept, fun report hv => ?_⟩
      have hfailed := unrecorded report hv
      cases hh : report.history with
      | done =>
          rw [hh] at hfailed
          cases hfailed
      | skipped | failed => rfl
  | loop found pull quiet kept runs =>
      have hlisted := hrecorded _ found
      rw [← number_eq_of_find? pull,
        ← listedIn_of_changelog (Memory.changelog?_of_files kept config)] at hlisted
      obtain ⟨hreads, hfiles, hdone⟩ := runs.of_listedIn hlisted
      refine ⟨fun x hx => ?_, hfiles.trans kept, fun report hv => ?_⟩
      · exact (List.mem_append.mp hx).elim (quiet x) (hreads x)
      · cases hv
        exact hdone

/-- What a store may become after a run: anything may change in it but the changelog, and the event
may be delivered again. -/
inductive Later (config : Config) (event : IssueComment) (m : Memory) : Memory → Prop
  | now : Later config event m m
  | changed {m₁ m₂ : Memory} (h : Later config event m m₁)
      (kept : m₂.changelog? config = m₁.changelog? config) : Later config event m m₂
  | delivered {m₁ : Memory} (h : Later config event m m₁) :
      Later config event m ((handle config event).run Memory.respond m₁).2

theorem Recorded.of_changelog (h : Recorded config event m)
    (hm : m'.changelog? config = m.changelog? config) : Recorded config event m' :=
  fun directive hd => (listedIn_of_changelog hm).trans (h directive hd)

/-- **From when the change is recorded, the changelog stays.** -/
theorem Later.changelog_eq (hrecorded : Recorded config event m) (h : Later config event m m') :
    m'.changelog? config = m.changelog? config := by
  induction h with
  | now => rfl
  | changed h kept ih => exact kept.trans ih
  | @delivered m₁ h ih =>
      -- the change is still recorded when the event is delivered, since the changelog is the same
      have hfiles := ((handle_course Memory.respond config event m₁).touches.of_recorded
        (hrecorded.of_changelog ih)).2.1
      exact (Memory.changelog?_of_files hfiles config).trans ih

end Deliveries

/-- **A change is recorded once, however often its event is delivered.** Take any run that reports
the change recorded, or found recorded, when the sections of the table can be headings and the pull
request has some title on one line. Then every later run of the same event, whatever else changed in
between, the title among it, makes no write, leaves every file as it is, and does not report the
change recorded once more. -/
theorem handle_redelivered (config : Config) (event : IssueComment) (m : Memory)
    {report : MergeReport}
    (htable : ∀ row ∈ config.categories, row.sectionName = noSection ∨ Phrase row.sectionName)
    (htitle : ∀ pr, m.pullRequests.find? (fun p => p.number == event.number) = some pr →
      isBlank pr.title = false ∧ '\n' ∉ pr.title)
    (hfirst : ((handle config event).run Memory.respond m).1 = .ok (.handled report))
    (hhistory : report.history.isFailed = false) {m' : Memory}
    (hlater : Later config event ((handle config event).run Memory.respond m).2 m') :
    let exchanges := (handle config event).transcript Memory.respond m'
    let verdict := ((handle config event).run Memory.respond m').1
    let m'' := ((handle config event).run Memory.respond m').2
    (∀ x ∈ exchanges, x.isUpdate = false) ∧ m''.files = m'.files ∧
      m''.changelog? config = ((handle config event).run Memory.respond m).2.changelog? config ∧
      ∀ report', verdict = .ok (.handled report') →
        (∃ reason, report'.history = .skipped reason) ∨
          ∃ message, report'.history = .failed message := by
  have hrecorded := (handle_course Memory.respond config event m).touches.recorded htable htitle
    hfirst hhistory
  have hsame := hlater.changelog_eq hrecorded
  obtain ⟨hquiet, hfiles, hdone⟩ :=
    (handle_course Memory.respond config event m').touches.of_recorded (hrecorded.of_changelog hsame)
  refine ⟨hquiet, hfiles, (Memory.changelog?_of_files hfiles config).trans hsame,
    fun report' hv => ?_⟩
  have hnot := hdone report' hv
  cases hh : report'.history with
  | done =>
      rw [hh] at hnot
      cases hnot
  | skipped reason => exact .inl ⟨reason, rfl⟩
  | failed message => exact .inr ⟨message, rfl⟩

/-- A fix that is merged on command is recorded by the first delivery. Before the second, its title
changes. -/
theorem handle_redelivered_renamed :
    let repository : EventRepository := ⟨"jekyll", "jekyll", none⟩
    let event : IssueComment := ⟨some "created", 7, true, [], "@bot: merge +bug", "parkr", repository⟩
    let pr : PullRequest := ⟨7, "Fix <title>", "fix", none, "master", ""⟩
    let m : Memory :=
      { Memory.empty with permissions := [("parkr", .admin)], pullRequests := [pr] }
    let m₁ := ((handle .default event).run Memory.respond m).2
    let m₂ : Memory := { m₁ with pullRequests := [{ pr with title := "Fix titles" }] }
    ((handle .default event).run Memory.respond m).1 = .ok (.handled ⟨"jekyll/jekyll#7",
        "Bug Fixes", .skipped "head branch is in a fork", .done, .done⟩) ∧
      ((handle .default event).run Memory.respond m₂).2.files = m₂.files := by
  intro repository event pr m m₁ m₂
  have hfirst : ((handle .default event).run Memory.respond m).1 =
      .ok (.handled ⟨"jekyll/jekyll#7", "Bug Fixes", .skipped "head branch is in a fork", .done,
        .done⟩) := by
    decide +kernel
  have htitle : ∀ pr', m.pullRequests.find? (fun p => p.number == event.number) = some pr' →
      isBlank pr'.title = false ∧ '\n' ∉ pr'.title := by
    intro pr' h
    cases h
    decide +kernel
  have htable : ∀ row ∈ Config.default.categories,
      row.sectionName = noSection ∨ Phrase row.sectionName := by
    decide +kernel
  -- for any store, since the one in question would be computed
  have hkept (n : Memory) (pulls : List PullRequest) :
      ({ n with pullRequests := pulls } : Memory).changelog? .default = n.changelog? .default := rfl
  have hlater : Later .default event m₁ m₂ := .changed .now (hkept m₁ _)
  have hall := handle_redelivered .default event m htable htitle hfirst rfl hlater
  exact ⟨hfirst, hall.2.1⟩

end Merge

end MergeScribe
