import Mathlib.Data.List.Nodup
import MergeScribe.Proofs.Handler.Course
import MergeScribe.Proofs.Handler.Parts

/-!
# The steps after a merge are independent

Once a pull request is merged and found, its branch is deleted, it gets its labels and the change is
recorded, by steps that ask about parts of their own. Main statements: the handler takes the steps
in one order (`Session.handle_takes`), and every other order and every interleaving of them comes to
the same outcomes, the same store and the same questions of each step; what two runs of the handler
do differs in the outcome and the questions of one step only, when the stores that they begin with
differ in the part of that step only (`handle_alike`). Together: `steps_independent`.
-/

namespace MergeScribe

open Program

namespace Merge

/-! ## 1. The steps as programs -/

theorem Step.ofCall?_of_kind {kinds : List Method} {step : Step}
    (h : ∀ method ∈ kinds, Step.ofMethod? method = some step) (c : GitHubCall)
    (hc : OfKind kinds c) : Step.ofCall? c = some step :=
  h _ hc

section Steps

variable (config : Config) (event : IssueComment) (sectionName : Text) (pr : PullRequest)

/-- The program of a step. -/
def program : Step → Program GitHub StepOutcome
  | .deletion => deleteBranch config event.repository.id pr (defaultBranchOf config event)
  | .labelling => applyLabels config event.repository.id event.number sectionName
  | .recording => recordHistory config event.repository.id pr sectionName

/-- **Each step makes requests of its own kinds only.** -/
theorem only_program : (step : Step) →
    Only (fun c => Step.ofCall? c = some step) (program config event sectionName pr step)
  | .deletion => (only_deleteBranch ..).mono (Step.ofCall?_of_kind (by decide))
  | .labelling => (only_applyLabels ..).mono (Step.ofCall?_of_kind (by decide))
  | .recording => (only_updateHistory ..).mono (Step.ofCall?_of_kind (by decide))

variable {σ : Type} (respond : Responder GitHub σ)

/-- What follows the lookup of the pull request is the steps in some order. -/
theorem inOrder_afterLookup (s : σ) :
    let outcomes := ((afterLookup config event sectionName (.ok pr)).run respond s).1
    (inOrder (program config event sectionName pr) Step.all).run respond s =
        ([(.deletion, outcomes.1), (.labelling, outcomes.2.1), (.recording, outcomes.2.2)],
          ((afterLookup config event sectionName (.ok pr)).run respond s).2) ∧
      (inOrder (program config event sectionName pr) Step.all).transcript respond s =
        (afterLookup config event sectionName (.ok pr)).transcript respond s := by
  simp only [Step.all, run_inOrder_cons, transcript_inOrder_cons, afterLookup, tidy, run_bind,
    transcript_bind, program]
  simp [inOrder, run, transcript]

end Steps

/-! ## 2. Sessions -/

/-- The outcome of a step in a report. -/
def outcome (r : MergeReport) : Step → StepOutcome
  | .deletion => r.deleteBranch
  | .labelling => r.labels
  | .recording => r.history

section Sessions

variable (config : Config) (event : IssueComment)

/-- The store after the questions that come before the steps: for the permission, for the merge and
for the pull request. -/
def afterFront (m : Memory) : Memory :=
  let asked := (Memory.respond (permissionCall event) m).2
  let merged := (Memory.respond (mergeCall config event) asked).2
  (Memory.respond ⟨event.repository.id, .fetchPullRequest event.number⟩ merged).2

/-- A store in which a comment has the pull request merged and found. -/
structure Session (m : Memory) where
  directive : Directive
  pr : PullRequest
  found : Directive.find? event.body = some directive
  onPull : event.isPullRequest = true
  permitted : Permits (Memory.respond (permissionCall event) m).1
  merged : Merges (Memory.respond (mergeCall config event)
    (Memory.respond (permissionCall event) m).2).1
  looked : (Memory.respond ⟨event.repository.id, .fetchPullRequest event.number⟩
    (Memory.respond (mergeCall config event)
      (Memory.respond (permissionCall event) m).2).2).1 = .ok pr

variable {config event} {m : Memory}

namespace Session

/-- The section that the change is filed under. -/
def sectionName (session : Session config event m) : Text :=
  config.resolveSection session.directive event.labels

/-- The steps of a session. -/
def steps (session : Session config event m) : Step → Program GitHub StepOutcome :=
  program config event session.sectionName session.pr

/-- What is asked before the steps. -/
def front (session : Session config event m) : List (Exchange GitHub) :=
  let asked := Memory.respond (permissionCall event) m
  [.permission event asked.1,
    .merge config event (Memory.respond (mergeCall config event) asked.2).1,
    ⟨⟨event.repository.id, .fetchPullRequest event.number⟩, .ok session.pr⟩]

/-- What comes before the steps belongs to none of them. -/
theorem about_front (session : Session config event m) (step : Step) :
    about Step.ofCall? (some step) session.front = [] := by
  cases step <;> rfl

/-- **In a session the handler comes to the steps**, takes them in an order and reports on them. -/
theorem handle_takes (session : Session config event m) :
    let taken := (inOrder session.steps Step.all).run Memory.respond (afterFront config event m)
    ∃ report, ((handle config event).run Memory.respond m).1 = .ok (.handled report) ∧
      taken.1 = Step.all.map (fun step => (step, outcome report step)) ∧
      taken.2 = ((handle config event).run Memory.respond m).2 ∧
      (handle config event).transcript Memory.respond m = session.front ++
        (inOrder session.steps Step.all).transcript Memory.respond (afterFront config event m) := by
  obtain ⟨hrun, htranscript⟩ := inOrder_afterLookup config event session.sectionName session.pr
    Memory.respond (afterFront config event m)
  rw [handle_eq config event session.found session.onPull]
  simp only [run, transcript, afterPermission_of_permits session.permitted,
    afterMergeCall_of_merges session.merged, afterMerge_eq, Program.bind, session.looked, run_bind,
    transcript_bind, List.append_nil]
  refine ⟨_, rfl, ?_⟩
  unfold steps
  rw [hrun, htranscript]
  exact ⟨rfl, rfl, rfl⟩

end Session

end Sessions

/-! ## 3. Two runs of the handler -/

/-- Verdicts that tell the same, but for the outcome of one step. -/
inductive SameBut (step : Step) : Verdict MergeReport → Verdict MergeReport → Prop
  | same (verdict : Verdict MergeReport) : SameBut step verdict verdict
  | handled {r r' : MergeReport} (reference : r.reference = r'.reference)
      (sectionName : r.sectionName = r'.sectionName)
      (outcomes : ∀ other, other ≠ step → outcome r other = outcome r' other) :
      SameBut step (.ok (.handled r)) (.ok (.handled r'))

section TwoRuns

variable {σ : Type} {respond : Responder GitHub σ} {agree : Option Step → σ → σ → Prop}
  (d : Divides respond Step.ofCall? agree) (config : Config) (event : IssueComment)
  (sectionName : Text) (step : Step)

/-- Reports of the same session, when the outcomes of all steps but one are the same. -/
theorem sameBut_reported {outcomes outcomes' : StepOutcome × StepOutcome × StepOutcome}
    (hdeletion : .deletion ≠ step → outcomes.1 = outcomes'.1)
    (hlabelling : .labelling ≠ step → outcomes.2.1 = outcomes'.2.1)
    (hrecording : .recording ≠ step → outcomes.2.2 = outcomes'.2.2) :
    SameBut step (reported event sectionName outcomes) (reported event sectionName outcomes') := by
  refine .handled rfl rfl fun other hother => ?_
  cases other with
  | deletion => exact hdeletion hother
  | labelling => exact hlabelling hother
  | recording => exact hrecording hother

include d in
/-- Two runs of what follows the lookup, from states that differ in the part of one step. -/
theorem afterLookup_alike (answer : Except Failure PullRequest) :
    let reporting := (afterLookup config event sectionName answer).bind fun outcomes =>
      .done (reported event sectionName outcomes)
    Alike respond Step.ofCall? agree step (SameBut step) reporting reporting := by
  intro reporting
  cases answer with
  | error failure =>
      have hlabelling : Only (fun c => Step.ofCall? c = some .labelling)
          (applyLabels config event.repository.id event.number sectionName) :=
        (only_applyLabels ..).mono (Step.ofCall?_of_kind (by decide))
      have hassoc : reporting = _ := bind_assoc _ _ _
      rw [hassoc]
      refine .step d hlabelling fun labelled labelled' hl => ?_
      exact .done (sameBut_reported event sectionName step (fun _ => rfl) hl fun _ => rfl)
  | ok pr =>
      have honly := only_program config event sectionName pr
      have hassoc : reporting = (program config event sectionName pr .deletion).bind fun deleted =>
          (program config event sectionName pr .labelling).bind fun labelled =>
            (program config event sectionName pr .recording).bind fun recorded =>
              .done (reported event sectionName (deleted, labelled, recorded)) := by
        show ((Program.bind (Program.bind _ _) _).bind _) = _
        simp only [bind_assoc, Program.bind]
        rfl
      rw [hassoc]
      refine .step d (honly .deletion) fun deleted deleted' hd => ?_
      refine .step d (honly .labelling) fun labelled labelled' hl => ?_
      refine .step d (honly .recording) fun recorded recorded' hr => ?_
      exact .done (sameBut_reported event sectionName step hd hl hr)

include d in
/-- **Two runs of the handler, from states that differ in the part of one step**, differ in the
outcome of that step and in what it asks, and in nothing else. -/
theorem handle_alike :
    Alike respond Step.ofCall? agree step (SameBut step) (handle config event)
      (handle config event) := by
  have hfront {c : GitHubCall} (hc : Step.ofCall? c = none) : Step.ofCall? c ≠ some step := by
    rw [hc]
    exact nofun
  cases h : event.asksForMerge with
  | false =>
      obtain ⟨reason, e⟩ := handle_of_not_asks config event h
      rw [e]
      exact .done (.same _)
  | true =>
      obtain ⟨directive, found, onPull⟩ := (asksForMerge_iff event).mp h
      rw [handle_eq config event found onPull]
      refine .ask d (hfront rfl) fun permission => ?_
      by_cases enough : Permits permission
      · rw [afterPermission_of_permits enough]
        refine .ask d (hfront rfl) fun merge => ?_
        by_cases went : Merges merge
        · rw [afterMergeCall_of_merges went, afterMerge_eq]
          exact .ask d (hfront rfl) fun answer => afterLookup_alike d config event _ step answer
        · obtain ⟨message, e⟩ : ∃ message, afterMergeCall config event _ merge =
              .done (unmerged event message) := afterMergeCall_of_not_merges went
          rw [e]
          exact .done (.same _)
      · rw [afterPermission_of_not_permits enough]
        exact .done (.same _)

end TwoRuns

/-! ## 4. Independence -/

section Independence

variable {config : Config} {event : IssueComment} {m : Memory}

/-- Every way to run the steps of a session at the same time comes to what the handler reports. -/
theorem Session.interleaved (session : Session config event m) {report : MergeReport}
    (hreport : ((handle config event).run Memory.respond m).1 = .ok (.handled report))
    {exchanges : List (Exchange GitHub)} {outcomes : Step → StepOutcome} {m' : Memory}
    (h : Interleaved Memory.respond session.steps (afterFront config event m) exchanges outcomes
      m') :
    outcomes = outcome report ∧ m' = ((handle config event).run Memory.respond m).2 ∧
      ∀ step, about Step.ofCall? (some step) exchanges =
        about Step.ofCall? (some step) ((handle config event).transcript Memory.respond m) := by
  obtain ⟨report', hreport', htaken, hstore, htranscript⟩ := session.handle_takes
  obtain rfl : report = report' := by
    cases hreport.symm.trans hreport'
    rfl
  have hall : ∀ step, step ∉ Step.all → session.steps step = .done (outcome report step) :=
    fun step hs => absurd (by cases step <;> decide) hs
  have hhandler := interleaved_inOrder (by decide) hall htaken
  rw [hstore] at hhandler
  obtain ⟨houtcomes, habout, hagree⟩ :=
    hhandler.unique Memory.divides (only_program config event _ _) h
  refine ⟨houtcomes, Memory.eq_of_agreeOn hagree, fun step => ?_⟩
  rw [habout, htranscript, about_append, session.about_front, List.nil_append]

/-- **The steps after a merge are independent.** In every order, and at the same time, they come to
the same outcomes, leave the same store and ask each for itself the same, which is what the handler
reports, leaves and asks. And if the store differs in what has to do with one of the steps, then the
other two still come to the same outcomes, ask the same and do the same to what has to do with
them. -/
theorem steps_independent (session : Session config event m) :
    let store := afterFront config event m
    let run := (handle config event).run Memory.respond m
    let exchanges := (handle config event).transcript Memory.respond m
    ∃ report, run.1 = .ok (.handled report) ∧
      (∀ order, order.Perm Step.all →
        (inOrder session.steps order).run Memory.respond store =
          (order.map fun step => (step, outcome report step), run.2) ∧
        ∀ step, about Step.ofCall? (some step)
            ((inOrder session.steps order).transcript Memory.respond store) =
          about Step.ofCall? (some step) exchanges) ∧
      (∀ exchanges' outcomes m',
        Interleaved Memory.respond session.steps store exchanges' outcomes m' →
          outcomes = outcome report ∧ m' = run.2 ∧
          ∀ step, about Step.ofCall? (some step) exchanges' =
            about Step.ofCall? (some step) exchanges) ∧
      ∀ step m', (∀ part, part ≠ some step → Memory.AgreeOn part m m') →
        let run' := (handle config event).run Memory.respond m'
        let exchanges' := (handle config event).transcript Memory.respond m'
        ∃ report', run'.1 = .ok (.handled report') ∧
          (∀ other, other ≠ step → outcome report' other = outcome report other ∧
            about Step.ofCall? (some other) exchanges' =
              about Step.ofCall? (some other) exchanges) ∧
          ∀ part, part ≠ some step → Memory.AgreeOn part run.2 run'.2 := by
  intro store run exchanges
  obtain ⟨report, hreport, -⟩ := session.handle_takes
  refine ⟨report, hreport, fun order hperm => ?_, fun _ _ _ h => session.interleaved hreport h,
    fun step m' hagree => ?_⟩
  · have hnodup : order.Nodup := hperm.nodup_iff.mpr (by decide)
    have hmem (step : Step) : step ∈ order := hperm.mem_iff.mpr (by cases step <;> decide)
    have : Nonempty StepOutcome := ⟨.done⟩
    obtain ⟨outcomes, hvalues⟩ := exists_values session.steps hnodup store
    obtain ⟨rfl, hstore, habout⟩ := session.interleaved hreport
      (interleaved_inOrder hnodup (fun step hs => absurd (hmem step) hs) hvalues)
    exact ⟨Prod.ext hvalues hstore, habout⟩
  · obtain ⟨hverdict, hbesides, hafter⟩ :=
      handle_alike Memory.divides config event step m m' hagree
    have hasked (other : Step) (hother : other ≠ step) :
        about Step.ofCall? (some other) ((handle config event).transcript Memory.respond m') =
          about Step.ofCall? (some other) exchanges := by
      have hne : some other ≠ some step := fun e => hother (Option.some.inj e)
      rw [← about_besides hne, ← hbesides, about_besides hne]
    rw [hreport] at hverdict
    generalize hverdict' : ((handle config event).run Memory.respond m').1 = verdict at hverdict
    cases hverdict with
    | same => exact ⟨report, hverdict', fun other hother => ⟨rfl, hasked other hother⟩, hafter⟩
    | handled _ _ outcomes =>
        exact ⟨_, hverdict',
          fun other hother => ⟨(outcomes other hother).symm, hasked other hother⟩, hafter⟩

/-- The branch may not be deleted in one of two stores. Labels and changelog do not notice. -/
theorem steps_independent_forbidden :
    let repository : EventRepository := ⟨"jekyll", "jekyll", none⟩
    let event : IssueComment :=
      ⟨some "created", 7, true, [], "@bot: merge +bug", "parkr", repository⟩
    let pr : PullRequest := ⟨7, "Fix <title>", "fix", some "jekyll", "master", ""⟩
    let m : Memory :=
      { Memory.empty with permissions := [("parkr", .admin)], pullRequests := [pr] }
    let m' := m.script .deleteBranch (some (.ofCause (.refused 403 "Forbidden")))
    ((handle .default event).run Memory.respond m').1 = .ok (.handled ⟨"jekyll/jekyll#7",
        "Bug Fixes", .failed "error deleting branch fix: Forbidden", .done, .done⟩) ∧
      ((handle .default event).run Memory.respond m').2.files =
        ((handle .default event).run Memory.respond m).2.files := by
  intro repository event pr m m'
  have hforbidden : ((handle .default event).run Memory.respond m').1 =
      .ok (.handled ⟨"jekyll/jekyll#7", "Bug Fixes",
        .failed "error deleting branch fix: Forbidden", .done, .done⟩) := by
    decide +kernel
  have hfound : Directive.find? event.body = some ⟨some "bug"⟩ := by decide +kernel
  let session : Session .default event m :=
    { directive := ⟨some "bug"⟩
      pr := pr
      found := hfound
      onPull := rfl
      permitted := .inr (.inr rfl)
      merged := ⟨_, rfl, rfl⟩
      looked := rfl }
  have hagree : ∀ part, part ≠ some .deletion → Memory.AgreeOn part m m' := by
    refine fun part hpart => ⟨fun method e => ?_, fun _ => ⟨rfl, rfl⟩,
      fun _ => ⟨rfl, rfl, rfl, rfl, rfl⟩⟩
    have hmethod : method ≠ .deleteBranch := fun h => hpart (by rw [← e, h]; rfl)
    exact (if_neg hmethod).symm
  obtain ⟨report, -, -, -, hother⟩ := steps_independent session
  obtain ⟨report', -, -, hafter⟩ := hother .deletion m' hagree
  have hfiles := (hafter (some .recording) (by decide)).files rfl
  exact ⟨hforbidden, hfiles.1.symm⟩

end Independence

end Merge

end MergeScribe
