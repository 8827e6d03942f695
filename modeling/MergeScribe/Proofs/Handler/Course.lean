import MergeScribe.Proofs.History.Attempts

/-!
# The course of a merge

The handler of comments, question by question. Like the loop that it ends in, it is taken apart into
what follows each answer. Main statements: there are four courses that it can take, namely to pass
the comment over, to turn its author down, to fail to merge, and to merge and go on to the steps
that follow (`handle_course`); these steps ask for the pull request first (`afterMerge_eq`), and they
make five kinds of request and no other (`only_afterMerge`).
-/

namespace MergeScribe

open Program

/-- Whether a comment asks for a merge: it has a directive and is on a pull request. -/
def IssueComment.asksForMerge (event : IssueComment) : Bool :=
  (Directive.find? event.body).isSome && event.isPullRequest

namespace Merge

/-! ## 1. Answers that let the handler go on -/

/-- A permission that is enough to merge. One that could not be looked up is not. -/
def Permits (permission : Except Failure Permission) : Prop :=
  permission = .ok .write ∨ permission = .ok .maintain ∨ permission = .ok .admin

/-- A merge that was carried out. A request for one may succeed without that. -/
def Merges (merge : Except Failure MergeResult) : Prop :=
  ∃ result, merge = .ok result ∧ result.merged = true

theorem permits_ok_iff {level : Permission} : Permits (.ok level) ↔ level.canPush = true := by
  cases level <;> simp [Permits, Permission.canPush]

theorem not_permits_error (failure : Failure) : ¬ Permits (.error failure) := by
  simp [Permits]

theorem merges_ok_iff {result : MergeResult} : Merges (.ok result) ↔ result.merged = true :=
  ⟨fun ⟨_, e, h⟩ => Except.ok.inj e ▸ h, fun h => ⟨result, rfl, h⟩⟩

theorem not_merges_error (failure : Failure) : ¬ Merges (.error failure) :=
  fun ⟨_, e, _⟩ => nomatch e

/-! ## 2. What follows each answer -/

section After

variable (config : Config) (event : IssueComment) (sectionName : Text)

/-- The question for the permission of the comment's author. -/
def permissionCall : GitHubCall :=
  ⟨event.repository.id, .fetchPermission event.login⟩

/-- The request for the merge. -/
def mergeCall : GitHubCall :=
  ⟨event.repository.id, .mergePullRequest event.number config.merge.method none
    (some ("Merge pull request " ++ Text.ofNat event.number))⟩

/-- The verdict on a comment by someone who may not push. -/
def turnedDown : Verdict MergeReport :=
  .error (.unauthorized event.login event.repository.id.fullName)

/-- The verdict when the merge failed. -/
def unmerged (message : Text) : Verdict MergeReport :=
  .error (.merge (eventReference event) message)

/-- The verdict when the merge was carried out, with the outcomes of the steps after it. -/
def reported (outcomes : StepOutcome × StepOutcome × StepOutcome) : Verdict MergeReport :=
  .ok (.handled ⟨eventReference event, sectionName, outcomes.1, outcomes.2.1, outcomes.2.2⟩)

/-- What follows the answer to the request for the merge. -/
def afterMergeCall : Except Failure MergeResult → Program GitHub (Verdict MergeReport)
  | .error failure => .done (unmerged event failure.describe)
  | .ok result =>
    if result.merged then
      (afterMerge config event sectionName).bind fun outcomes =>
        .done (reported event sectionName outcomes)
    else .done (unmerged event (result.message.getD "merge was not performed"))

/-- What follows the answer to the question for the permission. -/
def afterPermission : Except Failure Permission → Program GitHub (Verdict MergeReport)
  | .error _ => .done (turnedDown event)
  | .ok level =>
    if level.canPush then
      .ask (mergeCall config event) (afterMergeCall config event sectionName)
    else .done (turnedDown event)

theorem mergeAndReport_eq (directive : Directive) :
    mergeAndReport config event directive = .ask (mergeCall config event)
      (afterMergeCall config event (config.resolveSection directive event.labels)) := by
  refine congrArg (Program.ask _) (funext fun merge => ?_)
  cases merge with
  | error failure => rfl
  | ok result =>
      obtain ⟨merged, sha, message⟩ : MergeResult := result
      cases merged with
      | false => rfl
      | true => rfl

/-- **The handler asks for the permission first.** -/
theorem handle_eq {directive : Directive} (hd : Directive.find? event.body = some directive)
    (hp : event.isPullRequest = true) :
    handle config event = .ask (permissionCall event)
      (afterPermission config event (config.resolveSection directive event.labels)) := by
  unfold handle
  rw [hd, hp]
  refine congrArg (Program.ask _) (funext fun permission => ?_)
  cases permission with
  | error failure => rfl
  | ok level =>
      cases level with
      | none | read | triage => rfl
      | write | maintain | admin => exact mergeAndReport_eq config event directive

theorem handle_of_not_asks (h : event.asksForMerge = false) :
    ∃ reason, handle config event = .done (.ok (.notApplicable reason)) := by
  unfold handle
  cases hd : Directive.find? event.body with
  | none => exact ⟨_, rfl⟩
  | some directive =>
      have hp : event.isPullRequest = false := by simpa [IssueComment.asksForMerge, hd] using h
      rw [hp]
      exact ⟨_, rfl⟩

theorem asksForMerge_iff : event.asksForMerge = true ↔
    ∃ directive, Directive.find? event.body = some directive ∧ event.isPullRequest = true := by
  simp [IssueComment.asksForMerge, Option.isSome_iff_exists]

variable {config event sectionName}

theorem afterPermission_of_permits {permission : Except Failure Permission}
    (h : Permits permission) : afterPermission config event sectionName permission =
      .ask (mergeCall config event) (afterMergeCall config event sectionName) := by
  cases permission with
  | error failure => exact absurd h (not_permits_error failure)
  | ok level => exact if_pos (permits_ok_iff.mp h)

theorem afterPermission_of_not_permits {permission : Except Failure Permission}
    (h : ¬ Permits permission) :
    afterPermission config event sectionName permission = .done (turnedDown event) := by
  cases permission with
  | error failure => rfl
  | ok level => exact if_neg fun hl => h (permits_ok_iff.mpr hl)

theorem afterMergeCall_of_merges {merge : Except Failure MergeResult} (h : Merges merge) :
    afterMergeCall config event sectionName merge =
      (afterMerge config event sectionName).bind fun outcomes =>
        .done (reported event sectionName outcomes) := by
  cases merge with
  | error failure => exact absurd h (not_merges_error failure)
  | ok result => exact if_pos (merges_ok_iff.mp h)

theorem afterMergeCall_of_not_merges {merge : Except Failure MergeResult} (h : ¬ Merges merge) :
    ∃ message, afterMergeCall config event sectionName merge = .done (unmerged event message) := by
  cases merge with
  | error failure => exact ⟨_, rfl⟩
  | ok result => exact ⟨_, if_neg fun hr => h (merges_ok_iff.mpr hr)⟩

end After

end Merge

/-! ## 3. Courses -/

namespace Program.Exchange

/-- The question for the permission of a comment's author, and its answer. -/
def permission (event : IssueComment) (answer : Except Failure Permission) : Exchange GitHub :=
  ⟨Merge.permissionCall event, answer⟩

/-- The request for a merge, and its answer. -/
def merge (config : Config) (event : IssueComment) (answer : Except Failure MergeResult) :
    Exchange GitHub :=
  ⟨Merge.mergeCall config event, answer⟩

end Program.Exchange

namespace Merge

section Courses

variable {σ : Type} (respond : Responder GitHub σ) (config : Config) (event : IssueComment)

/-- What the handler does with a comment: from which state, in which exchanges, with which verdict
and to which state. -/
inductive Course : σ → List (Exchange GitHub) → Verdict MergeReport → σ → Prop
  | passedOver {s : σ} {reason : Text} (h : event.asksForMerge = false) :
      Course s [] (.ok (.notApplicable reason)) s
  | turnedDown {s s' : σ} {permission : Except Failure Permission}
      (h : event.asksForMerge = true)
      (asked : respond (permissionCall event) s = (permission, s')) (low : ¬ Permits permission) :
      Course s [.permission event permission] (turnedDown event) s'
  | unmerged {s s₁ s' : σ} {permission : Except Failure Permission}
      {merge : Except Failure MergeResult} {message : Text} (h : event.asksForMerge = true)
      (asked : respond (permissionCall event) s = (permission, s₁)) (enough : Permits permission)
      (tried : respond (mergeCall config event) s₁ = (merge, s')) (failed : ¬ Merges merge) :
      Course s [.permission event permission, .merge config event merge]
        (unmerged event message) s'
  | merged {s s₁ s₂ : σ} {permission : Except Failure Permission}
      {merge : Except Failure MergeResult} {directive : Directive} {sectionName : Text}
      {followUp : Program GitHub (StepOutcome × StepOutcome × StepOutcome)}
      (found : Directive.find? event.body = some directive) (onPull : event.isPullRequest = true)
      (filed : sectionName = config.resolveSection directive event.labels)
      (asked : respond (permissionCall event) s = (permission, s₁)) (enough : Permits permission)
      (tried : respond (mergeCall config event) s₁ = (merge, s₂)) (went : Merges merge)
      (goesOn : followUp = afterMerge config event sectionName) :
      Course s
        (.permission event permission :: .merge config event merge ::
          followUp.transcript respond s₂)
        (reported event sectionName (followUp.run respond s₂).1) (followUp.run respond s₂).2

/-- What the handler does from the merge on. -/
theorem course_merge {s s₁ : σ} {permission : Except Failure Permission} {directive : Directive}
    (found : Directive.find? event.body = some directive) (onPull : event.isPullRequest = true)
    (asked : respond (permissionCall event) s = (permission, s₁)) (enough : Permits permission) :
    let next : Program GitHub (Verdict MergeReport) := .ask (mergeCall config event)
      (afterMergeCall config event (config.resolveSection directive event.labels))
    Course respond config event s (.permission event permission :: next.transcript respond s₁)
      (next.run respond s₁).1 (next.run respond s₁).2 := by
  let P := fun exchanges => Course respond config event s (.permission event permission :: exchanges)
  rcases tried : respond (mergeCall config event) s₁ with ⟨merge, s₂⟩
  by_cases went : Merges merge
  · -- after the last step nothing is asked any more, only the report is put together
    have hcourse := Course.merged found onPull rfl asked enough tried went rfl
    refine ask_elim (P := P) tried (afterMergeCall_of_merges went) ?_
    rw [transcript_bind, run_bind]
    show Course respond config event s (_ :: _ :: (_ ++ [])) _ _
    rw [List.append_nil]
    exact hcourse
  · obtain ⟨message, e⟩ : ∃ message, afterMergeCall config event
        (config.resolveSection directive event.labels) merge = .done (unmerged event message) :=
      afterMergeCall_of_not_merges went
    exact ask_elim (P := P) tried e
      (.unmerged ((asksForMerge_iff event).mpr ⟨directive, found, onPull⟩) asked enough tried went)

/-- **A run of the handler takes one of four courses.** -/
theorem handle_course (s : σ) :
    Course respond config event s ((handle config event).transcript respond s)
      ((handle config event).run respond s).1 ((handle config event).run respond s).2 := by
  cases h : event.asksForMerge with
  | false =>
      obtain ⟨reason, e⟩ := handle_of_not_asks config event h
      rw [e]
      exact .passedOver h
  | true =>
      obtain ⟨directive, found, onPull⟩ := (asksForMerge_iff event).mp h
      rw [handle_eq config event found onPull]
      rcases asked : respond (permissionCall event) s with ⟨permission, s₁⟩
      by_cases enough : Permits permission
      · exact ask_elim (P := Course respond config event s) asked
          (afterPermission_of_permits enough)
          (course_merge respond config event found onPull asked enough)
      · exact ask_elim (P := Course respond config event s) asked
          (afterPermission_of_not_permits enough) (.turnedDown h asked enough)

end Courses

/-! ## 4. The steps after a merge -/

section Steps

variable (config : Config) (event : IssueComment) (r : RepositoryId) (pr : PullRequest)
  (number : Nat) (sectionName defaultBranch : Text)

/-- The steps before the changelog: the branch is deleted and the labels are added. -/
def tidy : Program GitHub (StepOutcome × StepOutcome) :=
  (deleteBranch config r pr defaultBranch).bind fun deleted =>
    (applyLabels config r number sectionName).bind fun labelled => .done (deleted, labelled)

/-- The branch that the event's repository has by default. -/
def defaultBranchOf : Text :=
  event.repository.defaultBranch.getD config.merge.fallbackBranch

def unfetched (failure : Failure) : StepOutcome :=
  .failed ("error getting PR info: " ++ failure.describe)

/-- What follows the answer to the question for the pull request. -/
def afterLookup : Except Failure PullRequest →
    Program GitHub (StepOutcome × StepOutcome × StepOutcome)
  | .error failure =>
    (applyLabels config event.repository.id event.number sectionName).bind fun labelled =>
      .done (unfetched failure, labelled, unfetched failure)
  | .ok pr =>
    (tidy config event.repository.id pr event.number sectionName
      (defaultBranchOf config event)).bind fun tidied =>
        (recordHistory config event.repository.id pr sectionName).bind fun recorded =>
          .done (tidied.1, tidied.2, recorded)

/-- **The steps after a merge ask for the pull request first.** -/
theorem afterMerge_eq : afterMerge config event sectionName =
    .ask ⟨event.repository.id, .fetchPullRequest event.number⟩
      (afterLookup config event sectionName) := by
  refine congrArg (Program.ask _) (funext fun answer => ?_)
  cases answer with
  | error failure => rfl
  | ok pr =>
      refine Eq.symm
        ((bind_assoc _ _ (deleteBranch config _ pr (defaultBranchOf config event))).trans ?_)
      exact congrArg (Program.bind _) (funext fun deleted => bind_assoc ..)

/-! ## 5. What the steps ask -/

/-- A call of one of some kinds. -/
def OfKind (kinds : List Method) (c : GitHubCall) : Prop :=
  c.operation.method ∈ kinds

theorem OfKind.mono {kinds more : List Method} (h : kinds ⊆ more) (c : GitHubCall)
    (hc : OfKind kinds c) : OfKind more c :=
  h hc

/-- The kinds of request that the steps after a merge make. -/
def followUps : List Method :=
  [.fetchPullRequest, .deleteBranch, .addLabels, .fetchFile, .updateFile]

theorem only_deleteBranch :
    Only (OfKind [.deleteBranch]) (deleteBranch config r pr defaultBranch) := by
  unfold deleteBranch
  split
  · exact .done _
  · refine .ask (.head _) fun answer => ?_
    cases answer with
    | error failure => exact .done _
    | ok deleted => exact .done _

theorem only_applyLabels : Only (OfKind [.addLabels]) (applyLabels config r number sectionName) := by
  unfold applyLabels
  split
  · exact .done _
  · refine .ask (.head _) fun answer => ?_
    cases answer with
    | error failure => exact .done _
    | ok labelled => exact .done _

theorem only_updateHistory : (left : Nat) →
    Only (OfKind [.fetchFile, .updateFile]) (updateHistory config r pr sectionName left)
  | 0 => .done _
  | left + 1 => by
      rw [updateHistory_succ]
      refine .ask (.head _) fun answer => ?_
      cases answer with
      | error failure => exact .done _
      | ok current =>
          show Only _ (if _ then _ else _)
          split
          · exact .done _
          · refine .ask ?_ fun written => ?_
            · exact List.Mem.tail _ (.head _)
            · cases written with
              | ok sha => exact .done _
              | error failure =>
                  show Only _ (if _ then _ else _)
                  split
                  · exact only_updateHistory left
                  · exact .done _

theorem only_tidy : Only (OfKind [.deleteBranch, .addLabels])
    (tidy config r pr number sectionName defaultBranch) :=
  ((only_deleteBranch ..).mono (OfKind.mono (by decide))).bind fun _ =>
    ((only_applyLabels ..).mono (OfKind.mono (by decide))).bind fun _ => .done _

theorem only_afterLookup (answer : Except Failure PullRequest) :
    Only (OfKind [.deleteBranch, .addLabels, .fetchFile, .updateFile])
      (afterLookup config event sectionName answer) := by
  cases answer with
  | error failure =>
      exact ((only_applyLabels ..).mono (OfKind.mono (by decide))).bind fun _ => .done _
  | ok pr =>
      exact ((only_tidy ..).mono (OfKind.mono (by decide))).bind fun _ =>
        ((only_updateHistory ..).mono (OfKind.mono (by decide))).bind fun _ => .done _

/-- **The steps after a merge make five kinds of request and no other.** -/
theorem only_afterMerge : Only (OfKind followUps) (afterMerge config event sectionName) := by
  rw [afterMerge_eq]
  exact .ask (.head _) fun answer => (only_afterLookup ..).mono (OfKind.mono (by decide))

end Steps

end Merge

end MergeScribe
