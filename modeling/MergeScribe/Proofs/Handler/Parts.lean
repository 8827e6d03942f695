import MergeScribe.GitHub.Memory
import MergeScribe.Proofs.Program.Independence

/-!
# The part of a store that a step has to do with

Each step after a merge makes requests of kinds of its own, and what these have to do with is a part
of the store of its own: the scripts of these kinds, and for the step that records the change the
files, which nothing else reads or writes. All that is left makes up one more part. Main statements:
two stores that agree on all parts are the same (`Memory.eq_of_agreeOn`); what a request is
answered and does to its part depends on that part only (`Memory.nextFailure_own`,
`Memory.perform_own`), and it leaves the others as they are (`Memory.nextFailure_others`,
`Memory.perform_others`). So a store divides (`Memory.divides`).
-/

namespace MergeScribe

open Program

/-! ## 1. Steps -/

namespace Merge

/-- The steps after a merge. -/
inductive Step where
  | deletion
  | labelling
  | recording
  deriving DecidableEq, Repr

namespace Step

/-- The steps in the order in which the handler takes them. -/
def all : List Step :=
  [.deletion, .labelling, .recording]

/-- The step that makes requests of a kind, if one does. -/
def ofMethod? : Method → Option Step
  | .deleteBranch => some .deletion
  | .addLabels => some .labelling
  | .fetchFile | .updateFile => some .recording
  | _ => none

/-- The step that a call belongs to, if it belongs to one. -/
def ofCall? (c : GitHub.Call) : Option Step :=
  ofMethod? (GitHubCall.operation c).method

end Step

end Merge

open Merge

/-! ## 2. Parts -/

namespace Memory

/-- Stores that agree on one part: on the scripts of the requests that a step makes, and if it is the
step that records the change on files too; or else on all that no step has to do with. -/
structure AgreeOn (part : Option Step) (m m' : Memory) : Prop where
  scripts : ∀ method, Step.ofMethod? method = part → m.scripts method = m'.scripts method
  files : part = some .recording → m.files = m'.files ∧ m.foreignWrites = m'.foreignWrites
  rest : part = none → m.permissions = m'.permissions ∧ m.pullRequests = m'.pullRequests ∧
    m.milestones = m'.milestones ∧ m.closed = m'.closed ∧ m.mergeResults = m'.mergeResults

variable {m m' : Memory} {part : Option Step}

theorem AgreeOn.refl (part : Option Step) (m : Memory) : AgreeOn part m m :=
  ⟨fun _ _ => rfl, fun _ => ⟨rfl, rfl⟩, fun _ => ⟨rfl, rfl, rfl, rfl, rfl⟩⟩

theorem agreeOn_equivalence (part : Option Step) : Equivalence (AgreeOn part) where
  refl := AgreeOn.refl part
  symm h := by
    refine ⟨fun method e => (h.scripts method e).symm, fun e => ?_, fun e => ?_⟩
    · exact ⟨(h.files e).1.symm, (h.files e).2.symm⟩
    · obtain ⟨h₁, h₂, h₃, h₄, h₅⟩ := h.rest e
      exact ⟨h₁.symm, h₂.symm, h₃.symm, h₄.symm, h₅.symm⟩
  trans h h' := by
    refine ⟨fun method e => (h.scripts method e).trans (h'.scripts method e), fun e => ?_,
      fun e => ?_⟩
    · exact ⟨(h.files e).1.trans (h'.files e).1, (h.files e).2.trans (h'.files e).2⟩
    · obtain ⟨h₁, h₂, h₃, h₄, h₅⟩ := h.rest e
      obtain ⟨h₁', h₂', h₃', h₄', h₅'⟩ := h'.rest e
      exact ⟨h₁.trans h₁', h₂.trans h₂', h₃.trans h₃', h₄.trans h₄', h₅.trans h₅'⟩

/-- There is nothing else in a store. -/
theorem eq_of_agreeOn (h : ∀ part, AgreeOn part m m') : m = m' := by
  obtain ⟨h₁, h₂, h₃, h₄, h₅⟩ := (h none).rest rfl
  obtain ⟨h₆, h₇⟩ := (h (some .recording)).files rfl
  have h₈ : m.scripts = m'.scripts := funext fun method => (h _).scripts method rfl
  cases m
  cases m'
  simp only at h₁ h₂ h₃ h₄ h₅ h₆ h₇ h₈
  subst h₁ h₂ h₃ h₄ h₅ h₆ h₇ h₈
  rfl

/-! ## 3. Requests -/

/-- What the script has for the next request of a kind is taken off it, and nothing else changes. -/
theorem nextFailure_eq (m : Memory) (method : Method) : m.nextFailure method =
    ((m.scripts method).head?.join, { m with
      scripts := fun other =>
        if other = method then (m.scripts method).tail else m.scripts other }) := by
  unfold nextFailure
  cases h : m.scripts method with
  | cons entry more => rfl
  | nil =>
      have hsame : (fun other => if other = method then [] else m.scripts other) = m.scripts := by
        funext other
        split
        · rename_i e
          rw [e, h]
        · rfl
      simp [hsame]

/-- The script of one kind of request is not that of another. -/
theorem nextFailure_other (m : Memory) {method other : Method} (h : other ≠ method) :
    ((m.nextFailure method).2.nextFailure other).1 = (m.nextFailure other).1 := by
  rw [nextFailure_eq, nextFailure_eq m method, nextFailure_eq m other]
  simp only [if_neg h]

/-- A request that the script lets through is carried out. -/
theorem respond_of_nextFailure (m : Memory) (c : GitHubCall)
    (h : (m.nextFailure c.operation.method).1 = none) :
    respond c m = (m.nextFailure c.operation.method).2.perform c.operation := by
  unfold respond
  split
  · rename_i failure n e
    rw [e] at h
    cases h
  · rename_i n e
    rw [e]

theorem nextFailure_own {method : Method} (h : AgreeOn (Step.ofMethod? method) m m') :
    (m.nextFailure method).1 = (m'.nextFailure method).1 ∧
      AgreeOn (Step.ofMethod? method) (m.nextFailure method).2 (m'.nextFailure method).2 := by
  have hs := h.scripts method rfl
  rw [nextFailure_eq, nextFailure_eq, hs]
  refine ⟨rfl, fun other e => ?_, h.files, h.rest⟩
  show (if _ then _ else _) = if _ then _ else _
  rw [h.scripts other e]

theorem nextFailure_others {method : Method} (m : Memory) (h : Step.ofMethod? method ≠ part) :
    AgreeOn part m (m.nextFailure method).2 := by
  rw [nextFailure_eq]
  refine ⟨fun other e => ?_, fun _ => ⟨rfl, rfl⟩, fun _ => ⟨rfl, rfl, rfl, rfl, rfl⟩⟩
  show m.scripts other = if other = method then _ else _
  rw [if_neg fun he => h (by rw [← he, e])]

/-- An update has to do with files only. -/
theorem update_own (u : FileUpdate) (hf : m.files = m'.files)
    (hw : m.foreignWrites = m'.foreignWrites) :
    (m.perform (.updateFile u)).1 = (m'.perform (.updateFile u)).1 ∧
      (m.perform (.updateFile u)).2.files = (m'.perform (.updateFile u)).2.files ∧
      (m.perform (.updateFile u)).2.foreignWrites =
        (m'.perform (.updateFile u)).2.foreignWrites := by
  have hfile {n n' : Memory} (h : n.files = n'.files) (path branch : Text) :
      n.file? path branch = n'.file? path branch := congrArg (List.lookup _) h
  have hwrite {n n' : Memory} (h : n.files = n'.files) (path branch content : Text) :
      (n.writeFile path branch content).files = (n'.writeFile path branch content).files := by
    simp only [writeFile, hfile h, h]
  have hforeign : (m.foreignWrite u.path u.branch).files = (m'.foreignWrite u.path u.branch).files ∧
      (m.foreignWrite u.path u.branch).foreignWrites =
        (m'.foreignWrite u.path u.branch).foreignWrites := by
    unfold foreignWrite
    rw [hw]
    split
    · exact ⟨hf, hw⟩
    · exact ⟨hf, rfl⟩
    · exact ⟨hwrite hf _ _ _, rfl⟩
  obtain ⟨hfiles, hforeign⟩ := hforeign
  simp only [perform, guardedWrite, hfile hfiles]
  split
  · refine ⟨?_, hwrite hfiles _ _ _, hforeign⟩
    rw [hfile (hwrite hfiles u.path u.branch u.content)]
  · exact ⟨rfl, hfiles, hforeign⟩

/-- An update changes files and the writes of others that are still to come, and nothing else. -/
theorem update_eq (m : Memory) (u : FileUpdate) : ∃ files writes,
    (m.perform (.updateFile u)).2 = { m with files := files, foreignWrites := writes } := by
  have hforeign : ∃ files writes, m.foreignWrite u.path u.branch =
      { m with files := files, foreignWrites := writes } := by
    unfold foreignWrite
    split
    · exact ⟨_, _, rfl⟩
    · exact ⟨_, _, rfl⟩
    · exact ⟨_, _, rfl⟩
  obtain ⟨files, writes, e⟩ := hforeign
  simp only [perform, e]
  unfold guardedWrite
  split
  · exact ⟨_, _, rfl⟩
  · exact ⟨_, _, rfl⟩

theorem perform_own {o : Operation} (h : AgreeOn (Step.ofMethod? o.method) m m') :
    (m.perform o).1 = (m'.perform o).1 ∧
      AgreeOn (Step.ofMethod? o.method) (m.perform o).2 (m'.perform o).2 := by
  cases o with
  | deleteBranch | addLabels | createRelease => exact ⟨rfl, h⟩
  | fetchFile path branch =>
      have hfiles := (h.files rfl).1
      refine ⟨?_, h⟩
      simp only [perform, file?, hfiles]
  | updateFile u =>
      obtain ⟨hf, hw⟩ := h.files rfl
      obtain ⟨hanswer, hfiles, hforeign⟩ := update_own u hf hw
      obtain ⟨files, writes, e⟩ := m.update_eq u
      obtain ⟨files', writes', e'⟩ := m'.update_eq u
      rw [e, e'] at hfiles hforeign ⊢
      exact ⟨hanswer, h.scripts, fun _ => ⟨hfiles, hforeign⟩, nofun⟩
  | fetchPullRequest number =>
      have hpulls := (h.rest rfl).2.1
      simp only [perform, hpulls]
      split <;> exact ⟨rfl, h⟩
  | mergePullRequest number method title message =>
      obtain ⟨h₁, h₂, h₃, h₄, hresults⟩ := h.rest rfl
      simp only [perform, hresults]
      split
      · exact ⟨rfl, h.scripts, nofun, fun _ => ⟨h₁, h₂, h₃, h₄, rfl⟩⟩
      · exact ⟨rfl, h⟩
  | fetchPermission login =>
      have hpermissions := (h.rest rfl).1
      refine ⟨?_, h⟩
      simp only [perform, hpermissions]
  | fetchOpenMilestones =>
      obtain ⟨-, -, hmilestones, hclosed, -⟩ := h.rest rfl
      refine ⟨?_, h⟩
      simp only [perform, hmilestones, hclosed]
  | closeMilestone number =>
      obtain ⟨h₁, h₂, h₃, hclosed, h₅⟩ := h.rest rfl
      refine ⟨rfl, h.scripts, nofun, fun _ => ⟨h₁, h₂, h₃, ?_, h₅⟩⟩
      simp only [perform, hclosed]

theorem perform_others {o : Operation} (m : Memory) (h : Step.ofMethod? o.method ≠ part) :
    AgreeOn part m (m.perform o).2 := by
  cases o with
  | updateFile u =>
      obtain ⟨files, writes, e⟩ := m.update_eq u
      rw [e]
      exact ⟨fun _ _ => rfl, fun e => absurd e.symm h, fun _ => ⟨rfl, rfl, rfl, rfl, rfl⟩⟩
  | fetchPullRequest number =>
      simp only [perform]
      split <;> exact .refl part m
  | mergePullRequest number method title message =>
      simp only [perform]
      split
      · exact ⟨fun _ _ => rfl, fun _ => ⟨rfl, rfl⟩, fun e => absurd e.symm h⟩
      · exact .refl part m
  | closeMilestone number => exact ⟨fun _ _ => rfl, fun _ => ⟨rfl, rfl⟩, fun e => absurd e.symm h⟩
  | _ => exact .refl part m

/-- **A store divides into the parts of the steps and the rest.** -/
theorem divides : Divides respond Step.ofCall? AgreeOn where
  equivalence := agreeOn_equivalence
  own := by
    intro c m m' h
    obtain ⟨hfailure, hafter⟩ := nextFailure_own h
    unfold respond
    generalize m.nextFailure c.operation.method = n at hfailure hafter
    generalize m'.nextFailure c.operation.method = n' at hfailure hafter
    obtain ⟨failure, n⟩ := n
    obtain ⟨failure', n'⟩ := n'
    obtain rfl : failure = failure' := hfailure
    cases failure with
    | some failure => exact ⟨rfl, hafter⟩
    | none => exact perform_own hafter
  others := by
    intro c part m h
    have hafter := nextFailure_others m h
    unfold respond
    split
    · rename_i e
      rw [e] at hafter
      exact hafter
    · rename_i n e
      rw [e] at hafter
      exact (agreeOn_equivalence part).trans hafter (perform_others n h)

end Memory

end MergeScribe
