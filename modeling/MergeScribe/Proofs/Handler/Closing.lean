import MergeScribe.Handler.Milestone
import MergeScribe.Proofs.Handler.Parts
import MergeScribe.Proofs.Program.Transcript
import Mathlib.Data.List.Nodup

/-!
# Milestones closed over many deliveries

The handler of releases stops at its first failure, and the next delivery of the release starts over
with the milestones that are still open. Main statements: what is closed in a store grows by what the
exchanges closed, whatever program runs (`Memory.closes_states`); a delivery closes milestones of
the release from the front, and all of them unless a request fails (`Milestone.ending_handle`); and
so over any number of deliveries, whatever fails in each (`Milestone.handle_delivered`).
-/

namespace MergeScribe

open Program

/-- Whether the release is out: published, and neither a prerelease nor a draft. -/
def ReleaseEvent.isFinal (event : ReleaseEvent) : Bool :=
  event.action == "published" && !(event.prerelease || event.draft)

/-! ## 1. Milestones closed by exchanges -/

namespace Program.Exchange

/-- Whether the request failed. -/
def failed (x : Exchange GitHub) : Bool :=
  match (x.answer : Except Failure x.call.operation.Result) with
  | .error _ => true
  | .ok _ => false

/-- The milestone that the request closed, if it did. -/
def closed? (x : Exchange GitHub) : Option Nat :=
  match x.call.operation with
  | .closeMilestone number => if x.failed then none else some number
  | _ => none

end Program.Exchange

/-- The milestones that were closed in exchanges. -/
def closings (exchanges : List (Exchange GitHub)) : List Nat :=
  exchanges.filterMap Exchange.closed?

theorem closings_cons (x : Exchange GitHub) (exchanges : List (Exchange GitHub)) :
    closings (x :: exchanges) = closings [x] ++ closings exchanges :=
  List.filterMap_append (l := [x])

namespace Memory

variable {m m' : Memory}

/-- The milestones that are still open. -/
def openMilestones (m : Memory) : List Milestone :=
  m.milestones.filter fun milestone => !m.closed.contains milestone.number

/-- The numbers of the open milestones that are named like a tag. -/
def pending (m : Memory) (tag : Text) : List Nat :=
  (m.openMilestones.filter fun milestone => milestone.title == tag).map Milestone.number

/-- A store before and after exchanges, which closed what they say they closed. -/
structure Closes (m : Memory) (exchanges : List (Exchange GitHub)) (m' : Memory) : Prop where
  milestones : m'.milestones = m.milestones
  closed : m'.closed = m.closed ++ closings exchanges

theorem Closes.refl (m : Memory) : Closes m [] m :=
  ⟨rfl, (List.append_nil _).symm⟩

/-- A request leaves the milestones as they are, and closes the one it says it closed. -/
theorem closes_respond (c : GitHubCall) (m : Memory) :
    Closes m [⟨c, (respond c m).1⟩] (respond c m).2 := by
  obtain ⟨r, o⟩ := c
  simp only [respond, nextFailure_eq]
  cases (m.scripts (GitHubCall.mk r o).operation.method).head?.join with
  | some failure =>
      refine ⟨rfl, ?_⟩
      cases o <;> exact (List.append_nil _).symm
  | none =>
      cases o with
      | closeMilestone number => exact ⟨rfl, rfl⟩
      | fetchPullRequest number =>
          simp only [perform]
          split <;> exact ⟨rfl, (List.append_nil _).symm⟩
      | mergePullRequest number method title message =>
          simp only [perform]
          split <;> exact ⟨rfl, (List.append_nil _).symm⟩
      | updateFile update =>
          obtain ⟨files, writes, e⟩ := update_eq _ update
          exact ⟨by rw [e], by rw [e]; exact (List.append_nil _).symm⟩
      | _ => exact ⟨rfl, (List.append_nil _).symm⟩

theorem Closes.cons (c : GitHubCall) (m : Memory) (exchanges : List (Exchange GitHub)) (m' : Memory)
    (h : Closes (respond c m).2 exchanges m') :
    Closes m (⟨c, (respond c m).1⟩ :: exchanges) m' := by
  have hc := closes_respond c m
  refine ⟨h.milestones.trans hc.milestones, ?_⟩
  calc m'.closed
      = (respond c m).2.closed ++ closings exchanges := h.closed
    _ = m.closed ++ closings [⟨c, (respond c m).1⟩] ++ closings exchanges := by rw [hc.closed]
    _ = m.closed ++ closings (⟨c, (respond c m).1⟩ :: exchanges) := by
        rw [List.append_assoc, ← closings_cons]

/-- **What a run closes is what its transcript says.** -/
theorem closes_run {α : Type} (p : Program GitHub α) (m : Memory) :
    Closes m (p.transcript respond m) (p.run respond m).2 :=
  leads_run Closes.refl Closes.cons p m

/-- **All along a run, what is closed is what the exchanges so far closed.** -/
theorem closes_states {α : Type} (p : Program GitHub α) (m : Memory) :
    ∀ m' ∈ p.states respond m, ∃ exchanges, exchanges <+: p.transcript respond m ∧
      Closes m exchanges m' :=
  leads_states Closes.refl Closes.cons p m

/-- The milestones that are still open are listed, if the list can be had. -/
theorem listed (r : RepositoryId) (m : Memory) : ∀ milestones,
    (respond ⟨r, .fetchOpenMilestones⟩ m).1 = .ok milestones → milestones = m.openMilestones := by
  intro milestones h
  simp only [respond, nextFailure_eq] at h
  split at h
  · cases h
  · rename_i e
    obtain ⟨-, rfl⟩ := Prod.mk.inj e
    exact (Except.ok.inj h).symm

theorem listed_of_script (r : RepositoryId) (m : Memory)
    (h : (m.scripts .fetchOpenMilestones).head?.join = none) :
    (respond ⟨r, .fetchOpenMilestones⟩ m).1 = .ok m.openMilestones := by
  have hscript : (m.nextFailure Method.fetchOpenMilestones).1 = none := by
    rw [nextFailure_eq]
    exact h
  rw [respond_of_nextFailure m ⟨r, .fetchOpenMilestones⟩ hscript, nextFailure_eq]
  rfl

/-! ## 2. What is left to close -/

variable {tag : Text}

/-- Milestones that are told apart by their numbers are waiting to be closed at most once each. -/
theorem nodup_pending (hm : (m.milestones.map Milestone.number).Nodup) (tag : Text) :
    (m.pending tag).Nodup := by
  have hsub : (m.openMilestones.filter fun milestone => milestone.title == tag).Sublist
      m.milestones :=
    List.filter_sublist.trans List.filter_sublist
  exact hm.sublist (hsub.map Milestone.number)

theorem not_closed_of_pending {number : Nat} (h : number ∈ m.pending tag) :
    number ∉ m.closed := by
  obtain ⟨milestone, hopen, rfl⟩ := List.mem_map.mp h
  have hm := (List.mem_filter.mp (List.mem_filter.mp hopen).1).2
  simpa using hm

/-- **What was closed from the front is no longer left to close.** -/
theorem pending_of_closed {done rest : List Nat} (hm : (m.milestones.map Milestone.number).Nodup)
    (hmilestones : m'.milestones = m.milestones) (hclosed : m'.closed = m.closed ++ done)
    (hpending : m.pending tag = done ++ rest) : m'.pending tag = rest := by
  have hnodup : (done ++ rest).Nodup := hpending ▸ nodup_pending hm tag
  have hopen : m'.openMilestones =
      m.openMilestones.filter fun milestone => !done.contains milestone.number := by
    rw [openMilestones, openMilestones, hmilestones, hclosed, List.filter_filter]
    refine List.filter_congr fun milestone _ => ?_
    simp [Bool.and_comm]
  have hleft : m'.pending tag = (m.pending tag).filter fun number => !done.contains number := by
    rw [pending, pending, hopen, List.filter_filter, List.filter_map, List.filter_filter]
    refine congrArg _ (List.filter_congr fun milestone _ => ?_)
    exact Bool.and_comm _ _
  rw [hleft, hpending, List.filter_append]
  have hdone : (done.filter fun number => !done.contains number) = [] := by simp
  have hrest : (rest.filter fun number => !done.contains number) = rest := by
    refine List.filter_eq_self.mpr fun number hr => ?_
    simpa using fun hd => List.disjoint_of_nodup_append hnodup hd hr
  rw [hdone, hrest, List.nil_append]

/-- A store some time later, with some of the milestones closed that are named like a tag: from the
front, in their order. -/
structure Progress (tag : Text) (m m' : Memory) : Prop where
  milestones : m'.milestones = m.milestones
  closed : ∃ done, done <+: m.pending tag ∧ m'.closed = m.closed ++ done

theorem Progress.refl (tag : Text) (m : Memory) : Progress tag m m :=
  ⟨rfl, [], List.nil_prefix, (List.append_nil _).symm⟩

theorem Progress.trans {m'' : Memory} (hm : (m.milestones.map Milestone.number).Nodup)
    (h : Progress tag m m') (h' : Progress tag m' m'') : Progress tag m m'' := by
  -- the later ones come from the front of what the earlier ones left
  obtain ⟨done, ⟨rest, hrest⟩, hclosed⟩ := h.closed
  obtain ⟨more, hmore, hclosed'⟩ := h'.closed
  rw [pending_of_closed hm h.milestones hclosed hrest.symm] at hmore
  refine ⟨h'.milestones.trans h.milestones, done ++ more, ?_, ?_⟩
  · rw [← hrest]
    exact (List.prefix_append_right_inj done).mpr hmore
  · rw [hclosed', hclosed, List.append_assoc]

end Memory

/-! ## 3. One delivery -/

namespace Milestone

/-- How a run ends that is to close milestones: with an error right after the first request that
failed, or with success after all were closed. -/
inductive Ending {α : Type} (repository : Text) (numbers : List Nat) (success : α)
    (exchanges : List (Exchange GitHub)) : Except HandlerError α → Prop
  | stopped {message : Text}
      (failed : ∃ before x, exchanges = before ++ [x] ∧ (∀ y ∈ before, y.failed = false) ∧
        x.failed = true)
      (early : closings exchanges <+: numbers) :
      Ending repository numbers success exchanges (.error (.milestone repository message))
  | finished (succeeded : ∀ x ∈ exchanges, x.failed = false)
      (all : closings exchanges = numbers) :
      Ending repository numbers success exchanges (.ok success)

namespace Ending

variable {α : Type} {repository : Text} {numbers : List Nat} {success : α}
  {exchanges : List (Exchange GitHub)} {verdict : Except HandlerError α}

theorem closings_early (h : Ending repository numbers success exchanges verdict) :
    closings exchanges <+: numbers := by
  cases h with
  | stopped failed early => exact early
  | finished succeeded all => exact all ▸ List.prefix_rfl

/-- A run ends like the run after its first request, if that request did not fail. -/
theorem cons {x : Exchange GitHub} (hx : x.failed = false)
    (h : Ending repository numbers success exchanges verdict) :
    Ending repository (closings [x] ++ numbers) success (x :: exchanges) verdict := by
  cases h with
  | stopped failed early =>
      obtain ⟨before, y, rfl, hbefore, hy⟩ := failed
      refine .stopped ⟨x :: before, y, rfl, List.forall_mem_cons.mpr ⟨hx, hbefore⟩, hy⟩ ?_
      rw [closings_cons]
      exact (List.prefix_append_right_inj _).mpr early
  | finished succeeded all =>
      refine .finished (List.forall_mem_cons.mpr ⟨hx, succeeded⟩) ?_
      rw [closings_cons, all]

end Ending

section Delivery

variable {σ : Type} (respond : Responder GitHub σ)

/-- The milestones of a list are closed from the front, and all of them unless a request fails. -/
theorem ending_closeAll (r : RepositoryId) (milestones : List Milestone) (closed : List Nat)
    (s : σ) :
    Ending r.fullName (milestones.map Milestone.number)
      (closed ++ milestones.map Milestone.number)
      ((closeAll r closed milestones).transcript respond s)
      ((closeAll r closed milestones).run respond s).1 := by
  induction milestones generalizing closed s with
  | nil =>
      rw [List.map_nil, List.append_nil]
      exact .finished (fun x hx => nomatch hx) rfl
  | cons m more ih =>
      rcases h : respond ⟨r, .closeMilestone m.number⟩ s with ⟨answer, s'⟩
      cases answer with
      | error failure =>
          refine ask_elim (P := fun xs v _ => Ending r.fullName _ _ xs v) h rfl ?_
          exact .stopped ⟨[], _, rfl, nofun, rfl⟩ List.nil_prefix
      | ok done =>
          refine ask_elim (P := fun xs v _ => Ending r.fullName _ _ xs v) h rfl ?_
          have hmore := (ih (closed ++ [m.number]) s').cons
            (x := ⟨⟨r, .closeMilestone m.number⟩, .ok done⟩) rfl
          rw [List.append_assoc] at hmore
          exact hmore

variable (event : ReleaseEvent)

/-- What follows the list of the open milestones. -/
def afterListing : Except Failure (List Milestone) → Program GitHub (Verdict (List Nat))
  | .error failure => .done (.error (.milestone event.repository.id.fullName
      ("couldn't fetch milestones: " ++ failure.describe)))
  | .ok milestones =>
    (closeAll event.repository.id [] (milestones.filter fun m => m.title == event.tag)).bind
      fun
      | .error problem => .done (.error problem)
      | .ok closed => .done (.ok (.handled closed))

theorem handle_of_final (h : event.isFinal = true) :
    handle event = .ask ⟨event.repository.id, .fetchOpenMilestones⟩ (afterListing event) := by
  obtain ⟨haction, hout⟩ :
      event.action = "published" ∧ (event.prerelease || event.draft) = false := by
    simpa [ReleaseEvent.isFinal] using h
  rw [handle, if_neg (not_not_intro haction), if_neg (Bool.eq_false_iff.mp hout)]
  refine congrArg (Program.ask _) (funext fun listing => ?_)
  cases listing with
  | error failure => rfl
  | ok milestones =>
      refine bind_congr (x := closeAll event.repository.id [] _) fun result => ?_
      cases result <;> rfl

theorem handle_of_not_final (h : event.isFinal = false) :
    ∃ reason, handle event = .done (.ok (.notApplicable reason)) := by
  rw [handle]
  split
  · exact ⟨_, rfl⟩
  · rename_i haction
    cases hout : event.prerelease || event.draft with
    | false =>
        rw [ReleaseEvent.isFinal, not_not.mp haction, hout] at h
        cases h
    | true => exact ⟨_, rfl⟩

/-- What follows the list ends like closing those that are named like the release. -/
theorem ending_afterListing (milestones : List Milestone) (s : σ) :
    let numbers := (milestones.filter fun m => m.title == event.tag).map Milestone.number
    Ending event.repository.id.fullName numbers (Outcome.handled numbers)
      ((afterListing event (.ok milestones)).transcript respond s)
      ((afterListing event (.ok milestones)).run respond s).1 := by
  intro numbers
  have hclose := ending_closeAll respond event.repository.id
    (milestones.filter fun m => m.title == event.tag) [] s
  rw [List.nil_append] at hclose
  rw [afterListing, transcript_bind, run_bind]
  cases hv : ((closeAll event.repository.id []
      (milestones.filter fun m => m.title == event.tag)).run respond s).1 with
  | error problem =>
      rw [hv] at hclose
      cases hclose with
      | stopped failed early =>
          rw [transcript, List.append_nil]
          exact .stopped failed early
  | ok closed =>
      rw [hv] at hclose
      cases hclose with
      | finished succeeded all =>
          rw [transcript, List.append_nil]
          exact .finished succeeded all

end Delivery

variable (event : ReleaseEvent)

/-- **A release that is out gets its milestones closed, as far as the requests do not fail.** -/
theorem ending_handle (h : event.isFinal = true) (m : Memory) :
    Ending event.repository.id.fullName (m.pending event.tag)
      (Outcome.handled (m.pending event.tag))
      ((handle event).transcript Memory.respond m) ((handle event).run Memory.respond m).1 := by
  rw [handle_of_final event h]
  rcases hl : Memory.respond ⟨event.repository.id, .fetchOpenMilestones⟩ m with ⟨answer, m'⟩
  refine ask_elim (P := fun xs v _ => Ending _ _ _ xs v) hl rfl ?_
  cases answer with
  | error failure => exact .stopped ⟨[], _, rfl, nofun, rfl⟩ List.nil_prefix
  | ok milestones =>
      obtain rfl : milestones = m.openMilestones :=
        Memory.listed event.repository.id m milestones (congrArg Prod.fst hl)
      exact (ending_afterListing Memory.respond event m.openMilestones m').cons
        (x := ⟨⟨event.repository.id, .fetchOpenMilestones⟩, .ok m.openMilestones⟩) rfl

/-- With nothing left to close, a release is handled as soon as the milestones can be listed. -/
theorem handle_of_pending_eq_nil (h : event.isFinal = true) {m : Memory}
    (hm : m.pending event.tag = [])
    (hscript : (m.scripts .fetchOpenMilestones).head?.join = none) :
    ((handle event).run Memory.respond m).1 = .ok (.handled []) := by
  have hnone : (m.openMilestones.filter fun m => m.title == event.tag) = [] :=
    List.map_eq_nil_iff.mp hm
  have hnothing : afterListing event (.ok m.openMilestones) = .done (.ok (.handled [])) := by
    rw [afterListing, hnone]
    rfl
  rw [handle_of_final event h]
  show ((afterListing event (Memory.respond ⟨event.repository.id, .fetchOpenMilestones⟩ m).1).run
    Memory.respond _).1 = _
  rw [Memory.listed_of_script event.repository.id m hscript]
  exact congrArg (fun p => (run Memory.respond p _).1) hnothing

/-! ## 4. Many deliveries -/

/-- The store after deliveries of a release, each with the failures that its requests meet. -/
def delivered (m : Memory) (deliveries : List (Method → List (Option Failure))) : Memory :=
  deliveries.foldl
    (fun m scripts => ((handle event).run Memory.respond { m with scripts := scripts }).2) m

/-- **All along a delivery, milestones of the release are closed from the front.** -/
theorem progress_states (m : Memory) :
    ∀ m' ∈ (handle event).states Memory.respond m, m.Progress event.tag m' := by
  intro m' hm'
  cases h : event.isFinal with
  | false =>
      obtain ⟨reason, e⟩ := handle_of_not_final event h
      rw [e] at hm'
      obtain rfl : m' = m := List.mem_singleton.mp hm'
      exact .refl event.tag m'
  | true =>
      obtain ⟨exchanges, hfirst, hcloses⟩ := Memory.closes_states (handle event) m m' hm'
      -- the exchanges so far closed the first of those that all exchanges close
      have hpending := (ending_handle event h m).closings_early
      exact ⟨hcloses.milestones, closings exchanges,
        (hfirst.filterMap Exchange.closed?).trans hpending, hcloses.closed⟩

/-- And so over any number of deliveries. -/
theorem progress_delivered {m : Memory} (hm : (m.milestones.map Milestone.number).Nodup)
    (deliveries : List (Method → List (Option Failure))) :
    m.Progress event.tag (delivered event m deliveries) := by
  induction deliveries generalizing m with
  | nil => exact .refl event.tag m
  | cons scripts more ih =>
      obtain ⟨hmilestones, hclosed⟩ := progress_states event { m with scripts := scripts } _
        (run_mem_states Memory.respond (handle event) { m with scripts := scripts })
      have hfirst : m.Progress event.tag _ := ⟨hmilestones, hclosed⟩
      refine hfirst.trans hm (ih ?_)
      rw [hmilestones]
      exact hm

/-- **Milestones are closed over many deliveries, whatever fails in each.** Nothing is asked for a
release that is not out. For one that is, at each moment of each delivery the milestones that are
closed are those that were, and then of those left to close at the start some from the front, each
once. A delivery adds those that it closed to them. It ends right after the first request that fails
with an error, or else it answers what it closed; then no milestone of the release is open any more,
and later deliveries that can list the milestones have nothing to do. -/
theorem handle_delivered (m : Memory) (hm : (m.milestones.map Milestone.number).Nodup)
    (deliveries : List (Method → List (Option Failure)))
    (scripts : Method → List (Option Failure)) :
    let start := { delivered event m deliveries with scripts := scripts }
    let exchanges := (handle event).transcript Memory.respond start
    let verdict := ((handle event).run Memory.respond start).1
    let finish := ((handle event).run Memory.respond start).2
    (event.isFinal = false → exchanges = [] ∧ ∃ reason, verdict = .ok (.notApplicable reason)) ∧
    (event.isFinal = true →
      (m.pending event.tag).Nodup ∧ (∀ number ∈ m.pending event.tag, number ∉ m.closed) ∧
      (∀ m' ∈ (handle event).states Memory.respond start, m'.milestones = m.milestones ∧
        ∃ done, done <+: m.pending event.tag ∧ m'.closed = m.closed ++ done) ∧
      finish.closed = start.closed ++ closings exchanges ∧
      ((∃ before x, exchanges = before ++ [x] ∧ (∀ y ∈ before, y.failed = false) ∧
          x.failed = true ∧
          ∃ message, verdict = .error (.milestone event.repository.id.fullName message)) ∨
        (∀ x ∈ exchanges, x.failed = false) ∧ verdict = .ok (.handled (closings exchanges)) ∧
          (∀ milestone ∈ finish.openMilestones, milestone.title ≠ event.tag) ∧
          ∀ later scripts', (scripts' Method.fetchOpenMilestones).head?.join = none →
            ((handle event).run Memory.respond
              { delivered event finish later with scripts := scripts' }).1 = .ok (.handled []))) := by
  intro start exchanges verdict finish
  constructor
  · intro h
    obtain ⟨reason, e⟩ := handle_of_not_final event h
    exact ⟨congrArg (transcript Memory.respond · start) e, reason,
      congrArg (fun p => (run Memory.respond p start).1) e⟩
  intro h
  have hstart : m.Progress event.tag start := by
    obtain ⟨hmilestones, hclosed⟩ := progress_delivered event hm deliveries
    exact ⟨hmilestones, hclosed⟩
  have hnumbers : (start.milestones.map Milestone.number).Nodup := by
    rw [hstart.milestones]
    exact hm
  have hcloses := Memory.closes_run (handle event) start
  refine ⟨Memory.nodup_pending hm event.tag, fun number => Memory.not_closed_of_pending,
    fun m' hm' => ?_, hcloses.closed, ?_⟩
  · obtain ⟨hmilestones, hclosed⟩ := hstart.trans hm (progress_states event start m' hm')
    exact ⟨hmilestones, hclosed⟩
  have hends := ending_handle event h start
  generalize hv : ((handle event).run Memory.respond start).1 = v at hends
  cases hends with
  | @stopped message failed early =>
      obtain ⟨before, x, e, hbefore, hx⟩ := failed
      exact .inl ⟨before, x, e, hbefore, hx, message, hv⟩
  | finished succeeded all =>
      -- all that were left were closed, and later deliveries only close what is left
      have hnone : finish.pending event.tag = [] :=
        Memory.pending_of_closed hnumbers hcloses.milestones hcloses.closed
          (by rw [all, List.append_nil])
      refine .inr ⟨succeeded, hv.trans (by rw [all]), fun milestone hopen htitle => ?_,
        fun later scripts' hscript => ?_⟩
      · have hleft : milestone.number ∈ finish.pending event.tag :=
          List.mem_map_of_mem (List.mem_filter.mpr ⟨hopen, beq_iff_eq.mpr htitle⟩)
        rw [hnone] at hleft
        cases hleft
      · have hfinish : (finish.milestones.map Milestone.number).Nodup := by
          rw [hcloses.milestones]
          exact hnumbers
        obtain ⟨hmilestones, done, hdone, hclosed⟩ := progress_delivered event hfinish later
        refine handle_of_pending_eq_nil event h ?_ hscript
        refine Memory.pending_of_closed hfinish hmilestones hclosed ?_
        rw [hnone] at hdone ⊢
        rw [List.prefix_nil.mp hdone, List.nil_append]

/-- Of the two milestones of a release the second cannot be closed at first. The next delivery closes
it, and those after that find nothing to do. -/
theorem handle_delivered_resumed :
    let event : ReleaseEvent := ⟨"published", "v3.0.1", false, false, ⟨"jekyll", "jekyll", none⟩⟩
    let m : Memory :=
      { Memory.empty with milestones := [⟨7, "v3.0.1"⟩, ⟨8, "v3.0.10"⟩, ⟨9, "v3.0.1"⟩] }
    let refusing : Method → List (Option Failure) := fun
      | .closeMilestone => [none, some (.ofCause (.other "Not Found"))]
      | _ => []
    let m' := delivered event m [refusing]
    let m'' := delivered event m' [fun _ => []]
    m'.closed = [7] ∧ m''.closed = [7, 9] ∧
      ∀ later scripts, (scripts Method.fetchOpenMilestones).head?.join = none →
        ((handle event).run Memory.respond
          { delivered event m'' later with scripts := scripts }).1 = .ok (.handled []) := by
  intro event m refusing m' m''
  have hnumbers : (m.milestones.map Milestone.number).Nodup := by decide +kernel
  have hclosed : ((handle event).run Memory.respond { m' with scripts := fun _ => [] }).1 =
      .ok (.handled [9]) := by
    decide +kernel
  refine ⟨by decide +kernel, by decide +kernel, ?_⟩
  obtain ⟨-, hfinal⟩ := handle_delivered event m hnumbers [refusing] fun _ => []
  obtain ⟨-, -, -, -, ⟨_, _, -, -, -, message, hstopped⟩ | ⟨-, -, -, hlater⟩⟩ :=
    hfinal (by decide +kernel)
  · have hboth := hclosed.symm.trans hstopped
    cases hboth
  · exact hlater

end Milestone

end MergeScribe
