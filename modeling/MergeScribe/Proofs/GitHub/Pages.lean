import MergeScribe.GitHub.Rest
import MergeScribe.Proofs.Program.Transcript
import Mathlib.Data.List.Basic

/-!
# Listing milestones page by page

GitHub gives open milestones in pages, and only a page that is not full tells that nothing follows
it. Main statements: a page that holds items is asked for before the pages after it
(`Rest.lists_page`), so from any page on the rest of the items is listed (`Rest.lists_milestonesFrom`),
and all milestones are listed without loss or repetition, by asking for each page once and in order
up to the first that is not full, unless a request fails, which is then the last one
(`Rest.fetchOpenMilestones_complete`). To ask is to call the client library's service: what the
library sends for one call is not told here.
-/

namespace MergeScribe

namespace Uri

/-! ## 1. The request for a page -/

/-- Digits stay as they are in a form. -/
theorem formText_of_digits {t : Text} (h : ∀ c ∈ t, c.isDigit = true) : formText t = t := by
  have hascii : ∀ n, n < 128 → (Char.ofNat n).isDigit = true →
      formText [Char.ofNat n] = [Char.ofNat n] := by
    decide +kernel
  induction t with
  | nil => rfl
  | cons c t ih =>
      have hlt : c.toNat < 128 :=
        Nat.lt_of_le_of_lt (Char.isDigit_iff_toNat.mp (h c List.mem_cons_self)).2 (by decide)
      have hc := hascii c.toNat hlt
      rw [Char.ofNat_toNat] at hc
      have hsplit : formText (c :: t) = formText [c] ++ formText t := by
        simp [formText, Text.toBytes]
      rw [hsplit, hc (h c List.mem_cons_self), ih fun d hd => h d (List.mem_cons_of_mem c hd)]
      rfl

end Uri

namespace Rest

open Program

variable {σ : Type} {respond : Responder Http σ} {r : RepositoryId} {page left : Nat} {s : σ}

/-- The place of a page of open milestones, a hundred to a page. A query that a name brings along is
gone on with. -/
def pageRoute (r : RepositoryId) (page : Nat) : Text :=
  "/repos/" ++ r.owner ++ "/" ++ r.name ++ "/milestones" ++
    (if '?' ∈ r.owner ∨ '?' ∈ r.name then '&' else '?') ::
      ("state=open&per_page=100&page=" ++ Text.ofNat page)

/-- The request for a page, if the place of the page can be asked for. -/
def pageRequest? (r : RepositoryId) (page : Nat) : Option HttpRequest :=
  (Uri.ofRoute? (pageRoute r page)).map fun uri => ⟨"GET", uri, none⟩

theorem milestonesRoute_eq (r : RepositoryId) (page : Nat) :
    milestonesRoute r page = pageRoute r page := by
  have hdigits : Uri.formText (Text.ofNat page) = Text.ofNat page :=
    Uri.formText_of_digits fun c hc => Nat.isDigit_of_mem_toDigits (by decide) (by decide) hc
  have hsize : Uri.formText (Text.ofNat pageSize) = "100" := by decide +kernel
  have hopen : Uri.formText "state" = "state" ∧ Uri.formText "open" = "open" ∧
      Uri.formText "per_page" = "per_page" ∧ Uri.formText "page" = "page" := by
    decide +kernel
  have hquery : Uri.formQuery [("state", "open"), ("per_page", Text.ofNat pageSize),
      ("page", Text.ofNat page)] = "state=open&per_page=100&page=" ++ Text.ofNat page := by
    obtain ⟨hstate, hvalue, hper, hpage⟩ := hopen
    simp only [Uri.formQuery, List.map_cons, List.map_nil, hstate, hvalue, hper, hpage, hsize,
      hdigits, Text.joined, List.intercalate_cons_cons, List.intercalate_singleton]
    rfl
  have hmark : (route r "/milestones").contains '?' = true ↔ '?' ∈ r.owner ∨ '?' ∈ r.name := by
    have hrepos : '?' ∉ "/repos/".toList := by decide
    have hslash : '?' ∉ "/".toList := by decide
    have hmilestones : '?' ∉ "/milestones".toList := by decide
    unfold route
    rw [List.contains_iff_mem, List.mem_append, List.mem_append, List.mem_append, List.mem_append,
      or_iff_left hmilestones, or_iff_left hslash, or_iff_right hrepos]
  unfold milestonesRoute Uri.withQuery pageRoute
  rw [hquery]
  simp only [hmark]
  rfl

/-! ## 2. What the answer to a request means -/

/-- The answer holds these milestones. -/
def Holds (answer : Option HttpResponse) (batch : List Milestone) : Prop :=
  ∃ response, answer = some response ∧ response.isSuccess = true ∧
    GitHub.firstValue? (Json.list? GitHub.milestone?) response.body = some batch

/-- The call failed: there is no answer, it reports an error, or it holds no milestones. -/
def Failed (answer : Option HttpResponse) : Prop :=
  ∀ batch, ¬ Holds answer batch

/-- What is received with an answer. -/
def received {α : Type} (read : Json → Option α) : Option HttpResponse → Except Failure α
  | none => .error unanswered
  | some response =>
    if response.isSuccess then
      match GitHub.firstValue? read response.body with
      | some value => .ok value
      | none => .error unanswered
    else .error (refusal response)

/-- **An exchange is one call of the client library**, unless its place cannot be asked for. -/
theorem exchange_eq {α : Type} {method route : Text} {body : Option Json} {read : Json → Option α}
    {uri : Text} (h : Uri.ofRoute? route = some uri) : exchange method route body read =
      .ask ⟨method, uri, body⟩ fun answer => .done (received read answer) := by
  unfold exchange exchangeBy send
  rw [h]
  refine congrArg (Program.ask _) (funext fun answer => ?_)
  cases answer with
  | none => rfl
  | some response =>
      change Program.bind (if response.isSuccess then
          (.done (.ok response) : Program Http (Except Failure HttpResponse))
        else .done (.error (refusal response))) _ = Program.done (received read (some response))
      rw [received]
      by_cases hsuccess : response.isSuccess = true
      · rw [if_pos hsuccess, if_pos hsuccess]
        change (match GitHub.firstValue? read response.body with
          | some value => (.done (.ok value) : Program Http (Except Failure α))
          | none => .done (.error unanswered)) = _
        cases GitHub.firstValue? read response.body with
        | some value => rfl
        | none => rfl
      · rw [if_neg hsuccess, if_neg hsuccess]
        rfl

theorem received_eq_ok_iff {answer : Option HttpResponse} {batch : List Milestone} :
    received (Json.list? GitHub.milestone?) answer = .ok batch ↔ Holds answer batch := by
  cases answer with
  | none => exact iff_of_false (fun e => nomatch e) fun ⟨_, e, _⟩ => nomatch e
  | some response =>
      have hholds : Holds (some response) batch ↔ response.isSuccess = true ∧
          GitHub.firstValue? (Json.list? GitHub.milestone?) response.body = some batch := by
        simp [Holds]
      rw [hholds, received]
      by_cases hsuccess : response.isSuccess = true
      · rw [if_pos hsuccess, and_iff_right hsuccess]
        cases GitHub.firstValue? (Json.list? GitHub.milestone?) response.body with
        | some value => simp
        | none => simp
      · rw [if_neg hsuccess]
        exact iff_of_false (fun e => nomatch e) fun h => hsuccess h.1

theorem Failed.received_eq {answer : Option HttpResponse} (h : Failed answer) :
    ∃ failure, received (Json.list? GitHub.milestone?) answer = .error failure := by
  cases hr : received (Json.list? GitHub.milestone?) answer with
  | ok batch => exact absurd (received_eq_ok_iff.mp hr) (h batch)
  | error failure => exact ⟨failure, rfl⟩

/-! ## 3. Pages -/

/-- The items on a page, the first page having number 1. Past the end there are none. -/
def pageOf (items : List Milestone) (page : Nat) : List Milestone :=
  (items.drop (100 * (page - 1))).take 100

/-- The page can be asked for, and in whatever state the request for it is answered with the items
on it, unless the request fails. -/
def Serves (respond : Responder Http σ) (r : RepositoryId) (items : List Milestone) (page : Nat) :
    Prop :=
  ∃ request, pageRequest? r page = some request ∧
    ∀ s, Holds (respond request s).1 (pageOf items page) ∨ Failed (respond request s).1

/-- What follows the answer to the request for a page. -/
def afterPage (r : RepositoryId) (page left : Nat) :
    Except Failure (List Milestone) → Program Http (Except Failure (List Milestone))
  | .error failure => .done (.error failure)
  | .ok batch =>
    if batch.length < pageSize then .done (.ok batch)
    else (milestonesFrom r (page + 1) left).bind fun more => .done (more.map (batch ++ ·))

theorem milestonesFrom_succ {request : HttpRequest} (h : pageRequest? r page = some request)
    (left : Nat) : milestonesFrom r page (left + 1) = .ask request fun answer =>
      afterPage r page left (received (Json.list? GitHub.milestone?) answer) := by
  obtain ⟨uri, huri, rfl⟩ := Option.map_eq_some_iff.mp h
  rw [← milestonesRoute_eq] at huri
  unfold milestonesFrom
  rw [exchange_eq huri]
  refine congrArg (Program.ask _) (funext fun answer => ?_)
  change (Program.done (received (Json.list? GitHub.milestone?) answer)).bind _ = _
  cases received (Json.list? GitHub.milestone?) answer with
  | error failure => rfl
  | ok batch =>
      rw [afterPage]
      change (if batch.length < pageSize then
          (.done (.ok batch) : Program Http (Except Failure (List Milestone)))
        else (milestonesFrom r (page + 1) left).bind _) = _
      refine if_congr Iff.rfl rfl (congrArg _ (funext fun more => ?_))
      cases more with
      | error failure => rfl
      | ok more => rfl

/-! ## 4. Listing -/

section

variable {p : Program Http (Except Failure (List Milestone))} {request : HttpRequest}
  {items batch : List Milestone} {pages : List Nat}

/-- Run from a state, the program lists the items that these pages hold. -/
structure Lists (respond : Responder Http σ) (r : RepositoryId)
    (p : Program Http (Except Failure (List Milestone))) (s : σ) (items : List Milestone)
    (pages : List Nat) : Prop where
  /-- The pages are asked for in order, and nothing else is. -/
  inOrder : (p.transcript respond s).map (fun x => some x.call) <+: pages.map (pageRequest? r)
  /-- If no request fails, all pages are asked for, and the result is the items. -/
  complete : (∀ x ∈ p.transcript respond s, ¬ Failed x.answer) →
    (p.run respond s).1 = .ok items ∧
      (p.transcript respond s).map (fun x => some x.call) = pages.map (pageRequest? r)
  /-- If a request fails, the result is a failure, and nothing more is asked for. -/
  stops : ∀ before x after, p.transcript respond s = before ++ x :: after → Failed x.answer →
    (∃ failure, (p.run respond s).1 = .error failure) ∧ after = []

theorem lists_done : Lists respond r (.done (.ok items)) s items [] where
  inOrder := List.nil_prefix
  complete := fun _ => ⟨rfl, rfl⟩
  stops := fun before x after h => by cases before <;> cases h

theorem Lists.append (h : Lists respond r p s items pages) (batch : List Milestone) :
    Lists respond r (p.bind fun more => .done (more.map (batch ++ ·))) s (batch ++ items) pages := by
  have hrun : ((p.bind fun more => .done (more.map (batch ++ ·))).run respond s).1 =
      (p.run respond s).1.map (batch ++ ·) := by
    rw [run_bind]
    rfl
  have htranscript : (p.bind fun more => .done (more.map (batch ++ ·))).transcript respond s =
      p.transcript respond s := by
    rw [transcript_bind]
    exact List.append_nil _
  constructor
  · rw [htranscript]
    exact h.inOrder
  · rw [htranscript, hrun]
    intro hnone
    obtain ⟨hresult, hpages⟩ := h.complete hnone
    exact ⟨congrArg (Except.map (batch ++ ·)) hresult, hpages⟩
  · rw [htranscript, hrun]
    intro before x after hx hfailed
    obtain ⟨⟨failure, hresult⟩, hafter⟩ := h.stops before x after hx hfailed
    exact ⟨⟨failure, congrArg (Except.map (batch ++ ·)) hresult⟩, hafter⟩

/-- **A page that holds items is asked for before the pages after it.** -/
theorem lists_page (hrequest : pageRequest? r page = some request)
    (hholds : Holds (respond request s).1 batch)
    (h : Lists respond r (afterPage r page left (.ok batch)) (respond request s).2 items pages) :
    Lists respond r (milestonesFrom r page (left + 1)) s items (page :: pages) := by
  rw [← received_eq_ok_iff.mpr hholds] at h
  rw [milestonesFrom_succ hrequest]
  constructor
  · rw [List.map_cons, hrequest]
    exact (List.prefix_cons_inj _).mpr h.inOrder
  · intro hnone
    obtain ⟨hresult, hpages⟩ := h.complete fun x hx => hnone x (List.mem_cons_of_mem _ hx)
    rw [List.map_cons, hrequest, ← hpages]
    exact ⟨hresult, rfl⟩
  · intro before x after hx hfailed
    cases before with
    | nil =>
        obtain ⟨rfl, -⟩ := List.cons.inj hx
        exact absurd hholds (hfailed batch)
    | cons y before => exact h.stops before x after (List.cons.inj hx).2 hfailed

/-- A request that fails is the last one. -/
theorem lists_of_failed (hrequest : pageRequest? r page = some request)
    (hfailed : Failed (respond request s).1) (left : Nat) (items : List Milestone)
    (pages : List Nat) :
    Lists respond r (milestonesFrom r page (left + 1)) s items (page :: pages) := by
  obtain ⟨failure, hreceived⟩ := hfailed.received_eq
  have hafter : afterPage r page left
      (received (Json.list? GitHub.milestone?) (respond request s).1) = .done (.error failure) := by
    rw [hreceived, afterPage]
  have hresult : ((milestonesFrom r page (left + 1)).run respond s).1 = .error failure := by
    rw [milestonesFrom_succ hrequest]
    exact congrArg (fun p => (p.run respond (respond request s).2).1) hafter
  have htranscript : (milestonesFrom r page (left + 1)).transcript respond s =
      [⟨request, (respond request s).1⟩] := by
    rw [milestonesFrom_succ hrequest]
    exact congrArg (fun p => _ :: p.transcript respond (respond request s).2) hafter
  constructor
  · rw [htranscript, List.map_cons, List.map_nil, List.map_cons, hrequest]
    exact (List.prefix_cons_inj _).mpr List.nil_prefix
  · rw [htranscript]
    exact fun hnone => absurd hfailed (hnone _ List.mem_cons_self)
  · rw [htranscript]
    intro before x after hx _
    have hnil : before = [] ∧ after = [] := by
      cases before with
      | nil => exact ⟨rfl, (List.cons.inj hx).2.symm⟩
      | cons y before => exact absurd (List.cons.inj hx).2.symm (by simp)
    exact ⟨⟨failure, hresult⟩, hnil.2⟩

theorem length_pageOf (hpage : 1 ≤ page) (h : 100 * page ≤ items.length) :
    (pageOf items page).length = pageSize := by
  rw [pageOf, List.length_take, List.length_drop, pageSize]
  omega

/-- **From any page on, what is not on the pages before it is listed.** -/
theorem lists_milestonesFrom (items : List Milestone) (left count : Nat) :
    ∀ page, 1 ≤ page → page + count = items.length / 100 + 1 →
      (∀ k, page ≤ k → k ≤ page + count → Serves respond r items k) → ∀ s,
      Lists respond r (milestonesFrom r page (left + 1 + count)) s (items.drop (100 * (page - 1)))
        (List.range' page (count + 1)) := by
  -- on the full pages that are left; a request may fail on any of them
  induction count with
  | zero =>
      intro page hpage hlast hserves s
      obtain ⟨request, hrequest, hanswer⟩ := hserves page (Nat.le_refl _) (Nat.le_refl _)
      have hrest : (items.drop (100 * (page - 1))).length < pageSize := by
        rw [List.length_drop, pageSize]
        omega
      have hpageOf : pageOf items page = items.drop (100 * (page - 1)) :=
        List.take_of_length_le (Nat.le_of_lt hrest)
      cases hanswer s with
      | inr hfailed => exact lists_of_failed hrequest hfailed left _ _
      | inl hholds =>
          rw [hpageOf] at hholds
          refine lists_page hrequest hholds ?_
          rw [afterPage, if_pos hrest]
          exact lists_done
  | succ count ih =>
      intro page hpage hlast hserves s
      obtain ⟨request, hrequest, hanswer⟩ := hserves page (Nat.le_refl _) (Nat.le_add_right _ _)
      have hsplit : items.drop (100 * (page - 1)) = pageOf items page ++ items.drop (100 * page) := by
        have hdrop : items.drop (100 * page) = (items.drop (100 * (page - 1))).drop 100 := by
          rw [List.drop_drop]
          exact congrArg (items.drop ·) (by omega)
        rw [pageOf, hdrop, List.take_append_drop]
      cases hanswer s with
      | inr hfailed => exact lists_of_failed hrequest hfailed _ _ _
      | inl hholds =>
          have hfull : ¬ (pageOf items page).length < pageSize := by
            rw [length_pageOf hpage (by omega)]
            exact Nat.lt_irrefl _
          refine lists_page hrequest hholds ?_
          rw [afterPage, if_neg hfull, hsplit]
          exact (ih (page + 1) (Nat.le_add_left 1 page) (by omega)
            (fun k h1 hle => hserves k (Nat.le_of_succ_le h1) (by omega)) _).append _

end

/-! ## 5. All pages -/

/-- **Pages lose nothing and repeat nothing.** With fewer milestones than there are pages for, all are
listed, in order: the client library is asked for each page once and in order up to the first that is
not full, and for no other. If one of these calls fails, so does the listing, and nothing more is
asked for. -/
theorem fetchOpenMilestones_complete {σ : Type} (respond : Responder Http σ) (r : RepositoryId)
    (items : List Milestone) (hlength : items.length < 100 * (Nat.pow 2 32 - 1))
    (hserves : ∀ page, 1 ≤ page → page ≤ items.length / 100 + 1 → Serves respond r items page)
    (s : σ) :
    Lists respond r (GitHub.overHttp ⟨r, .fetchOpenMilestones⟩) s items
      (List.range' 1 (items.length / 100 + 1)) := by
  have hmax : maxPages = maxPages - (items.length / 100 + 1) + 1 + items.length / 100 := by
    change items.length < 100 * maxPages at hlength
    omega
  have hlists := lists_milestonesFrom items (maxPages - (items.length / 100 + 1))
    (items.length / 100) 1 (Nat.le_refl 1) (Nat.add_comm ..)
    (fun page h1 hle => hserves page h1 (Nat.add_comm 1 _ ▸ hle)) s
  rw [← hmax] at hlists
  exact hlists

/-- As many milestones as a page holds. -/
def hundred : List Milestone :=
  (List.range' 1 100).map fun number => ⟨number, Text.ofNat number⟩

/-- The body of a response that holds these milestones. -/
def bodyOf (items : List Milestone) : Text :=
  let entry (m : Milestone) : Text :=
    "\x7b\"number\":" ++ Text.ofNat m.number ++ ",\"title\":\"" ++ m.title ++ "\"\x7d"
  '[' :: Text.joined "," (items.map entry) ++ "]"

/-- One full page, and no milestones in answer to anything else. -/
def fullPage : Responder Http Unit := fun request s =>
  (some ⟨200, bodyOf (if request.uri = pageRoute ⟨"o", "r"⟩ 1 then hundred else [])⟩, s)

/-- A full page is followed by the request for an empty one. -/
theorem fetchOpenMilestones_complete_full :
    hundred.length < 100 * (Nat.pow 2 32 - 1) ∧
    (∀ page, 1 ≤ page → page ≤ hundred.length / 100 + 1 →
      Serves fullPage ⟨"o", "r"⟩ hundred page) ∧
    Lists fullPage ⟨"o", "r"⟩ (GitHub.overHttp ⟨⟨"o", "r"⟩, .fetchOpenMilestones⟩) () hundred
      [1, 2] := by
  have hlength : hundred.length < 100 * (Nat.pow 2 32 - 1) := by decide
  have hpages : ∀ page ∈ [1, 2],
      Uri.ofRoute? (pageRoute ⟨"o", "r"⟩ page) = some (pageRoute ⟨"o", "r"⟩ page) ∧
      GitHub.firstValue? (Json.list? GitHub.milestone?) (bodyOf
        (if pageRoute ⟨"o", "r"⟩ page = pageRoute ⟨"o", "r"⟩ 1 then hundred else [])) =
          some (pageOf hundred page) := by
    decide +kernel
  have hserves (page : Nat) (hfirst : 1 ≤ page) (hlast : page ≤ hundred.length / 100 + 1) :
      Serves fullPage ⟨"o", "r"⟩ hundred page := by
    have hpage : page ∈ [1, 2] := by
      change page ≤ 2 at hlast
      rw [List.mem_pair]
      omega
    obtain ⟨huri, hbody⟩ := hpages page hpage
    have hrequest : pageRequest? ⟨"o", "r"⟩ page =
        some ⟨"GET", pageRoute ⟨"o", "r"⟩ page, none⟩ := by
      rw [pageRequest?, huri]
      rfl
    exact ⟨_, hrequest, fun s => .inl ⟨_, rfl, rfl, hbody⟩⟩
  exact ⟨hlength, hserves,
    fetchOpenMilestones_complete fullPage ⟨"o", "r"⟩ hundred hlength hserves ()⟩

end Rest

end MergeScribe
