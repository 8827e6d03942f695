import MergeScribe.Proofs.Changelog.RoundTrip

/-!
# The body of a version

What a release is announced with is the text of a version from the first blank line on. Main
statements: this is all of the text behind the heading, as long as the version holds something
(`Version.blocks_eq_body`), and nothing if it does not (`Version.body_eq_nil_iff`), so that the
version is read back from it when a heading is put in front again, with or without a line feed at
the end (`Changelog.parse_body`), and no version that a file has loses anything but its date
(`Changelog.parse_heading_body`).
-/

namespace MergeScribe

open Text

/-! ## 1. What written texts end in -/

/-- Texts that end firm do so one after the other, whatever is between them. -/
theorem endsFirm_joined {α : Type} (separator : Text) {f : α → Text} : {xs : List α} → xs ≠ [] →
    (∀ x ∈ xs, endsFirm (f x) = true) → endsFirm (joined separator (xs.map f)) = true
  | [], hne, _ => absurd rfl hne
  | [x], _, h => by
      rw [joined, List.map_singleton, List.intercalate_singleton]
      exact h x List.mem_cons_self
  | x :: y :: xs, _, h => by
      have ih := endsFirm_joined separator (List.cons_ne_nil y xs)
        (List.forall_mem_cons.mp h).2
      rw [joined, List.map_cons, List.map_cons, List.intercalate_cons_cons, List.append_assoc]
      exact endsFirm_append (endsFirm_append ih _) _

theorem Entry.endsFirm_renderBlock {t : Text} (ht : endsFirm t = true) {entries : List Entry}
    (he : ∀ e ∈ entries, e.Canonical) : endsFirm (t ++ Entry.renderBlock entries) = true := by
  unfold Entry.renderBlock
  cases entries with
  | nil => simpa using ht
  | cons e more =>
      have hblock := endsFirm_joined "\n" (List.cons_ne_nil e more)
        fun e' he' => Entry.endsFirm_render (he e' he')
      exact endsFirm_append (endsFirm_append hblock "\n\n") t

theorem Section.endsFirm_render {s : Section} (h : s.Canonical) : endsFirm s.render = true :=
  Entry.endsFirm_renderBlock (endsFirm_append h.name.ends "### ") h.entries

theorem Section.endsFirm_renderBlock {t : Text} (ht : endsFirm t = true) {sections : List Section}
    (hs : ∀ s ∈ sections, s.Canonical) : endsFirm (t ++ Section.renderBlock sections) = true := by
  unfold Section.renderBlock
  cases sections with
  | nil => simpa using ht
  | cons s more =>
      have hblock := endsFirm_joined "\n\n" (List.cons_ne_nil s more)
        fun s' hs' => Section.endsFirm_render (hs s' hs')
      exact endsFirm_append (endsFirm_append hblock "\n\n") t

theorem Version.endsFirm_render {v : Version} (h : v.Canonical) : endsFirm v.render = true :=
  Section.endsFirm_renderBlock
    (Entry.endsFirm_renderBlock (Version.endsFirm_renderHeading h.id h.date) h.entries) h.sections

/-! ## 2. The body -/

/-- What follows the first blank line follows all text without line feeds that is in front of it. -/
theorem afterBlankLine_append : {t : Text} → '\n' ∉ t → (rest : Text) →
    afterBlankLine (t ++ ("\n\n" ++ rest)) = rest
  | [], _, _ => rfl
  | c :: t, h, rest => by
      have hc : c ≠ '\n' := fun e => h (e ▸ List.mem_cons_self)
      have ih := afterBlankLine_append (fun hm => h (List.mem_cons_of_mem c hm)) rest
      rw [List.cons_append, afterBlankLine]
      · exact ih
      · rintro more rfl
        exact absurd rfl hc

/-- Text on one line has no blank line in it. -/
theorem afterBlankLine_of_not_mem : {t : Text} → '\n' ∉ t → afterBlankLine t = []
  | [], _ => rfl
  | c :: t, h => by
      have hc : c ≠ '\n' := fun e => h (e ▸ List.mem_cons_self)
      rw [afterBlankLine]
      · exact afterBlankLine_of_not_mem fun hm => h (List.mem_cons_of_mem c hm)
      · rintro more rfl
        exact absurd rfl hc

/-- The entries and the sections of a version are written behind a blank line, if there are any. -/
theorem Version.exists_blocks {v : Version} (hne : v.isEmpty = false) : ∃ text,
    Entry.renderBlock v.entries ++ Section.renderBlock v.sections = "\n\n" ++ text := by
  unfold Entry.renderBlock Section.renderBlock
  cases hentries : v.entries with
  | cons e more => exact ⟨_, List.append_assoc ..⟩
  | nil =>
      cases hsections : v.sections with
      | cons s more => exact ⟨_, rfl⟩
      | nil => simp [Version.isEmpty, hentries, hsections] at hne

/-- **The body is all that follows the heading**, behind a blank line. -/
theorem Version.blocks_eq_body {v : Version} (h : v.Canonical) (hne : v.isEmpty = false) :
    Entry.renderBlock v.entries ++ Section.renderBlock v.sections = "\n\n" ++ v.body := by
  obtain ⟨text, hblocks⟩ := Version.exists_blocks hne
  have hrender : v.render = v.renderHeading ++ ("\n\n" ++ text) := by
    rw [Version.render, List.append_assoc, hblocks]
  have hbody : v.body = text := by
    rw [Version.body, hrender,
      afterBlankLine_append (Version.feed_not_mem_renderHeading h.id h.date)]
  rw [hblocks, hbody]

/-- A version that holds nothing is written as its heading. -/
theorem Version.render_eq_heading {v : Version} (hentries : v.entries = [])
    (hsections : v.sections = []) : v.render = v.renderHeading := by
  simp [Version.render, hentries, hsections, Entry.renderBlock, Section.renderBlock]

/-- **There is a body exactly when the version holds something.** -/
theorem Version.body_eq_nil_iff {v : Version} (h : v.Canonical) :
    v.body = [] ↔ v.entries = [] ∧ v.sections = [] := by
  constructor
  · intro hbody
    cases hempty : v.isEmpty with
    | true => simpa [Version.isEmpty] using hempty
    | false =>
        -- a version that holds something does not end in a blank line
        have hfirm := v.endsFirm_render h
        rw [Version.render, List.append_assoc, v.blocks_eq_body h hempty, hbody] at hfirm
        have hblank : v.renderHeading ++ ("\n\n".toList ++ []) =
            (v.renderHeading ++ ['\n']) ++ ['\n'] := by simp
        rw [hblank, endsFirm_concat] at hfirm
        exact absurd hfirm (by decide)
  · rintro ⟨hentries, hsections⟩
    rw [Version.body, v.render_eq_heading hentries hsections,
      afterBlankLine_of_not_mem (v.feed_not_mem_renderHeading h.id h.date)]

theorem Version.render_eq_body {v : Version} (h : v.Canonical) (hne : v.isEmpty = false) :
    v.render = v.renderHeading ++ ("\n\n" ++ v.body) := by
  rw [Version.render, List.append_assoc, v.blocks_eq_body h hne]

theorem Version.Canonical.undated {v : Version} (h : v.Canonical) :
    Version.Canonical { v with date := none } :=
  ⟨h.id, nofun, h.entries, h.sections, h.names⟩

/-- The body behind a heading without a date is the text of the version without its date. -/
theorem Version.heading_body_eq_render {v : Version} (h : v.Canonical) (hne : v.isEmpty = false) :
    "## " ++ v.id ++ "\n\n" ++ v.body = Version.render { v with date := none } := by
  have hbody : Version.body { v with date := none } = v.body :=
    List.append_cancel_left ((Version.blocks_eq_body h.undated hne).symm.trans
      (v.blocks_eq_body h hne))
  rw [Version.render_eq_body h.undated hne, hbody, ← List.append_assoc]
  rfl

/-! ## 3. Reading the body -/

namespace Changelog

/-- A line feed at the end of a file that ends firm makes no difference. -/
theorem parse_concat_feed {t : Text} (h : endsFirm t = true) : parse (t ++ ['\n']) = parse t := by
  unfold parse linesOf
  rw [lines_concat_feed h]

/-- A version is read back from its text. -/
theorem parse_version_render {v : Version} (h : v.Canonical) : parse v.render = ⟨[v]⟩ := by
  have hone : Changelog.Canonical ⟨[v]⟩ :=
    ⟨List.forall_mem_singleton.mpr h, List.nodup_singleton _, List.forall_mem_nil _⟩
  have hrender : render ⟨[v]⟩ = v.render ++ ['\n'] :=
    congrArg (· ++ ['\n']) List.intercalate_singleton
  rw [← parse_concat_feed (v.endsFirm_render h), ← hrender]
  exact parse_render hone

/-- **A version that holds something is read back from its body**, but for its date, when its id is
put in front as a heading. -/
theorem parse_body {v : Version} (h : v.Canonical) (hne : v.isEmpty = false) :
    parse ("## " ++ v.id ++ "\n\n" ++ v.body) = ⟨[{ v with date := none }]⟩ := by
  rw [v.heading_body_eq_render h hne]
  exact parse_version_render h.undated

/-- Blank lines behind a text that ends firm make no difference. -/
theorem parse_append_blank {t : Text} (h : endsFirm t = true) :
    parse (t ++ "\n\n\n") = parse t := by
  have hlines : linesOf (t ++ "\n\n\n") = linesOf t ++ [.blank, .blank] := by
    have hcut := lines_append t "\n\n"
    rw [lines_concat_feed h] at hcut
    exact (congrArg (List.map classify) hcut).trans (List.map_append ..)
  rw [parse, hlines, Reader.readAll_append]
  rfl

/-- **A body loses nothing.** It is empty exactly when the version holds nothing, and otherwise too
the version is read back from it, but for its date, when its id is put in front as a heading. -/
theorem parse_heading_body (t : Text) {v : Version} (hv : v ∈ (parse t).versions) :
    (v.body = [] ↔ v.entries = [] ∧ v.sections = []) ∧
    parse ("## " ++ v.id ++ "\n\n" ++ v.body ++ "\n") = ⟨[{ v with date := none }]⟩ := by
  have h : v.Canonical := (parse_canonical t).versions v hv
  refine ⟨v.body_eq_nil_iff h, ?_⟩
  have hread : parse (Version.render { v with date := none }) = ⟨[{ v with date := none }]⟩ :=
    parse_version_render h.undated
  have hfirm := Version.endsFirm_render h.undated
  cases hempty : v.isEmpty with
  | false =>
      rw [v.heading_body_eq_render h hempty]
      exact (parse_concat_feed hfirm).trans hread
  | true =>
      obtain ⟨hentries, hsections⟩ : v.entries = [] ∧ v.sections = [] := by
        simpa [Version.isEmpty] using hempty
      have hbody := (v.body_eq_nil_iff h).mpr ⟨hentries, hsections⟩
      have hrender : Version.render { v with date := none } = "## " ++ v.id :=
        Version.render_eq_heading hentries hsections
      have htext : "## " ++ v.id ++ "\n\n" ++ v.body ++ "\n" =
          Version.render { v with date := none } ++ "\n\n\n" := by
        rw [hbody, hrender, List.append_nil, List.append_assoc]
        rfl
      rw [htext, parse_append_blank hfirm, hread]

/-- A version with a date, an entry of its own, a section without entries and one with. -/
theorem parse_heading_body_mixed :
    let t : Text :=
      "## 1.0.0 / May 2015\n* Direct\nline (#1)\n### Empty\n## HEAD\n## 1.0.0\n### Bugs\n* Fix"
    let v : Version := ⟨"1.0.0", some "May 2015", [⟨"Direct line", some "#1"⟩],
      [⟨"Empty", []⟩, ⟨"Bugs", [⟨"Fix", none⟩]⟩]⟩
    v ∈ (parse t).versions ∧ v.body ≠ [] ∧
      parse ("## " ++ v.id ++ "\n\n" ++ v.body ++ "\n") = ⟨[{ v with date := none }]⟩ := by
  intro t v
  have hv : v ∈ (parse t).versions := by decide +kernel
  obtain ⟨hempty, hread⟩ := parse_heading_body t hv
  exact ⟨hv, fun hbody => absurd (hempty.mp hbody).1 (by decide), hread⟩

end Changelog

end MergeScribe
