import Mathlib.Data.List.Chain
import MergeScribe.Proofs.Changelog.Reading
import MergeScribe.Proofs.Changelog.Slot

/-!
# The look of a written changelog

A written changelog looks the same whatever file it was read from: headings between single blank
lines, entries indented by two spaces one right below the other, no spaces at the end of a line, one
line feed at the end. The texts of sections and versions are blocks of rows (`Block`); a block is put
together from smaller ones with a blank row between them (`Block.apart`). Main statement: what is
written for the document of any file is tidy, and the entries of each place stand together in it
(`Changelog.tidy_render_parse`).
-/

namespace MergeScribe

open Text

/-! ## 1. Rows -/

/-- A row that heads a version or a section. -/
def HeadingRow (row : Text) : Prop :=
  "## ".toList <+: row ∨ "### ".toList <+: row

/-- A row with an entry: two spaces, an asterisk, one space, and text that does not start with
another. -/
def EntryRow (row : Text) : Prop :=
  ∃ text : Text, row = "  * " ++ text ∧ startsFirm text = true

/-- What may stand right below what: around a heading there are blank rows, and a blank row stands
alone. -/
structure Below (row next : Text) : Prop where
  belowHeading : HeadingRow row → next = []
  aboveHeading : HeadingRow next → row = []
  belowBlank : row = [] → next ≠ []

variable {row next : Text}

theorem not_headingRow_nil : ¬ HeadingRow [] := by
  rintro (h | h) <;> cases List.prefix_nil.mp h

theorem HeadingRow.ne_nil (h : HeadingRow row) : row ≠ [] :=
  fun e => not_headingRow_nil (e ▸ h)

theorem EntryRow.ne_nil (h : EntryRow row) : row ≠ [] := by
  obtain ⟨text, rfl, -⟩ := h
  exact List.cons_ne_nil _ _

theorem EntryRow.not_headingRow (h : EntryRow row) : ¬ HeadingRow row := by
  obtain ⟨text, rfl, -⟩ := h
  rintro (h | h)
  · exact absurd (List.cons_prefix_cons.mp h).1 (by decide)
  · exact absurd (List.cons_prefix_cons.mp h).1 (by decide)

theorem Entry.entryRow_render {e : Entry} (h : e.Canonical) : EntryRow e.render :=
  ⟨entryText e, Entry.render_eq e, (phrase_entryText h).starts⟩

theorem below_nil (h : row ≠ []) : Below row [] :=
  ⟨fun _ => rfl, fun hnil => absurd hnil not_headingRow_nil, fun e => absurd e h⟩

theorem nil_below (h : next ≠ []) : Below [] next :=
  ⟨fun hnil => absurd hnil not_headingRow_nil, fun _ => rfl, fun _ => h⟩

theorem EntryRow.below (h : EntryRow row) (h' : EntryRow next) : Below row next :=
  ⟨fun hheading => absurd hheading h.not_headingRow,
    fun hheading => absurd hheading h'.not_headingRow, fun e => absurd e h.ne_nil⟩

/-! ## 2. Blocks -/

/-- A text of rows that starts with a heading and ends in a row that is not blank. A blank row in it
has a heading right above or right below. -/
structure Block (t : Text) (rows : List Text) : Prop where
  joined : joined "\n" rows = t
  starts : ∃ row ∈ rows.head?, HeadingRow row
  ends : ∃ row ∈ rows.getLast?, endsFirm row = true
  forms : ∀ row ∈ rows, row = [] ∨ (HeadingRow row ∨ EntryRow row) ∧ endsFirm row = true
  chain : rows.IsChain Below
  beside : ∀ before above below after, rows = before ++ above :: [] :: below :: after →
    HeadingRow above ∨ HeadingRow below

/-- A blank row between two parts is a blank line between their texts. -/
theorem joined_blank {rows more : List Text} (h : rows ≠ []) (h' : more ≠ []) :
    joined "\n" (rows ++ [] :: more) = joined "\n" rows ++ ("\n\n" ++ joined "\n" more) := by
  have htail : joined "\n" ([] :: more) = '\n' :: joined "\n" more :=
    List.intercalate_cons_of_ne_nil h'
  rw [joined_append "\n" h (List.cons_ne_nil _ _), htail]
  rfl

namespace Block

variable {t u : Text} {rows more : List Text}

theorem ne_nil (h : Block t rows) : rows ≠ [] := by
  rintro rfl
  obtain ⟨row, hrow, -⟩ := h.starts
  cases hrow

/-- A block does not start with a blank row, -/
theorem ne_blank_cons (h : Block t rows) (after : List Text) : rows ≠ [] :: after := by
  rintro rfl
  obtain ⟨row, hrow, hheading⟩ := h.starts
  exact hheading.ne_nil (Option.some.inj hrow).symm

/-- and it does not end in one. -/
theorem ne_concat_blank (h : Block t rows) (before : List Text) : rows ≠ before ++ [[]] := by
  rintro rfl
  obtain ⟨row, hrow, hfirm⟩ := h.ends
  rw [List.getLast?_concat] at hrow
  rw [← Option.some.inj hrow] at hfirm
  cases hfirm

/-- **Two blocks with a blank row between them are a block.** -/
theorem apart (h : Block t rows) (h' : Block u more) :
    Block (t ++ ("\n\n" ++ u)) (rows ++ [] :: more) where
  joined := by rw [joined_blank h.ne_nil h'.ne_nil, h.joined, h'.joined]
  starts := by
    rw [List.head?_append_of_ne_nil _ h.ne_nil]
    exact h.starts
  ends := by
    rw [List.getLast?_append_of_ne_nil _ (List.cons_ne_nil _ _),
      List.getLast?_cons_of_ne_nil h'.ne_nil]
    exact h'.ends
  forms := List.forall_mem_append.mpr
    ⟨h.forms, List.forall_mem_cons.mpr ⟨.inl rfl, h'.forms⟩⟩
  chain := by
    refine List.isChain_append.mpr ⟨h.chain, List.isChain_cons.mpr ⟨?_, h'.chain⟩, ?_⟩
    · intro next hnext
      obtain ⟨row, hrow, hheading⟩ := h'.starts
      obtain rfl : row = next := Option.some.inj (hrow.symm.trans hnext)
      exact nil_below hheading.ne_nil
    · intro row hrow next hnext
      obtain rfl : [] = next := Option.some.inj hnext
      obtain ⟨before, rfl⟩ := List.getLast?_eq_some_iff.mp hrow
      exact below_nil fun e => h.ne_concat_blank before (by rw [e])
  beside := by
    -- the blank row is the one between the blocks, or it is in one of them
    intro before above below after hsplit
    rcases List.append_eq_append_iff.mp hsplit with ⟨left, rfl, hright⟩ | ⟨right, rfl, hleft⟩
    · cases left with
      | nil =>
          obtain ⟨-, rfl⟩ := List.cons.inj hright
          exact absurd rfl (h'.ne_blank_cons _)
      | cons blank left => exact h'.beside left above below after (List.cons.inj hright).2
    · match right with
      | [] =>
          obtain ⟨-, rfl⟩ := List.cons.inj hleft
          exact absurd rfl (h'.ne_blank_cons _)
      | [_] =>
          obtain ⟨-, rfl⟩ : _ ∧ _ := by simpa using hleft
          obtain ⟨row, hrow, hheading⟩ := h'.starts
          exact .inr (Option.some.inj hrow ▸ hheading)
      | [_, _] =>
          obtain ⟨rfl, rfl, -⟩ : _ ∧ _ ∧ _ := by simpa using hleft
          refine absurd ?_ (h.ne_concat_blank (before ++ [above]))
          rw [List.append_assoc]
          rfl
      | _ :: _ :: _ :: right =>
          obtain ⟨rfl, rfl, rfl, -⟩ : _ ∧ _ ∧ _ ∧ _ := by simpa using hleft
          exact h.beside before above below right rfl

/-- **Blocks with blank rows between them are a block.** -/
theorem intercalate {α : Type} {f : α → Text} {g : α → List Text} : {xs : List α} → xs ≠ [] →
    (∀ x ∈ xs, Block (f x) (g x)) →
    Block (Text.joined "\n\n" (xs.map f)) (List.intercalate [[]] (xs.map g))
  | [], hne, _ => absurd rfl hne
  | [x], _, h => by
      rw [Text.joined, List.map_singleton, List.map_singleton, List.intercalate_singleton,
        List.intercalate_singleton]
      exact h x List.mem_cons_self
  | x :: y :: xs, _, h => by
      obtain ⟨hfirst, hmore⟩ := List.forall_mem_cons.mp h
      have ih := intercalate (List.cons_ne_nil y xs) hmore
      rw [Text.joined, List.map_cons, List.map_cons, List.map_cons, List.map_cons,
        List.intercalate_cons_cons, List.intercalate_cons_cons, List.append_assoc,
        List.append_assoc]
      exact hfirst.apart ih

/-- A heading alone. -/
theorem heading (h : HeadingRow row) (hfirm : endsFirm row = true) : Block row [row] where
  joined := List.intercalate_singleton
  starts := ⟨row, rfl, h⟩
  ends := ⟨row, rfl, hfirm⟩
  forms := List.forall_mem_singleton.mpr (.inr ⟨.inl h, hfirm⟩)
  chain := List.isChain_singleton row
  beside := by
    intro before above below after hsplit
    have hlength := congrArg List.length hsplit
    simp only [List.length_append, List.length_cons, List.length_nil] at hlength
    omega

/-- A heading with rows of entries below it. -/
theorem entries (h : HeadingRow row) (hfirm : endsFirm row = true) (hne : rows ≠ [])
    (hrows : ∀ r ∈ rows, EntryRow r ∧ endsFirm r = true) :
    Block (row ++ ("\n\n" ++ Text.joined "\n" rows)) (row :: [] :: rows) where
  joined := by
    have hone : Text.joined "\n" [row] = row := List.intercalate_singleton
    have hall := joined_blank (List.cons_ne_nil row []) hne
    rwa [hone] at hall
  starts := ⟨row, rfl, h⟩
  ends := by
    refine ⟨rows.getLast hne, ?_, (hrows _ (List.getLast_mem hne)).2⟩
    rw [List.getLast?_cons_cons, List.getLast?_cons_of_ne_nil hne]
    exact List.getLast?_eq_some_getLast hne
  forms := List.forall_mem_cons.mpr ⟨.inr ⟨.inl h, hfirm⟩, List.forall_mem_cons.mpr
    ⟨.inl rfl, fun r hr => .inr ⟨.inr (hrows r hr).1, (hrows r hr).2⟩⟩⟩
  chain := by
    have hentries : rows.Pairwise Below := List.pairwise_iff_forall_sublist.mpr fun hsub =>
      (hrows _ (hsub.subset (by simp))).1.below (hrows _ (hsub.subset (by simp))).1
    refine List.isChain_cons_cons.mpr ⟨below_nil h.ne_nil, List.isChain_cons.mpr
      ⟨fun next hnext => ?_, hentries.isChain⟩⟩
    exact nil_below (hrows next (List.mem_of_mem_head? hnext)).1.ne_nil
  beside := by
    -- the only blank row is the one below the heading
    intro before above below after hsplit
    cases before with
    | nil => exact .inl ((List.cons.inj hsplit).1 ▸ h)
    | cons first before =>
        obtain ⟨second, later, hlater⟩ :=
          List.exists_cons_of_ne_nil (List.concat_ne_nil above before)
        have hrest : [] :: rows = (second :: later) ++ [] :: below :: after := by
          rw [← hlater, (List.cons.inj hsplit).2]
          simp
        have hmem : [] ∈ rows := by
          rw [(List.cons.inj hrest).2]
          exact List.mem_append_right _ List.mem_cons_self
        exact absurd rfl (hrows [] hmem).1.ne_nil

end Block

/-! ## 3. The blocks of a document -/

/-- A heading with its entries. -/
theorem Entry.block_renderBlock (h : HeadingRow row) (hfirm : endsFirm row = true)
    {entries : List Entry} (he : ∀ e ∈ entries, e.Canonical) :
    Block (row ++ Entry.renderBlock entries) (row :: Entry.blockRows entries) := by
  unfold Entry.renderBlock Entry.blockRows
  cases entries with
  | nil =>
      rw [List.isEmpty_nil, if_pos rfl, if_pos rfl, List.append_nil]
      exact .heading h hfirm
  | cons e entries =>
      exact .entries h hfirm (List.cons_ne_nil _ _) (List.forall_mem_map.mpr fun e' he' =>
        ⟨Entry.entryRow_render (he e' he'), Entry.endsFirm_render (he e' he')⟩)

theorem Section.block_render {s : Section} (h : s.Canonical) : Block s.render s.rows :=
  Entry.block_renderBlock (.inr (List.prefix_append _ _)) (endsFirm_append h.name.ends _) h.entries

/-- A block with sections behind it. -/
theorem Section.block_renderBlock {t : Text} {rows : List Text} (ht : Block t rows)
    {sections : List Section} (hs : ∀ s ∈ sections, s.Canonical) :
    Block (t ++ Section.renderBlock sections) (rows ++ Section.blockRows sections) := by
  unfold Section.renderBlock Section.blockRows
  cases sections with
  | nil => simpa using ht
  | cons s sections =>
      exact ht.apart (.intercalate (List.cons_ne_nil _ _) fun s' hs' =>
        Section.block_render (hs s' hs'))

theorem Version.prefix_renderHeading (v : Version) : "## ".toList <+: v.renderHeading := by
  unfold Version.renderHeading
  split
  · rw [List.append_assoc, List.append_assoc]
    exact List.prefix_append _ _
  · exact List.prefix_append _ _

theorem Version.prefix_render (v : Version) : "## ".toList <+: v.render := by
  rw [Version.render, List.append_assoc]
  exact v.prefix_renderHeading.trans (List.prefix_append _ _)

theorem Version.block_render {v : Version} (h : v.Canonical) : Block v.render v.rows :=
  Section.block_renderBlock (Entry.block_renderBlock (.inl v.prefix_renderHeading)
    (Version.endsFirm_renderHeading h.id h.date) h.entries) h.sections

theorem Changelog.block_render {c : Changelog} (h : c.Canonical) (hne : c.versions ≠ []) :
    Block (joined "\n\n" (c.versions.map Version.render)) c.rows :=
  .intercalate hne fun v hv => Version.block_render (h.versions v hv)

/-! ## 4. Entries of one place -/

theorem isInfix_intercalate {α : Type} {separator block : List α} : {blocks : List (List α)} →
    block ∈ blocks → block <:+: List.intercalate separator blocks
  | [], h => nomatch h
  | [only], h => by
      obtain rfl : block = only := List.mem_singleton.mp h
      have hone : List.intercalate separator [block] = block := List.intercalate_singleton
      exact hone.symm ▸ List.infix_rfl
  | first :: second :: blocks, h => by
      rw [List.intercalate_cons_cons, List.append_assoc]
      rcases List.mem_cons.mp h with rfl | h
      · exact (List.prefix_append _ _).isInfix
      · have ih : block <:+: List.intercalate separator (second :: blocks) := isInfix_intercalate h
        exact ih.trans ((List.suffix_append _ _).trans (List.suffix_append _ _)).isInfix

/-- The entries below a heading stand one right below the other. -/
theorem Entry.isSuffix_blockRows (entries : List Entry) :
    entries.map Entry.render <:+ Entry.blockRows entries := by
  unfold Entry.blockRows
  split
  · rename_i h
    rw [List.isEmpty_iff.mp h]
    exact List.suffix_rfl
  · exact List.suffix_cons _ _

theorem Section.isInfix_blockRows {s : Section} {sections : List Section} (h : s ∈ sections) :
    s.rows <:+: Section.blockRows sections := by
  unfold Section.blockRows
  split
  · rename_i hnil
    rw [List.isEmpty_iff.mp hnil] at h
    cases h
  · exact (isInfix_intercalate (List.mem_map_of_mem h)).trans (List.suffix_cons _ _).isInfix

theorem Version.isInfix_rows (v : Version) (place : Place) :
    (v.entriesAt place).map Entry.render <:+: v.rows := by
  cases place with
  | direct =>
      have hblock : v.entries.map Entry.render <:+:
          Entry.blockRows v.entries ++ Section.blockRows v.sections :=
        (Entry.isSuffix_blockRows v.entries).isInfix.trans (List.prefix_append _ _).isInfix
      exact hblock.trans (List.suffix_cons _ _).isInfix
  | under name =>
      cases hs : v.section? name with
      | none =>
          have hnone : v.entriesAt (.under name) = [] := by rw [entriesAt, hs]; rfl
          rw [hnone]
          exact List.nil_infix
      | some s =>
          have hsome : v.entriesAt (.under name) = s.entries := by rw [entriesAt, hs]; rfl
          have hrows : s.entries.map Entry.render <:+: s.rows :=
            ((Entry.isSuffix_blockRows s.entries).trans (List.suffix_cons _ _)).isInfix
          have hsections := Section.isInfix_blockRows (List.mem_of_find?_eq_some hs)
          rw [hsome]
          exact (hrows.trans hsections).trans
            ((List.suffix_append _ _).trans (List.suffix_cons _ _)).isInfix

/-- **The entries of a place stand together.** -/
theorem Changelog.isInfix_rows (c : Changelog) (id : Text) (place : Place) :
    (c.entriesAt id place).map Entry.render <:+: c.rows := by
  cases hv : c.version? id with
  | none =>
      have hnone : c.entriesAt id place = [] := by rw [entriesAt, hv]; rfl
      rw [hnone]
      exact List.nil_infix
  | some v =>
      have hsome : c.entriesAt id place = v.entriesAt place := by rw [entriesAt, hv]; rfl
      rw [hsome]
      exact (v.isInfix_rows place).trans
        (isInfix_intercalate (List.mem_map_of_mem (List.mem_of_find?_eq_some hv)))

/-! ## 5. Files -/

/-- A file with the given rows that is laid out in the canonical way. -/
structure Tidy (t : Text) (rows : List Text) : Prop where
  /-- The rows are all of the file. -/
  joined : t = joined "\n" rows ++ "\n"
  starts : "## ".toList <+: t
  /-- Exactly one line feed ends the file. -/
  ends : ∃ before, t = before ++ ['\n'] ∧ endsFirm before = true
  forms : ∀ row ∈ rows, '\n' ∉ row ∧
    (row = [] ∨ (HeadingRow row ∨ EntryRow row) ∧ endsFirm row = true)
  /-- There are no two blank rows in succession. -/
  single : ∀ before after, rows ≠ before ++ [] :: [] :: after
  /-- Above a heading there is exactly one blank row, unless it is the first row, -/
  above : ∀ before row after, rows = before ++ row :: after → HeadingRow row →
    before = [] ∨ ∃ earlier line, before = earlier ++ [line, []] ∧ line ≠ []
  /-- and below it there is exactly one, unless it is the last. -/
  below : ∀ before row after, rows = before ++ row :: after → HeadingRow row →
    after = [] ∨ ∃ line later, after = [] :: line :: later ∧ line ≠ []
  /-- Where there is no heading between two entries, there is no blank row. -/
  together : ∀ before first between last after,
    rows = before ++ first :: (between ++ last :: after) → EntryRow first → EntryRow last →
    (∀ row ∈ between, ¬ HeadingRow row) → [] ∉ between

namespace Block

variable {t : Text} {rows : List Text}

theorem endsFirm (h : Block t rows) : Text.endsFirm t = true := by
  obtain ⟨row, hrow, hfirm⟩ := h.ends
  obtain ⟨before, rfl⟩ := List.getLast?_eq_some_iff.mp hrow
  rw [← h.joined]
  by_cases hb : before = []
  · subst hb
    have hone : Text.joined "\n" [row] = row := List.intercalate_singleton
    rwa [List.nil_append, hone]
  · have hone : Text.joined "\n" [row] = row := List.intercalate_singleton
    rw [joined_append "\n" hb (List.cons_ne_nil row []), hone]
    exact endsFirm_append (endsFirm_append hfirm _) _

theorem chain_split (h : Block t rows) {before after : List Text} {row next : Text}
    (hsplit : rows = before ++ row :: next :: after) : Below row next := by
  have hchain := h.chain
  rw [hsplit] at hchain
  exact (List.isChain_cons_cons.mp (List.isChain_append.mp hchain).2.1).1

theorem above (h : Block t rows) {before after : List Text} {row : Text}
    (hsplit : rows = before ++ row :: after) (hrow : HeadingRow row) :
    before = [] ∨ ∃ earlier line, before = earlier ++ [line, []] ∧ line ≠ [] := by
  rcases List.eq_nil_or_concat before with rfl | ⟨upper, blank, rfl⟩
  · exact .inl rfl
  have hpair : rows = upper ++ blank :: row :: after := hsplit.trans (by simp)
  obtain rfl : blank = [] := (h.chain_split hpair).aboveHeading hrow
  rcases List.eq_nil_or_concat upper with rfl | ⟨earlier, line, rfl⟩
  · exact absurd hsplit (h.ne_blank_cons _)
  · have hline : rows = earlier ++ line :: [] :: row :: after := hpair.trans (by simp)
    exact .inr ⟨earlier, line, by simp, fun e => (h.chain_split hline).belowBlank e rfl⟩

theorem below (h : Block t rows) {before after : List Text} {row : Text}
    (hsplit : rows = before ++ row :: after) (hrow : HeadingRow row) :
    after = [] ∨ ∃ line later, after = [] :: line :: later ∧ line ≠ [] := by
  cases after with
  | nil => exact .inl rfl
  | cons blank lower =>
      obtain rfl : blank = [] := (h.chain_split hsplit).belowHeading hrow
      cases lower with
      | nil => exact absurd (hsplit.trans (by simp)) (h.ne_concat_blank (before ++ [row]))
      | cons line later =>
          have hline : rows = (before ++ [row]) ++ [] :: line :: later := hsplit.trans (by simp)
          exact .inr ⟨line, later, rfl, (h.chain_split hline).belowBlank rfl⟩

theorem together (h : Block t rows) {before between after : List Text} {first last : Text}
    (hsplit : rows = before ++ first :: (between ++ last :: after)) (hfirst : EntryRow first)
    (hlast : EntryRow last) (hplain : ∀ row ∈ between, ¬ HeadingRow row) : [] ∉ between := by
  intro hmem
  obtain ⟨upper, lower, rfl⟩ := List.append_of_mem hmem
  obtain ⟨hupper, hlower⟩ := List.forall_mem_append.mp hplain
  -- the rows around the blank one are `first`, `last`, or between them, and none is a heading
  obtain ⟨earlier, above, hearlier⟩ : ∃ earlier above, first :: upper = earlier ++ [above] :=
    ⟨_, _, (List.dropLast_concat_getLast (List.cons_ne_nil first upper)).symm⟩
  obtain ⟨below, later, hlater⟩ := List.exists_cons_of_ne_nil (List.concat_ne_nil last lower)
  have habove : above ∈ first :: upper := hearlier ▸ List.mem_append_right _ List.mem_cons_self
  have hbelow : below ∈ lower ++ [last] := hlater ▸ List.mem_cons_self
  have hrows : rows = (before ++ earlier) ++ above :: [] :: below :: (later ++ after) := by
    calc rows = before ++ ((first :: upper) ++ [] :: ((lower ++ [last]) ++ after)) := by
          rw [hsplit]
          simp
      _ = (before ++ earlier) ++ above :: [] :: below :: (later ++ after) := by
          rw [hearlier, hlater]
          simp
  rcases h.beside _ _ _ _ hrows with hheading | hheading
  · rcases List.mem_cons.mp habove with rfl | hm
    · exact hfirst.not_headingRow hheading
    · exact hupper above hm hheading
  · rcases List.mem_append.mp hbelow with hm | hm
    · exact (List.forall_mem_cons.mp hlower).2 below hm hheading
    · exact hlast.not_headingRow (List.mem_singleton.mp hm ▸ hheading)

end Block

theorem prefix_joined (separator first : Text) (more : List Text) :
    first <+: joined separator (first :: more) := by
  cases more with
  | nil =>
      have hone : joined separator [first] = first := List.intercalate_singleton
      exact hone.symm ▸ List.prefix_rfl
  | cons second more =>
      rw [joined, List.intercalate_cons_cons, List.append_assoc]
      exact List.prefix_append _ _

namespace Changelog

/-- **A canonical changelog is written in a tidy file.** -/
theorem Canonical.tidy {c : Changelog} (h : c.Canonical) (hne : c.versions ≠ []) :
    Tidy c.render (lines c.render) := by
  have hrows := lines_render h hne
  have hblock := block_render h hne
  rw [hrows]
  exact {
    joined := by
      rw [hblock.joined]
      rfl
    starts := by
      obtain ⟨v, versions, hversions⟩ := List.exists_cons_of_ne_nil hne
      rw [render, hversions]
      exact v.prefix_render.trans ((prefix_joined "\n\n" _ _).trans (List.prefix_append _ _))
    ends := ⟨_, rfl, hblock.endsFirm⟩
    forms := fun row hrow =>
      ⟨not_mem_of_mem_lines (hrows ▸ hrow), hblock.forms row hrow⟩
    single := fun before after hsplit => (hblock.chain_split hsplit).belowBlank rfl rfl
    above := fun before row after => hblock.above
    below := fun before row after => hblock.below
    together := fun before first between last after => hblock.together }

/-- **Whatever the file, what is written for its document is tidy**, and the entries of each place
stand in it one right below the other. The file of an empty document is a line feed. -/
theorem tidy_render_parse (t : Text) :
    let c := parse t
    let rows := lines c.render
    if c.isEmpty then c.render = "\n".toList
    else Tidy c.render rows ∧
      ∀ id place, (c.entriesAt id place).map Entry.render <:+: rows := by
  intro c rows
  have hcanonical : c.Canonical := parse_canonical t
  split
  · rename_i hempty
    rw [render, List.isEmpty_iff.mp hempty]
    rfl
  · rename_i hempty
    have hne : c.versions ≠ [] := fun e => hempty (List.isEmpty_iff.mpr e)
    refine ⟨hcanonical.tidy hne, fun id place => ?_⟩
    have hrows : rows = c.rows := lines_render hcanonical hne
    rw [hrows]
    exact c.isInfix_rows id place

end Changelog

end MergeScribe
