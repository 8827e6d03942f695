import MergeScribe.Proofs.Changelog.Ink
import MergeScribe.Proofs.Changelog.Slot
import MergeScribe.Proofs.Handler.Notes

/-!
# No markup

Reading a file and writing it move characters around, and the few that they add are spaces, the marks
of the forms, and `HEAD`. So a property that these have is one that all characters of a document
have when those of its file do, and the other way round. Main statements: the form of a line is
written with no other characters (`Admits.written_classify`), no line brings others into the document
(`Reader.read_madeOf`), so a file and its document are made of the same characters
(`Changelog.parse_madeOf`, `Changelog.MadeOf.render`); what was escaped can be told from what it is
escaped to (`unescape_escapeHtml`). Together: however titles look, entering them never brings markup
into a file, and no two of them are entered alike (`Changelog.files_unmarked`).
-/

namespace MergeScribe

open Text

/-! ## 1. Characters -/

/-- A property of characters that all those have which reading and writing add. Besides spaces these
are the characters that headings, changes and dates are marked with, and those of `HEAD`. -/
structure Admits (p : Char → Prop) : Prop where
  space : ∀ c, isSpace c = true → p c
  mark : ∀ c ∈ ("#*/()HEAD" : Text), p c

section

variable {p : Char → Prop}

namespace Admits

theorem literal (h : Admits p) {t : Text}
    (ht : t.all (fun c => isSpace c || "#*/()HEAD".toList.contains c) = true) : ∀ c ∈ t, p c := by
  intro c hc
  have hadded := List.all_eq_true.mp ht c hc
  rw [Bool.or_eq_true, List.contains_iff_mem] at hadded
  exact hadded.elim (h.space c) (h.mark c)

theorem forall_mem_ink (h : Admits p) {t : Text} : (∀ c ∈ ink t, p c) ↔ ∀ c ∈ t, p c := by
  constructor
  · intro hink c hc
    by_cases hs : isSpace c = true
    · exact h.space c hs
    · exact hink c (List.mem_filter.mpr ⟨hc, by simpa using hs⟩)
  · exact fun ht c hc => ht c (List.mem_of_mem_filter hc)

/-- **The form of a line is written with the characters of the line**, and with no other characters
than may be added. -/
theorem written_classify (h : Admits p) {line : Text} (hl : ∀ c ∈ line, p c) :
    ∀ c ∈ (classify line).written, p c := by
  rw [← h.forall_mem_ink] at hl ⊢
  cases respelled_written line with
  | spaces hink =>
      rw [hink]
      exact hl
  | head hword before after =>
      -- the word in the line may be in any case, but what is written for it may be added
      rw [before, List.forall_mem_append, List.forall_mem_append] at hl
      rw [after, List.forall_mem_append, List.forall_mem_append]
      exact ⟨hl.1, h.literal (by decide), hl.2.2⟩

end Admits

theorem afterBlankLine_subset (t : Text) : afterBlankLine t ⊆ t := by
  fun_induction afterBlankLine t with
  | case1 rest => exact List.subset_cons_of_subset _ (List.subset_cons_self _ rest)
  | case2 c rest _ ih => exact List.subset_cons_of_subset c ih
  | case3 => exact List.Subset.refl _

/-! ## 2. Documents -/

/-- Written, the entry has only characters with the property. -/
def Entry.MadeOf (p : Char → Prop) (e : Entry) : Prop :=
  ∀ c ∈ e.render, p c

structure Section.MadeOf (p : Char → Prop) (s : Section) : Prop where
  heading : ∀ c ∈ ("### " ++ s.name : Text), p c
  entries : ∀ e ∈ s.entries, e.MadeOf p

structure Version.MadeOf (p : Char → Prop) (v : Version) : Prop where
  heading : ∀ c ∈ v.renderHeading, p c
  entries : ∀ e ∈ v.entries, e.MadeOf p
  sections : ∀ s ∈ v.sections, s.MadeOf p

def Changelog.MadeOf (p : Char → Prop) (c : Changelog) : Prop :=
  ∀ v ∈ c.versions, v.MadeOf p

theorem Entry.madeOf_iff (hp : Admits p) {e : Entry} : e.MadeOf p ↔ ∀ c ∈ entryText e, p c := by
  have hmark : ("  * " ++ entryText e : Text) = e.render := e.render_eq.symm
  rw [MadeOf, ← hmark, List.forall_mem_append, and_iff_right (hp.literal (by decide))]

/-! ## 3. Writing -/

section Writing

variable (hp : Admits p)

include hp

theorem Entry.forall_mem_renderBlock {entries : List Entry} (h : ∀ e ∈ entries, e.MadeOf p) :
    ∀ c ∈ Entry.renderBlock entries, p c := by
  unfold renderBlock
  split
  · exact List.forall_mem_nil _
  · rw [List.forall_mem_append]
    exact ⟨hp.literal (by decide),
      forall_mem_intercalate (hp.literal (by decide)) (List.forall_mem_map.mpr h)⟩

theorem Section.MadeOf.render {s : Section} (h : s.MadeOf p) : ∀ c ∈ s.render, p c :=
  List.forall_mem_append.mpr ⟨h.heading, Entry.forall_mem_renderBlock hp h.entries⟩

theorem Section.forall_mem_renderBlock {sections : List Section} (h : ∀ s ∈ sections, s.MadeOf p) :
    ∀ c ∈ Section.renderBlock sections, p c := by
  unfold renderBlock
  split
  · exact List.forall_mem_nil _
  · rw [List.forall_mem_append]
    exact ⟨hp.literal (by decide), forall_mem_intercalate (hp.literal (by decide))
      (List.forall_mem_map.mpr fun s hs => (h s hs).render hp)⟩

theorem Version.MadeOf.render {v : Version} (h : v.MadeOf p) : ∀ c ∈ v.render, p c := by
  rw [Version.render, List.forall_mem_append, List.forall_mem_append]
  exact ⟨⟨h.heading, Entry.forall_mem_renderBlock hp h.entries⟩,
    Section.forall_mem_renderBlock hp h.sections⟩

theorem Version.MadeOf.body {v : Version} (h : v.MadeOf p) : ∀ c ∈ v.body, p c :=
  fun c hc => h.render hp c (afterBlankLine_subset v.render hc)

/-- **The file of a document is made of the characters of the document.** -/
theorem Changelog.MadeOf.render {c : Changelog} (h : c.MadeOf p) : ∀ x ∈ c.render, p x := by
  rw [Changelog.render, List.forall_mem_append]
  exact ⟨forall_mem_intercalate (hp.literal (by decide))
    (List.forall_mem_map.mpr fun v hv => (h v hv).render hp), hp.literal (by decide)⟩

end Writing

/-! ## 4. Edits -/

namespace Version.MadeOf

variable {v : Version}

theorem modifyEntries (h : v.MadeOf p) {f : List Entry → List Entry}
    (hf : ∀ es : List Entry, (∀ e ∈ es, e.MadeOf p) → ∀ e ∈ f es, e.MadeOf p)
    (sectionAt : Option Nat) : (v.modifyEntries sectionAt f).MadeOf p := by
  cases sectionAt with
  | none => exact ⟨h.heading, hf v.entries h.entries, h.sections⟩
  | some j =>
      exact ⟨h.heading, h.entries, forall_mem_modify
        (fun s hs => ⟨hs.heading, hf s.entries hs.entries⟩) h.sections j⟩

theorem ensureSection (h : v.MadeOf p) {name : Text} (hn : ∀ c ∈ ("### " ++ name : Text), p c) :
    (v.ensureSection name).MadeOf p := by
  unfold Version.ensureSection
  split
  · exact h
  · exact ⟨h.heading, h.entries, List.forall_mem_append.mpr
      ⟨h.sections, List.forall_mem_singleton.mpr ⟨hn, List.forall_mem_nil _⟩⟩⟩

theorem append (h : v.MadeOf p) {e : Entry} (he : e.MadeOf p) : {place : Place} →
    (∀ name, place = .under name → ∀ c ∈ ("### " ++ name : Text), p c) → (v.append e place).MadeOf p
  | .direct, _ => ⟨h.heading, List.forall_mem_append.mpr
      ⟨h.entries, List.forall_mem_singleton.mpr he⟩, h.sections⟩
  | .under name, hn => by
      have hv := h.ensureSection (hn name rfl)
      refine ⟨hv.heading, hv.entries, forall_mem_updateFirst (fun s hs => ?_) hv.sections⟩
      exact ⟨hs.heading, List.forall_mem_append.mpr
        ⟨hs.entries, List.forall_mem_singleton.mpr he⟩⟩

end Version.MadeOf

namespace Changelog.MadeOf

variable {c : Changelog}

theorem modifyVersion (h : c.MadeOf p) {f : Version → Version}
    (hf : ∀ v, v.MadeOf p → (f v).MadeOf p) (i : Nat) : (c.modifyVersion i f).MadeOf p :=
  forall_mem_modify hf h i

theorem ensureVersion (h : c.MadeOf p) {id : Text} (hid : ∀ x ∈ ("## " ++ id : Text), p x) :
    (c.ensureVersion id).MadeOf p := by
  unfold Changelog.ensureVersion
  split
  · exact h
  · intro v hv
    cases mem_insertFresh.mp hv with
    | inl e =>
        rw [e]
        exact ⟨hid, List.forall_mem_nil _, List.forall_mem_nil _⟩
    | inr hv => exact h v hv

theorem append (h : c.MadeOf p) {id : Text} {place : Place} {e : Entry}
    (hid : ∀ x ∈ ("## " ++ id : Text), p x)
    (hplace : ∀ name, place = .under name → ∀ x ∈ ("### " ++ name : Text), p x)
    (he : e.MadeOf p) : (c.append id place e).2.MadeOf p := by
  unfold Changelog.append
  split
  · exact h
  · exact forall_mem_updateFirst (fun v hv => hv.append he hplace) (h.ensureVersion hid)

end Changelog.MadeOf

/-! ## 5. Reading -/

/-- A wrapped line brings its characters, and a space before them. -/
theorem Entry.MadeOf.extend (hp : Admits p) {e : Entry} (h : e.MadeOf p) {t : Text}
    (ht : ∀ c ∈ t, p c) : (e.extend t).MadeOf p := by
  have hspace : p ' ' := hp.space ' ' (by decide)
  rw [madeOf_iff hp] at h ⊢
  obtain ⟨summary, reference⟩ := e
  cases reference with
  | none =>
      show ∀ c ∈ entryText (ofText (summary ++ ' ' :: t)), p c
      rw [entryText_ofText, List.forall_mem_append, List.forall_mem_cons]
      exact ⟨h, hspace, ht⟩
  | some r =>
      obtain ⟨hsummary, hreference⟩ := List.forall_mem_append.mp h
      show ∀ c ∈ (summary ++ ' ' :: t) ++ (" (" ++ r ++ ")"), p c
      rw [List.forall_mem_append, List.forall_mem_append, List.forall_mem_cons]
      exact ⟨⟨hsummary, hspace, ht⟩, hreference⟩

namespace Reader

variable {r : Reader}

/-- **No line brings characters into the document but its own**, wherever the cursors are. -/
theorem read_madeOf (hp : Admits p) (h : r.document.MadeOf p) {line : Line}
    (hl : ∀ c ∈ line.written, p c) : (r.read line).document.MadeOf p := by
  cases line with
  | version id date =>
      have hadded : Version.MadeOf p { Version.fresh id with date := date } :=
        ⟨hl, List.forall_mem_nil _, List.forall_mem_nil _⟩
      show (r.enterVersion id date).document.MadeOf p
      unfold enterVersion
      split
      · exact h
      split
      · exact List.forall_mem_cons.mpr ⟨hadded, h⟩
      · exact List.forall_mem_append.mpr ⟨h, List.forall_mem_singleton.mpr hadded⟩
  | heading name =>
      show (r.enterSection name).document.MadeOf p
      unfold enterSection
      split
      · exact h
      · exact h.modifyVersion (fun v hv => hv.ensureSection hl) _
  | change e =>
      show (r.addEntry e).document.MadeOf p
      unfold addEntry
      split
      · exact h
      · refine h.modifyVersion (fun v hv => hv.modifyEntries (fun es hes => ?_) r.sectionAt) _
        exact List.forall_mem_append.mpr ⟨hes, List.forall_mem_singleton.mpr hl⟩
  | blank => exact h
  | other content =>
      show (r.continueEntry content).document.MadeOf p
      unfold continueEntry
      split
      · exact h
      · rename_i spot _
        refine h.modifyVersion (fun v hv => hv.modifyEntries (fun es hes => ?_) spot.sectionAt) _
        exact forall_mem_modify (fun e he => he.extend hp hl) hes spot.entry

theorem readAll_madeOf (hp : Admits p) {lines : List Line} (h : r.document.MadeOf p)
    (hl : ∀ line ∈ lines, ∀ c ∈ line.written, p c) : (r.readAll lines).document.MadeOf p := by
  induction lines generalizing r with
  | nil => exact h
  | cons line more ih =>
      obtain ⟨hline, hmore⟩ := List.forall_mem_cons.mp hl
      exact ih (read_madeOf hp h hline) hmore

end Reader

/-- **A document is made of the characters of its file.** -/
theorem Changelog.parse_madeOf (hp : Admits p) {t : Text} (ht : ∀ c ∈ t, p c) :
    (parse t).MadeOf p := by
  refine Reader.readAll_madeOf (r := Reader.start) hp (List.forall_mem_nil _) ?_
  refine List.forall_mem_map.mpr fun line hline => hp.written_classify fun c hc => ?_
  exact ht c (subset_of_mem_lines hline hc)

/-- What a tag is announced with is made of the characters of the document. -/
theorem ReleaseNotes.forall_mem_body (hp : Admits p) {c : Changelog} (h : c.MadeOf p)
    {tag path : Text} {notes : ReleaseNotes} (hnotes : ofTag c tag path = .ok notes) :
    ∀ x ∈ notes.body, p x := by
  obtain ⟨version, v, htakes, rfl⟩ := exists_takes_of_ofTag hnotes
  exact (h v htakes.mem).body hp

end

/-! ## 6. Escaping -/

/-- The text that was escaped, read in one pass. -/
def unescape : Text → Text
  | '&' :: 'l' :: 't' :: ';' :: t => '<' :: unescape t
  | '&' :: 'g' :: 't' :: ';' :: t => '>' :: unescape t
  | '&' :: 'a' :: 'm' :: 'p' :: ';' :: t => '&' :: unescape t
  | c :: t => c :: unescape t
  | [] => []

theorem unescape_escapeChar (c : Char) (t : Text) :
    unescape (escapeChar c ++ t) = c :: unescape t := by
  unfold escapeChar
  split
  · subst_vars
    rfl
  split
  · subst_vars
    rfl
  split
  · subst_vars
    rfl
  · rename_i hamp
    rw [List.singleton_append, unescape]
    all_goals exact fun _ e => absurd e hamp

/-- **What was escaped can be told from what it is escaped to.** -/
theorem unescape_escapeHtml (t : Text) : unescape (escapeHtml t) = t := by
  induction t with
  | nil => rfl
  | cons c t ih =>
      have hcons : escapeHtml (c :: t) = escapeChar c ++ escapeHtml t := rfl
      rw [hcons, unescape_escapeChar, ih]

/-- The text has no angle brackets, so HTML sees no tag in it. -/
def Unmarked (t : Text) : Prop :=
  ∀ c ∈ t, c ≠ '<' ∧ c ≠ '>'

/-- Only the characters of the text are gone through, not all there are. -/
instance (t : Text) : Decidable (Unmarked t) :=
  List.decidableBAll _ t

theorem unmarked_append {t u : Text} : Unmarked (t ++ u) ↔ Unmarked t ∧ Unmarked u :=
  List.forall_mem_append

theorem unmarked_escapeChar (c : Char) : Unmarked (escapeChar c) := by
  unfold escapeChar
  split
  · decide
  split
  · decide
  split
  · decide
  · rename_i hopen hclose _
    exact List.forall_mem_singleton.mpr ⟨hopen, hclose⟩

theorem unmarked_escapeHtml (t : Text) : Unmarked (escapeHtml t) := by
  intro d hd
  obtain ⟨c, -, hd⟩ := List.mem_flatMap.mp hd
  exact unmarked_escapeChar c d hd

theorem admits_unmarked : Admits fun c => c ≠ '<' ∧ c ≠ '>' where
  space := by
    intro c hc
    have hopen : isSpace '<' = false := by decide
    have hclose : isSpace '>' = false := by decide
    constructor
    · intro e
      rw [e, hopen] at hc
      cases hc
    · intro e
      rw [e, hclose] at hc
      cases hc
  mark := (by decide : Unmarked "#*/()HEAD")

/-! ## 7. Entering -/

/-- A merged change that is to be entered. -/
structure MergedChange where
  sectionName : Text
  title : Text
  reference : Text

namespace Changelog

/-- The files on the way from a file to the one with all of these changes entered, both included. -/
def files (t : Text) (changes : List MergedChange) : List Text :=
  changes.scanl (fun t m => addMerge t m.sectionName m.title m.reference) t

variable {t sectionName title title' reference : Text}

/-- **Entering a change keeps a file without markup**, whatever the title. -/
theorem addMerge_unmarked (ht : Unmarked t) (hs : Unmarked sectionName) (title : Text)
    (hr : Unmarked reference) : Unmarked (addMerge t sectionName title reference) := by
  have hplace (name : Text) (h : Place.ofSection sectionName = .under name) :
      Unmarked ("### " ++ name) := by
    unfold Place.ofSection at h
    split at h
    · cases h
    · cases h
      exact unmarked_append.mpr ⟨by decide, hs⟩
  have hentry : Entry.MadeOf (fun c => c ≠ '<' ∧ c ≠ '>')
      (Entry.referring (escapeHtml title) reference) := by
    rw [Entry.madeOf_iff admits_unmarked, Entry.referring]
    split
    · exact unmarked_escapeHtml title
    · exact unmarked_append.mpr ⟨unmarked_escapeHtml title,
        unmarked_append.mpr ⟨unmarked_append.mpr ⟨by decide, hr⟩, by decide⟩⟩
  have hhead : Unmarked ("## " ++ Version.head) := by decide
  exact ((parse_madeOf admits_unmarked ht).append hhead hplace hentry).render admits_unmarked

theorem files_all_unmarked (ht : Unmarked t) {changes : List MergedChange}
    (h : ∀ m ∈ changes, Unmarked m.sectionName ∧ Unmarked m.reference) :
    ∀ file ∈ files t changes, Unmarked file := by
  -- on the changes, from whatever file without markup they start
  induction changes generalizing t with
  | nil =>
      rw [files, List.scanl_nil]
      exact List.forall_mem_singleton.mpr ht
  | cons m changes ih =>
      obtain ⟨hm, hmore⟩ := List.forall_mem_cons.mp h
      rw [files, List.scanl_cons]
      exact List.forall_mem_cons.mpr
        ⟨ht, ih (addMerge_unmarked ht hm.1 m.title hm.2) hmore⟩

/-- The line of an entry shows its summary. -/
theorem summary_eq_of_render_eq {summary summary' : Text} {reference : Option Text}
    (h : Entry.render ⟨summary, reference⟩ = Entry.render ⟨summary', reference⟩) :
    summary = summary' := by
  cases reference with
  | none => exact List.append_cancel_left h
  | some r =>
      have hbefore := List.append_cancel_right (List.append_cancel_right (List.append_cancel_right h))
      exact List.append_cancel_left hbefore

/-- **No two titles are entered alike.** -/
theorem addMerge_inj (hnew : ((parse t).insertMerge sectionName title reference).1 = true)
    (h : addMerge t sectionName title reference = addMerge t sectionName title' reference) :
    title = title' := by
  obtain ⟨before, after, hslot⟩ := (parse t).slot_enter Version.head (Place.ofSection sectionName)
  have hfile (title : Text) : addMerge t sectionName title reference = before ++
      '\n' :: ((Entry.referring (escapeHtml title) reference).render ++ '\n' :: after) := by
    -- the place does not list the reference, whatever the title
    have hlisted : Entry.listed ((parse t).entriesAt Version.head (Place.ofSection sectionName))
        (Entry.referring (escapeHtml title) reference).reference = false := by
      unfold insertMerge append at hnew
      split at hnew
      · cases hnew
      · rename_i hlisted
        exact Bool.eq_false_iff.mpr hlisted
    rw [← hslot, addMerge, insertMerge, append_of_not_listed hlisted]
  rw [hfile title, hfile title'] at h
  have hescaped := summary_eq_of_render_eq
    (List.append_cancel_right (List.cons.inj (List.append_cancel_left h)).2)
  rw [← unescape_escapeHtml title, hescaped, unescape_escapeHtml]

/-- **Titles never bring markup in**, into no file on the way and into nothing that is announced from
one, whatever they look like; and from what is entered the title can be told. -/
theorem files_unmarked (ht : Unmarked t) {changes : List MergedChange}
    (h : ∀ m ∈ changes, Unmarked m.sectionName ∧ Unmarked m.reference) :
    (∀ file ∈ files t changes, Unmarked file ∧ ∀ tag path notes,
      ReleaseNotes.ofTag (parse file) tag path = .ok notes → Unmarked notes.body) ∧
    (∀ title, unescape (escapeHtml title) = title) ∧
    ∀ file sectionName title title' reference,
      ((parse file).insertMerge sectionName title reference).1 = true →
      addMerge file sectionName title reference = addMerge file sectionName title' reference →
      title = title' := by
  refine ⟨fun file hfile => ?_, unescape_escapeHtml, fun _ _ _ _ _ => addMerge_inj⟩
  have hunmarked := files_all_unmarked ht h file hfile
  exact ⟨hunmarked, fun tag path notes =>
    ReleaseNotes.forall_mem_body admits_unmarked (parse_madeOf admits_unmarked hunmarked)⟩

/-- A title that brings a version along, which can be announced, brings no markup along. -/
theorem files_unmarked_heading :
    let change : MergedChange := ⟨"Bug Fixes", "Close <b>\n## 1.0.0\n* Keep &lt;i>", "#1"⟩
    let file := addMerge [] change.sectionName change.title change.reference
    let notes : ReleaseNotes := ⟨"v1.0.0", "1.0.0", "  * Keep &amp;lt;i&gt; (#1)", false⟩
    Unmarked [] ∧ (∀ m ∈ [change], Unmarked m.sectionName ∧ Unmarked m.reference) ∧
      Unmarked file ∧ ReleaseNotes.ofTag (parse file) "v1.0.0" [] = .ok notes ∧
      Unmarked notes.body := by
  intro change file notes
  have hparts : ∀ m ∈ [change], Unmarked m.sectionName ∧ Unmarked m.reference := by decide
  have hfile : file ∈ files [] [change] := by decide +kernel
  have hnotes : ReleaseNotes.ofTag (parse file) "v1.0.0" [] = .ok notes := by rfl
  obtain ⟨hunmarked, hbody⟩ := (files_unmarked (List.forall_mem_nil _) hparts).1 file hfile
  exact ⟨List.forall_mem_nil _, hparts, hunmarked, hnotes, hbody _ _ _ hnotes⟩

end Changelog

end MergeScribe
