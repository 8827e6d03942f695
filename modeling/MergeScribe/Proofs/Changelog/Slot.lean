import MergeScribe.Proofs.Changelog.Entering

/-!
# The line of an entered change

A changelog with one more entry is written as before, but for one line: what stands before the line
of the new entry and what stands after it does not depend on the entry. Main statements: a changelog
with one more entry has a slot for it (`Changelog.slot_enter`), and so it is read as if what the
line of the entry is taken for had been entered in its place (`Changelog.parse_render_append`).
-/

namespace MergeScribe

open Text

/-! ## 1. Slots -/

/-- What is joined in two parts is joined. -/
theorem joined_append (separator : Text) {xs ys : List Text} (hxs : xs ≠ []) (hys : ys ≠ []) :
    joined separator (xs ++ ys) = joined separator xs ++ (separator ++ joined separator ys) := by
  induction xs with
  | nil => exact absurd rfl hxs
  | cons x xs ih =>
      by_cases h : xs = []
      · subst h
        simp [joined, List.intercalate_cons_of_ne_nil hys]
      · have hne : xs ++ ys ≠ [] := List.append_ne_nil_of_left_ne_nil h ys
        have ih := ih h
        unfold joined at ih ⊢
        rw [List.cons_append, List.intercalate_cons_of_ne_nil hne, ih,
          List.intercalate_cons_of_ne_nil h]
        simp only [List.append_assoc]

/-- A text with an entry on a line of its own. Whatever follows the text, what stands before that
line and after it does not depend on the entry. -/
def Slot (f : Entry → Text) : Prop :=
  ∃ (before : Text) (after : Text → Text),
    ∀ e rest, f e ++ '\n' :: rest = before ++ '\n' :: (e.render ++ '\n' :: after rest)

namespace Slot

variable {f g : Entry → Text}

theorem congr (h : Slot f) (hg : ∀ e, g e = f e) : Slot g :=
  (funext hg : g = f) ▸ h

theorem prepend (h : Slot f) (t : Text) : Slot fun e => t ++ f e := by
  obtain ⟨before, after, hf⟩ := h
  refine ⟨t ++ before, after, fun e rest => ?_⟩
  rw [List.append_assoc, hf, List.append_assoc]

theorem append_feed (h : Slot f) (t : Text) : Slot fun e => f e ++ '\n' :: t := by
  obtain ⟨before, after, hf⟩ := h
  refine ⟨before, fun rest => after (t ++ '\n' :: rest), fun e rest => ?_⟩
  rw [List.append_assoc, List.cons_append, hf]

/-- Blocks may stand around the one with the entry. -/
theorem joined (h : Slot f) (xs ys : List Text) :
    Slot fun e => Text.joined "\n\n" (xs ++ f e :: ys) := by
  have hys : Slot fun e => Text.joined "\n\n" (f e :: ys) := by
    cases ys with
    | nil => simpa [Text.joined] using h
    | cons y ys => simpa [Text.joined] using h.append_feed ('\n' :: Text.joined "\n\n" (y :: ys))
  by_cases hxs : xs = []
  · subst hxs
    exact hys
  · refine (hys.prepend (Text.joined "\n\n" xs ++ "\n\n")).congr fun e => ?_
    rw [joined_append "\n\n" hxs (List.cons_ne_nil (f e) ys), List.append_assoc]

end Slot

/-! ## 2. A place with one more entry -/

/-- Entries under a heading, the last of which is the new one. -/
theorem Entry.slot_renderBlock (heading : Text) (entries : List Entry) :
    Slot fun e => heading ++ Entry.renderBlock (entries ++ [e]) := by
  cases entries with
  | nil =>
      refine ⟨heading ++ "\n", id, fun e rest => ?_⟩
      simp [Entry.renderBlock, Text.joined]
  | cons first more =>
      refine ⟨heading ++ ("\n\n" ++ Text.joined "\n" ((first :: more).map Entry.render)), id,
        fun e rest => ?_⟩
      have hrows : (first :: more).map Entry.render ≠ [] := by simp
      have hj := joined_append "\n" hrows (List.cons_ne_nil e.render [])
      have he : Text.joined "\n" [e.render] = e.render := List.intercalate_singleton
      rw [he, ← List.map_singleton, ← List.map_append] at hj
      have hb : Entry.renderBlock (first :: more ++ [e]) =
          "\n\n" ++ Text.joined "\n" ((first :: more ++ [e]).map Entry.render) := rfl
      show heading ++ Entry.renderBlock (first :: more ++ [e]) ++ '\n' :: rest = _
      rw [hb, hj]
      simp

theorem Section.slot_render (s : Section) :
    Slot fun e => Section.render { s with entries := s.entries ++ [e] } :=
  Entry.slot_renderBlock ("### " ++ s.name) s.entries

/-- The first member with a property stands between others, whatever it is changed to. -/
theorem updateFirst_eq_append {α : Type} {p : α → Bool} : {l : List α} → l.any p = true →
    ∃ before a after, p a = true ∧ l = before ++ a :: after ∧
      ∀ f, updateFirst p f l = before ++ f a :: after
  | [], h => by simp at h
  | b :: l, h => by
      by_cases hb : p b = true
      · exact ⟨[], b, l, hb, rfl, fun f => by simp [updateFirst, hb]⟩
      · have hl : l.any p = true := by simpa [hb] using h
        obtain ⟨before, a, after, ha, rfl, hf⟩ := updateFirst_eq_append hl
        exact ⟨b :: before, a, after, ha, rfl, fun f => by simp [updateFirst, hb, hf]⟩

namespace Version

/-- The sections of a version after a blank line, or nothing. -/
theorem slot_renderBlock {f : Entry → Text} (h : Slot f) (sections : List Section) :
    Slot fun e => f e ++ Section.renderBlock sections := by
  cases sections with
  | nil => simpa [Section.renderBlock] using h
  | cons s more =>
      simpa [Section.renderBlock] using
        h.append_feed ('\n' :: Text.joined "\n\n" ((s :: more).map Section.render))

theorem any_ensureSection (v : Version) (name : Text) :
    (v.ensureSection name).sections.any (fun s => s.name == name) = true := by
  unfold ensureSection
  split
  · assumption
  · simp

/-- **A version with one more entry has a slot for it.** -/
theorem slot_append (v : Version) : (place : Place) → Slot fun e => (v.append e place).render
  | .direct => slot_renderBlock (Entry.slot_renderBlock v.renderHeading v.entries) v.sections
  | .under name => by
      obtain ⟨before, s, after, -, -, hf⟩ := updateFirst_eq_append (v.any_ensureSection name)
      have hs := s.slot_render.joined (before.map Section.render) (after.map Section.render)
      have hv := hs.prepend ((v.ensureSection name).renderHeading ++
        Entry.renderBlock (v.ensureSection name).entries ++ "\n\n")
      refine hv.congr fun e => ?_
      have hsections : (v.append e (.under name)).sections =
          before ++ { s with entries := s.entries ++ [e] } :: after := hf _
      have hb : Section.renderBlock (v.append e (.under name)).sections = "\n\n" ++
          Text.joined "\n\n" (before.map Section.render ++
            Section.render { s with entries := s.entries ++ [e] } :: after.map Section.render) := by
        rw [hsections]
        simp [Section.renderBlock]
      show (v.ensureSection name).renderHeading ++ Entry.renderBlock (v.ensureSection name).entries ++
        Section.renderBlock (v.append e (.under name)).sections = _
      rw [hb, List.append_assoc _ "\n\n".toList]

end Version

/-! ## 3. A changelog with one more entry -/

namespace Changelog

/-- The changelog with an entry more, whether or not the place lists its reference already. -/
def enter (c : Changelog) (id : Text) (place : Place) (e : Entry) : Changelog :=
  (c.ensureVersion id).update id fun v => v.append e place

theorem append_of_not_listed {c : Changelog} {id : Text} {place : Place} {e : Entry}
    (h : Entry.listed (c.entriesAt id place) e.reference = false) :
    c.append id place e = (true, c.enter id place e) := by
  unfold append
  rw [h]
  rfl

theorem any_ensureVersion (c : Changelog) (id : Text) :
    (c.ensureVersion id).versions.any (fun v => v.id == id) = true := by
  have h := c.version?_ensureVersion id id
  rw [if_pos rfl] at h
  exact List.any_eq_true.mpr (List.find?_isSome.mp (Option.isSome_of_eq_some h))

/-- **A changelog with one more entry has a slot for it.** -/
theorem slot_enter (c : Changelog) (id : Text) (place : Place) :
    ∃ before after : Text, ∀ e : Entry,
      (c.enter id place e).render = before ++ '\n' :: (e.render ++ '\n' :: after) := by
  obtain ⟨vs, v, ws, -, -, hf⟩ := updateFirst_eq_append (c.any_ensureVersion id)
  obtain ⟨before, after, hs⟩ :=
    (v.slot_append place).joined (vs.map Version.render) (ws.map Version.render)
  refine ⟨before, after [], fun e => ?_⟩
  have hversions := hf fun v => v.append e place
  unfold enter update render
  rw [hversions, List.map_append, List.map_cons]
  exact hs e []

/-! ## 4. What is read -/

/-- A line of a file is read where it stands. -/
theorem linesOf_slot (before after : Text) {line : Text} (h : LaidOut line [line]) :
    linesOf (before ++ '\n' :: (line ++ '\n' :: after)) =
      linesOf (before ++ ['\n']) ++ classify line :: linesOf after := by
  unfold linesOf
  rw [lines_append, h after, List.map_append]
  rfl

/-- **What is read is as if what the line of a new entry is taken for had been entered.** That is
an entry, which the place must not list yet, but it need not be the one that was written. -/
theorem parse_render_append {c : Changelog} (h : c.Canonical) {id : Text} {place : Place}
    (hid : Version.IsId id) (hp : place.Canonical) {written taken : Entry}
    (hw : Entry.listed (c.entriesAt id place) written.reference = false)
    (ht : Entry.listed (c.entriesAt id place) taken.reference = false)
    (hl : LaidOut written.render [written.render]) (hc : classify written.render = .change taken) :
    parse (c.append id place written).2.render = (c.append id place taken).2 := by
  have htaken : taken.Canonical := by
    have hline : written.render ∈ lines (written.render ++ '\n' :: []) := by
      rw [hl []]
      exact List.mem_cons_self
    have hs := classify_sound (not_mem_of_mem_lines hline)
    rw [hc] at hs
    exact hs
  obtain ⟨before, after, hslot⟩ := c.slot_enter id place
  have hread : linesOf (c.enter id place written).render =
      linesOf (c.enter id place taken).render := by
    rw [hslot, hslot, linesOf_slot before after hl, hc,
      linesOf_slot before after (Entry.laidOut_render htaken), classify_render htaken]
  have hcanonical := parse_render (h.append hid hp htaken)
  rw [append_of_not_listed ht] at hcanonical ⊢
  rw [append_of_not_listed hw]
  unfold parse at hcanonical ⊢
  rw [hread]
  exact hcanonical

end Changelog

end MergeScribe
