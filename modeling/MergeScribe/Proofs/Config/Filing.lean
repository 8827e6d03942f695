import MergeScribe.Config.Basic
import MergeScribe.Proofs.Changelog.Layout
import MergeScribe.Proofs.Directive

/-!
# Where a change is filed

The section of a change comes from the table of categories, or, when the label in the directive fits
no category, from that label itself. Main statements: if the sections of the table can be headings of
a changelog, so can the section of every change (`resolveSection_filed`), and what is written for it
is read as a heading of that name (`classify_resolveSection`).
-/

namespace MergeScribe

open Text

/-! ## 1. Labels -/

namespace Directive

/-- What a directive can have as its label: one label character or more. -/
structure IsLabel (label : Text) : Prop where
  ne_nil : label ≠ []
  chars : ∀ c ∈ label, isLabelChar c = true

theorem label?_isLabel {t label : Text} (h : label? t = some label) : IsLabel label := by
  obtain ⟨hne, -, hchars⟩ := (label?_eq_some_iff.mp h).tidy
  exact ⟨hne, fun c hc => isLabelChar_iff.mpr (hchars c hc)⟩

theorem find?_isLabel {directive : Directive} {t : Text} (h : find? t = some directive) :
    ∀ label ∈ directive.label, IsLabel label := by
  obtain ⟨rest, -, hlabel⟩ := find?_eq_some_iff.mp h
  exact fun label hl => label?_isLabel (hlabel ▸ hl)

theorem toNat_lt_of_isLabelChar {c : Char} (h : isLabelChar c = true) : c.toNat < 128 := by
  have hupper (hc : c.isUpper = true) : c.toNat ≤ 90 :=
    UInt32.le_iff_toNat_le.mp (of_decide_eq_true hc).2
  have hlower (hc : c.isLower = true) : c.toNat ≤ 122 :=
    UInt32.le_iff_toNat_le.mp (of_decide_eq_true (Bool.and_eq_true_iff.mp hc).2)
  have halpha : c.isAlpha = (c.isUpper || c.isLower) := rfl
  simp only [isLabelChar, isHandleChar, halpha, Bool.or_eq_true, beq_iff_eq] at h
  rcases h with (((h | h) | rfl) | rfl) | rfl
  · exact Nat.lt_of_le_of_lt (hupper h) (by decide)
  · exact Nat.lt_of_le_of_lt (hlower h) (by decide)
  · decide
  · decide
  · decide

/-- Label characters are ASCII, so what is to hold of them all can be decided. -/
@[elab_as_elim]
theorem isLabelChar_cases {motive : Char → Prop} {c : Char} (hc : isLabelChar c = true)
    (ascii : ∀ n, n < 128 → isLabelChar (Char.ofNat n) = true → motive (Char.ofNat n)) :
    motive c := by
  have hn := ascii c.toNat (toNat_lt_of_isLabelChar hc)
  rw [Char.ofNat_toNat] at hn
  exact hn hc

end Directive

/-! ## 2. Hyphenized labels -/

namespace Category

open Directive

variable {table : List Category} {label : Text} {row : Category}

/-- What hyphenizing makes of a label character. -/
def hyphenChar (c : Char) : Char :=
  if c = ' ' then '-' else c.toLower

theorem hyphenChar_of_isLabelChar {c : Char} (h : isLabelChar c = true) :
    c ≠ 'Σ' ∧ (lowerChar c).map (fun d => if d = ' ' then '-' else d) = [hyphenChar c] ∧
      isLabelChar (hyphenChar c) = true ∧ isSpace (hyphenChar c) = false ∧
      hyphenChar (hyphenChar c) = hyphenChar c := by
  refine isLabelChar_cases h ?_
  decide +kernel

theorem map_lowerAfter : {label : Text} → (∀ c ∈ label, isLabelChar c = true) → (seen : Text) →
    (lowerAfter seen label).map (fun d => if d = ' ' then '-' else d) = label.map hyphenChar
  | [], _, _ => rfl
  | c :: label, h, seen => by
      obtain ⟨hsigma, hc, -⟩ := hyphenChar_of_isLabelChar (h c List.mem_cons_self)
      rw [lowerAfter, if_neg hsigma, List.map_append, hc,
        map_lowerAfter (fun d hd => h d (List.mem_cons_of_mem c hd)), List.map_cons,
        List.singleton_append]

/-- **A label is hyphenized character by character.** -/
theorem hyphenize_eq_map (h : ∀ c ∈ label, isLabelChar c = true) :
    hyphenize label = label.map hyphenChar :=
  map_lowerAfter h []

/-- **A hyphenized label stays as it is.** -/
theorem hyphenize_hyphenize (h : ∀ c ∈ label, isLabelChar c = true) :
    hyphenize (hyphenize label) = hyphenize label := by
  have hchars : ∀ c ∈ label.map hyphenChar, isLabelChar c = true := fun c hc => by
    obtain ⟨d, hd, rfl⟩ := List.mem_map.mp hc
    exact (hyphenChar_of_isLabelChar (h d hd)).2.2.1
  rw [hyphenize_eq_map h, hyphenize_eq_map hchars, List.map_map]
  exact List.map_congr_left fun c hc => (hyphenChar_of_isLabelChar (h c hc)).2.2.2.2

/-- **A label that fits no category can be a heading, hyphenized.** -/
theorem phrase_hyphenize {label : Text} (h : IsLabel label) : Phrase (hyphenize label) := by
  rw [hyphenize_eq_map h.chars]
  refine phrase_of_not_isSpace (fun e => h.ne_nil (List.map_eq_nil_iff.mp e)) fun c hc => ?_
  obtain ⟨d, hd, rfl⟩ := List.mem_map.mp hc
  exact (hyphenChar_of_isLabelChar (h.chars d hd)).2.2.2.1

/-! ## 3. Slugs -/

/-- The hyphenized label starts with the keyword of the row. -/
def Fits (row : Category) (label : Text) : Prop :=
  row.keyword <+: hyphenize label

/-- The row is the first one of the table that fits the label. -/
def FitsFirst (table : List Category) (label : Text) (row : Category) : Prop :=
  ∃ before after, table = before ++ row :: after ∧ row.Fits label ∧
    ∀ other ∈ before, ¬ other.Fits label

theorem startsWith_iff {t literal : Text} : startsWith t literal = true ↔ literal <+: t := by
  rw [startsWith, Option.isSome_iff_exists]
  exact exists_congr fun rest => after?_eq_some_iff.trans eq_comm

theorem FitsFirst.mem (h : FitsFirst table label row) : row ∈ table := by
  obtain ⟨before, after, rfl, -, -⟩ := h
  exact List.mem_append_right _ List.mem_cons_self

theorem find?_eq_some_iff_fitsFirst :
    table.find? (fun row => startsWith (hyphenize label) row.keyword) = some row ↔
      FitsFirst table label row := by
  rw [List.find?_eq_some_iff_append]
  constructor
  · intro ⟨hfits, before, after, htable, hbefore⟩
    refine ⟨before, after, htable, startsWith_iff.mp hfits, fun other hother hfit => ?_⟩
    have hnot := hbefore other hother
    rw [startsWith_iff.mpr hfit] at hnot
    cases hnot
  · intro ⟨before, after, htable, hfits, hbefore⟩
    refine ⟨startsWith_iff.mpr hfits, before, after, htable, fun other hother => ?_⟩
    rw [Bool.not_eq_true', Bool.eq_false_iff]
    exact fun hfit => hbefore other hother (startsWith_iff.mp hfit)

/-- **A label means the slug of the first row that fits it.** -/
theorem slugOfLabel_of_fitsFirst (h : FitsFirst table label row) :
    slugOfLabel table label = row.slug := by
  rw [slugOfLabel, find?_eq_some_iff_fitsFirst.mpr h]

/-- **A label that no row fits stands for itself, hyphenized.** -/
theorem slugOfLabel_of_not_fits (h : ∀ row ∈ table, ¬ row.Fits label) :
    slugOfLabel table label = hyphenize label := by
  rw [slugOfLabel, List.find?_eq_none.mpr fun row hrow hfits => h row hrow (startsWith_iff.mp hfits)]

theorem fitsFirst_or_not_fits (table : List Category) (label : Text) :
    (∃ row, FitsFirst table label row) ∨ ∀ row ∈ table, ¬ row.Fits label := by
  cases h : table.find? fun row => startsWith (hyphenize label) row.keyword with
  | some row => exact .inl ⟨row, find?_eq_some_iff_fitsFirst.mp h⟩
  | none =>
      exact .inr fun row hrow hfits => List.find?_eq_none.mp h row hrow (startsWith_iff.mpr hfits)

/-! ## 4. Sections -/

/-- The section of a slug is one of the table, or the slug is in no row and is its own section. -/
theorem sectionOfSlug_cases (table : List Category) (slug : Text) :
    (∃ row ∈ table, sectionOfSlug table slug = row.sectionName) ∨
      (∀ row ∈ table, row.slug ≠ slug) ∧ sectionOfSlug table slug = slug := by
  unfold sectionOfSlug
  split
  · rename_i row hrow
    exact .inl ⟨row, List.mem_of_find?_eq_some hrow, rfl⟩
  · rename_i hnone
    exact .inr ⟨fun row hrow => by simpa using List.find?_eq_none.mp hnone row hrow, rfl⟩

/-- A label that is taken for a slug is that of a row. -/
theorem firstSlug?_mem {labels : List Text} {slug : Text} (h : firstSlug? table labels = some slug) :
    ∃ row ∈ table, row.slug = slug := by
  unfold firstSlug? at h
  simpa using List.find?_some h

/-- The slug of a row has a section of the table. -/
theorem sectionOfSlug_of_mem {row : Category} (h : row ∈ table) :
    ∃ other ∈ table, sectionOfSlug table row.slug = other.sectionName :=
  (sectionOfSlug_cases table row.slug).resolve_right fun ⟨hnone, _⟩ => hnone row h rfl

end Category

namespace Config

open Category

/-- **Where a change is filed can be a heading, unless it is under no section**, as long as that
holds of the table. -/
theorem resolveSection_filed {config : Config} {directive : Directive} {body : Text}
    (hfound : Directive.find? body = some directive) (labels : List Text)
    (htable : ∀ row ∈ config.categories, row.sectionName = noSection ∨ Phrase row.sectionName) :
    config.resolveSection directive labels = noSection ∨
      Phrase (config.resolveSection directive labels) := by
  have hrow {slug : Text} (h : ∃ row ∈ config.categories,
      sectionOfSlug config.categories slug = row.sectionName) :
      sectionOfSlug config.categories slug = noSection ∨
        Phrase (sectionOfSlug config.categories slug) := by
    obtain ⟨row, hmem, e⟩ := h
    rw [e]
    exact htable row hmem
  unfold resolveSection
  split
  · rename_i label hlabel
    have hl := Directive.find?_isLabel hfound label hlabel
    rcases fitsFirst_or_not_fits config.categories label with ⟨row, hfits⟩ | hnone
    · rw [slugOfLabel_of_fitsFirst hfits]
      exact hrow (sectionOfSlug_of_mem hfits.mem)
    · rw [slugOfLabel_of_not_fits hnone]
      rcases sectionOfSlug_cases config.categories (hyphenize label) with h | ⟨-, e⟩
      · exact hrow h
      · rw [e]
        exact .inr (phrase_hyphenize hl)
  · split
    · split
      · rename_i slug hslug
        obtain ⟨row, hmem, rfl⟩ := firstSlug?_mem hslug
        exact hrow (sectionOfSlug_of_mem hmem)
      · exact .inl rfl
    · exact .inl rfl

/-- The usual table has such sections. -/
example : ∀ row ∈ Category.defaults, Phrase row.sectionName := by
  decide +kernel

/-- **No comment can break the changelog.** Whatever the comment and the labels of the issue, the
section of a change is no section, or a name that is not empty, trimmed, and on one line, as long as
that holds of the table. The line that heads the section in a file is then read as a heading of
exactly that name. -/
theorem classify_resolveSection {config : Config} {directive : Directive} {body : Text}
    (hfound : Directive.find? body = some directive) (labels : List Text)
    (htable : ∀ row ∈ config.categories, row.sectionName = noSection ∨
      row.sectionName ≠ [] ∧ trim row.sectionName = row.sectionName ∧ '\n' ∉ row.sectionName) :
    let name := config.resolveSection directive labels
    (name = noSection ∨ name ≠ [] ∧ trim name = name ∧ '\n' ∉ name) ∧
      ∀ (entries : List Entry) (rest : Text), ∃ more,
        lines (Section.render ⟨name, entries⟩ ++ '\n' :: rest) = ("### " ++ name) :: more ∧
          classify ("### " ++ name) = .heading name := by
  intro name
  have hfiled : name = noSection ∨ Phrase name := resolveSection_filed hfound labels
    fun row hrow => (htable row hrow).imp_right phrase_iff_trim.mpr
  have hname : Phrase name := by
    rcases hfiled with h | h
    · rw [h]
      decide
    · exact h
  refine ⟨hfiled.imp_right phrase_iff_trim.mp, fun entries rest => ?_⟩
  obtain ⟨after, hafter⟩ := Section.exists_render_append ⟨name, entries⟩ rest
  refine ⟨lines after, ?_, classify_sectionHeading hname⟩
  rw [hafter]
  exact Section.laidOut_heading hname after

/-- A label that fits no category, in a comment of several lines. -/
theorem classify_resolveSection_typed :
    let body : Text := "So be it.\n@bot: :ship: + Sec-ond_ FIX \r\nThanks!"
    let name : Text := "sec-ond_-fix"
    Directive.find? body = some ⟨some "Sec-ond_ FIX"⟩ ∧
      Config.default.resolveSection ⟨some "Sec-ond_ FIX"⟩ ["bug-fixes"] = name ∧
      ∃ more, lines (Section.render ⟨name, [⟨"Harden it", some "#2"⟩]⟩ ++ '\n' :: "## 1.0.0") =
          ("### " ++ name) :: more ∧ classify ("### " ++ name) = .heading name := by
  intro body name
  have hfound : Directive.find? body = some ⟨some "Sec-ond_ FIX"⟩ := by decide +kernel
  have hname : Config.default.resolveSection ⟨some "Sec-ond_ FIX"⟩ ["bug-fixes"] = name := by
    decide +kernel
  obtain ⟨-, hread⟩ := @classify_resolveSection Config.default _ _ hfound ["bug-fixes"]
    (by decide +kernel)
  rw [hname] at hread
  exact ⟨hfound, hname, hread _ _⟩

end Config

end MergeScribe
