import MergeScribe.Config.Codec
import MergeScribe.Proofs.Json.Record

/-!
# Settings that are left out

A configuration in JSON may give any of its settings, and of those of a section again any. What an
object gives is told here without the decoder (`Config.GivenBy`): the keys may come in any order, and
keys of other names may stand among them, in each object. Main statements: what is read from such an
object is the default configuration with the settings that are given in place of its own, and a
configuration that is written with all its settings is read back (`Config.ofJson?_replace`). Each
section is read in this way (`HistorySettings.ofData?_given` and the like): each setting that is left
out of a section has a default of its own, and all these are those that the section has as a whole.
-/

namespace MergeScribe

open Json

/-! ## 1. Some of the settings -/

/-- Some of the settings of the changelog's place. -/
structure HistorySettings.Given where
  path : Option Text
  branch : Option Text
  maxAttempts : Option Nat

/-- Some of the parts of an identity. -/
structure Identity.Given where
  name : Option Text
  email : Option Text

/-- Some of the settings of merges. -/
structure MergeSettings.Given where
  method : Option MergeMethod
  pagesBranch : Option Text
  fallbackBranch : Option Text
  inferSection : Option Bool

/-- Some of the settings of a configuration, and of what is given of its sections again only some. -/
structure Config.Given where
  host : Option (Option Text)
  history : Option HistorySettings.Given
  committer : Option Identity.Given
  merge : Option MergeSettings.Given
  categories : Option (List Category)

/-- The settings with the given ones in place of theirs. -/
def HistorySettings.replace (h : HistorySettings) (g : Given) : HistorySettings where
  path := g.path.getD h.path
  branch := g.branch.getD h.branch
  maxAttempts := g.maxAttempts.getD h.maxAttempts

/-- The identity with the given parts in place of its own. -/
def Identity.replace (i : Identity) (g : Given) : Identity where
  name := g.name.getD i.name
  email := g.email.getD i.email

/-- The settings with the given ones in place of theirs. -/
def MergeSettings.replace (m : MergeSettings) (g : Given) : MergeSettings where
  method := g.method.getD m.method
  pagesBranch := g.pagesBranch.getD m.pagesBranch
  fallbackBranch := g.fallbackBranch.getD m.fallbackBranch
  inferSection := g.inferSection.getD m.inferSection

/-- The configuration with the given settings in place of its own. The table of categories is replaced
as a whole. -/
def Config.replace (c : Config) (g : Given) : Config where
  host := g.host.getD c.host
  history := (g.history.map c.history.replace).getD c.history
  committer := (g.committer.map c.committer.replace).getD c.committer
  merge := (g.merge.map c.merge.replace).getD c.merge
  categories := g.categories.getD c.categories

/-! ## 2. Objects that give them -/

/-- The name of a merge method, or an object with that name alone, for `null`. -/
def MergeMethod.StandsFor (j : Json) (m : MergeMethod) : Prop :=
  j = .string m.name ∨ j = .object [(m.name, .null)]

/-- Members that give a row of the table of categories. Without labels the row has none. -/
structure Category.GivenBy (members : List (Text × Json)) (c : Category) : Prop where
  keyword : Gives IsText "prefix" members (some c.keyword)
  slug : Gives IsText "slug" members (some c.slug)
  sectionName : Gives IsText "section" members (some c.sectionName)
  labels : ∃ given, Gives (IsListOf IsText) "labels" members given ∧ c.labels = given.getD []

/-- Members that give settings of the changelog's place. -/
structure HistorySettings.GivenBy (members : List (Text × Json)) (g : Given) : Prop where
  path : Gives IsText "path" members g.path
  branch : Gives IsText "branch" members g.branch
  maxAttempts : Gives IsNat32 "max_attempts" members g.maxAttempts

/-- Members that give parts of an identity. -/
structure Identity.GivenBy (members : List (Text × Json)) (g : Given) : Prop where
  name : Gives IsText "name" members g.name
  email : Gives IsText "email" members g.email

/-- Members that give settings of merges. -/
structure MergeSettings.GivenBy (members : List (Text × Json)) (g : Given) : Prop where
  method : Gives MergeMethod.StandsFor "method" members g.method
  pagesBranch : Gives IsText "pages_branch" members g.pagesBranch
  fallbackBranch : Gives IsText "fallback_default_branch" members g.fallbackBranch
  inferSection : Gives IsBool "infer_section_from_labels" members g.inferSection

/-- Members that give settings of a configuration. -/
structure Config.GivenBy (members : List (Text × Json)) (g : Given) : Prop where
  host : Gives IsTextOrNull "host" members g.host
  history : Gives (IsObjectOf HistorySettings.GivenBy) "history" members g.history
  committer : Gives (IsObjectOf Identity.GivenBy) "committer" members g.committer
  merge : Gives (IsObjectOf MergeSettings.GivenBy) "merge" members g.merge
  categories :
    Gives (IsListOf (IsObjectOf Category.GivenBy)) "categories" members g.categories

/-! ## 3. Reading them -/

theorem MergeMethod.StandsFor.variantIn? {j : Json} {m : MergeMethod} (h : m.StandsFor j) :
    variantIn? dialect ofName? j = some m := by
  rcases h with rfl | rfl <;> cases m <;> rfl

theorem Category.ofData?_given {j : Json} {c : Category} (h : IsObjectOf GivenBy j c) :
    ofData? dialect j = some c := by
  obtain ⟨members, rfl, hc⟩ := h
  obtain ⟨labels, hlabels, hnone⟩ := hc.labels
  have honce : ∀ name ∈ (["prefix", "slug", "section", "labels"] : List Text),
      (valuesOf name members).length ≤ 1 := by
    simp only [List.forall_mem_cons]
    exact ⟨hc.keyword.once, hc.slug.once, hc.sectionName.once, hlabels.once, List.forall_mem_nil _⟩
  rw [ofData?, recordIn?_object honce, Option.bind_eq_bind, Option.bind_some]
  rw [hc.keyword.required ?_ IsText.text?, hc.slug.required ?_ IsText.text?,
    hc.sectionName.required ?_ IsText.text?,
    hlabels.withDefault ?_ fun h => IsListOf.list? h IsText.text?]
  · simp only [Option.map_id', ← hnone]
    rfl
  all_goals simp

/-- **Some settings of a section override those that the whole section has by default.** -/
theorem HistorySettings.ofData?_given {j : Json} {g : Given} (h : IsObjectOf GivenBy j g) :
    ofData? dialect j = some (default.replace g) := by
  obtain ⟨members, rfl, hg⟩ := h
  have honce : ∀ name ∈ (["path", "branch", "max_attempts"] : List Text),
      (valuesOf name members).length ≤ 1 := by
    simp only [List.forall_mem_cons]
    exact ⟨hg.path.once, hg.branch.once, hg.maxAttempts.once, List.forall_mem_nil _⟩
  rw [ofData?, recordIn?_object honce, Option.bind_eq_bind, Option.bind_some]
  rw [hg.path.withDefault ?_ IsText.text?, hg.branch.withDefault ?_ IsText.text?,
    hg.maxAttempts.withDefault ?_ IsNat32.nat32?]
  · -- What each setting has of its own where it is left out is what the whole section has.
    have hwhole : default = ⟨defaultPath, defaultBranch, defaultMaxAttempts⟩ := rfl
    simp only [Option.map_id', hwhole]
    rfl
  all_goals simp

theorem Identity.ofData?_given {j : Json} {g : Given} (h : IsObjectOf GivenBy j g) :
    ofData? dialect j = some (default.replace g) := by
  obtain ⟨members, rfl, hg⟩ := h
  have honce : ∀ name ∈ (["name", "email"] : List Text), (valuesOf name members).length ≤ 1 := by
    simp only [List.forall_mem_cons]
    exact ⟨hg.name.once, hg.email.once, List.forall_mem_nil _⟩
  rw [ofData?, recordIn?_object honce, Option.bind_eq_bind, Option.bind_some]
  rw [hg.name.withDefault ?_ IsText.text?, hg.email.withDefault ?_ IsText.text?]
  · have hwhole : default = ⟨defaultName, defaultEmail⟩ := rfl
    simp only [Option.map_id', hwhole]
    rfl
  all_goals simp

theorem MergeSettings.ofData?_given {j : Json} {g : Given} (h : IsObjectOf GivenBy j g) :
    ofData? dialect j = some (default.replace g) := by
  obtain ⟨members, rfl, hg⟩ := h
  have honce : ∀ name ∈ (["method", "pages_branch", "fallback_default_branch",
      "infer_section_from_labels"] : List Text), (valuesOf name members).length ≤ 1 := by
    simp only [List.forall_mem_cons]
    exact ⟨hg.method.once, hg.pagesBranch.once, hg.fallbackBranch.once, hg.inferSection.once,
      List.forall_mem_nil _⟩
  rw [ofData?, recordIn?_object honce, Option.bind_eq_bind, Option.bind_some]
  rw [hg.method.withDefault ?_ MergeMethod.StandsFor.variantIn?,
    hg.pagesBranch.withDefault ?_ IsText.text?, hg.fallbackBranch.withDefault ?_ IsText.text?,
    hg.inferSection.withDefault ?_ IsBool.bool?]
  · have hwhole : default =
        ⟨MergeMethod.default, defaultPagesBranch, defaultFallbackBranch, false⟩ := rfl
    simp only [Option.map_id', hwhole]
    rfl
  all_goals simp

theorem Config.ofJson?_given {j : Json} {g : Given} (h : IsObjectOf GivenBy j g) :
    ofJson? j = some (default.replace g) := by
  obtain ⟨members, rfl, hg⟩ := h
  have honce : ∀ name ∈ (["host", "history", "committer", "merge", "categories"] : List Text),
      (valuesOf name members).length ≤ 1 := by
    simp only [List.forall_mem_cons]
    exact ⟨hg.host.once, hg.history.once, hg.committer.once, hg.merge.once, hg.categories.once,
      List.forall_mem_nil _⟩
  rw [ofJson?, ofData?, recordIn?_object honce, Option.bind_eq_bind, Option.bind_some]
  rw [hg.host.withDefault ?_ IsTextOrNull.nullable?,
    hg.history.withDefault ?_ HistorySettings.ofData?_given,
    hg.committer.withDefault ?_ Identity.ofData?_given,
    hg.merge.withDefault ?_ MergeSettings.ofData?_given,
    hg.categories.withDefault ?_ fun h => IsListOf.list? h Category.ofData?_given]
  · have hwhole : default =
        ⟨none, HistorySettings.default, Identity.default, MergeSettings.default,
          Category.defaults⟩ := rfl
    simp only [Option.map_id', hwhole]
    rfl
  all_goals simp

/-! ## 4. All settings -/

/-- Everything in the settings. -/
def HistorySettings.all (h : HistorySettings) : Given :=
  ⟨some h.path, some h.branch, some h.maxAttempts⟩

/-- Everything in the identity. -/
def Identity.all (i : Identity) : Given :=
  ⟨some i.name, some i.email⟩

/-- Everything in the settings. -/
def MergeSettings.all (m : MergeSettings) : Given :=
  ⟨some m.method, some m.pagesBranch, some m.fallbackBranch, some m.inferSection⟩

/-- Everything in the configuration. -/
def Config.all (c : Config) : Given :=
  ⟨some c.host, some c.history.all, some c.committer.all, some c.merge.all, some c.categories⟩

theorem Category.isObjectOf_toJson (c : Category) : IsObjectOf GivenBy c.toJson c := by
  have hnames : (["prefix", "slug", "section", "labels"] : List Text).Nodup := by decide +kernel
  have hlabels : IsListOf IsText (ofList .string c.labels) c.labels :=
    isListOf_ofList fun _ _ => rfl
  refine ⟨_, rfl, ?_, ?_, ?_, some c.labels, ?_, rfl⟩
  · exact .of_mem hnames (by simp) rfl
  · exact .of_mem hnames (by simp) rfl
  · exact .of_mem hnames (by simp) rfl
  · exact .of_mem hnames (by simp) hlabels

theorem HistorySettings.isObjectOf_toJson (h : HistorySettings) (hn : h.maxAttempts < Nat.pow 2 32) :
    IsObjectOf GivenBy h.toJson h.all := by
  have hnames : (["path", "branch", "max_attempts"] : List Text).Nodup := by decide +kernel
  refine ⟨_, rfl, ?_, ?_, ?_⟩
  · exact .of_mem hnames (by simp) rfl
  · exact .of_mem hnames (by simp) rfl
  · exact .of_mem hnames (by simp) ⟨rfl, hn⟩

theorem Identity.isObjectOf_toJson (i : Identity) : IsObjectOf GivenBy i.toJson i.all := by
  have hnames : (["name", "email"] : List Text).Nodup := by decide +kernel
  refine ⟨_, rfl, ?_, ?_⟩
  · exact .of_mem hnames (by simp) rfl
  · exact .of_mem hnames (by simp) rfl

theorem MergeSettings.isObjectOf_toJson (m : MergeSettings) :
    IsObjectOf GivenBy m.toJson m.all := by
  have hnames : (["method", "pages_branch", "fallback_default_branch",
      "infer_section_from_labels"] : List Text).Nodup := by decide +kernel
  refine ⟨_, rfl, ?_, ?_, ?_, ?_⟩
  · exact .of_mem hnames (by simp) (.inl rfl)
  · exact .of_mem hnames (by simp) rfl
  · exact .of_mem hnames (by simp) rfl
  · exact .of_mem hnames (by simp) rfl

/-- **A configuration is written with all its settings.** -/
theorem Config.isObjectOf_toJson (c : Config) (hn : c.history.maxAttempts < Nat.pow 2 32) :
    IsObjectOf GivenBy c.toJson c.all := by
  have hnames : (["host", "history", "committer", "merge", "categories"] : List Text).Nodup := by
    decide +kernel
  have hcategories : IsListOf (IsObjectOf Category.GivenBy) (ofList Category.toJson c.categories)
      c.categories := isListOf_ofList fun row _ => row.isObjectOf_toJson
  refine ⟨_, rfl, ?_, ?_, ?_, ?_, ?_⟩
  · exact .of_mem hnames (by simp) rfl
  · exact .of_mem hnames (by simp) (c.history.isObjectOf_toJson hn)
  · exact .of_mem hnames (by simp) c.committer.isObjectOf_toJson
  · exact .of_mem hnames (by simp) c.merge.isObjectOf_toJson
  · exact .of_mem hnames (by simp) hcategories

namespace Config

/-- With everything in another configuration in place of its own, a configuration is that one. -/
theorem replace_all (c c' : Config) : c.replace c'.all = c' :=
  rfl

/-! ## 5. The whole configuration -/

/-- **What is given overrides the defaults, setting by setting, and all settings that are written are
read back.** An object that gives some settings of a configuration, and of its sections again some,
in any order and among any other keys, is read, and it is the default configuration but for the
settings that are given. The table of categories is given as a whole, and a row without labels has
none. A configuration is read back from all its settings, its number of attempts being one of 32
bits. -/
theorem ofJson?_replace :
    (∀ {j : Json} {g : Given}, IsObjectOf GivenBy j g → ofJson? j = some (default.replace g)) ∧
    ∀ c : Config, c.history.maxAttempts < Nat.pow 2 32 → ofJson? c.toJson = some c := by
  refine ⟨fun h => ofJson?_given h, fun c hn => ?_⟩
  rw [ofJson?_given (c.isObjectOf_toJson hn), replace_all]

/-- Some settings among other keys, in an order of their own. -/
theorem ofJson?_replace_some :
    let j : Json := .object [("merge", .object [("note", .null), ("method", .string "rebase")]),
      ("version", .decimal "1.5"),
      ("categories", .array [.object [("section", .string "Speed"), ("prefix", .string "perf"),
        ("note", .bool true), ("slug", .string "performance")]]),
      ("history", .object [("path", .string "CHANGELOG.md")])]
    ofJson? j = some ⟨none, ⟨"CHANGELOG.md", "master", 3⟩, ⟨"jekyllbot", "jekyllbot@jekyllrb.com"⟩,
      ⟨.rebase, "gh-pages", "master", false⟩, [⟨"perf", "performance", "Speed", []⟩]⟩ ∧
    ofJson? default.toJson = some default := by
  intro j
  have hmerge : IsObjectOf MergeSettings.GivenBy
      (.object [("note", .null), ("method", .string "rebase")])
      ⟨some .rebase, none, none, none⟩ := by
    refine ⟨_, rfl, ?_, ?_, ?_, ?_⟩
    · exact .of_mem (by decide +kernel) (.tail _ (.head _)) (.inl rfl)
    all_goals exact .of_not_mem (by decide +kernel)
  have hrow : IsObjectOf Category.GivenBy (.object [("section", .string "Speed"),
      ("prefix", .string "perf"), ("note", .bool true), ("slug", .string "performance")])
      ⟨"perf", "performance", "Speed", []⟩ := by
    refine ⟨_, rfl, ?_, ?_, ?_, none, .of_not_mem (by decide +kernel), rfl⟩
    all_goals exact .of_mem (by decide +kernel) (by simp) rfl
  have hhistory : IsObjectOf HistorySettings.GivenBy (.object [("path", .string "CHANGELOG.md")])
      ⟨some "CHANGELOG.md", none, none⟩ := by
    refine ⟨_, rfl, ?_, ?_, ?_⟩
    · exact .of_mem (by decide +kernel) (by simp) rfl
    all_goals exact .of_not_mem (by decide +kernel)
  have hgiven : IsObjectOf GivenBy j ⟨none, some ⟨some "CHANGELOG.md", none, none⟩, none,
      some ⟨some .rebase, none, none, none⟩, some [⟨"perf", "performance", "Speed", []⟩]⟩ := by
    refine ⟨_, rfl, ?_, ?_, ?_, ?_, ?_⟩
    · exact .of_not_mem (by decide +kernel)
    · exact .of_mem (by decide +kernel) (by simp) hhistory
    · exact .of_not_mem (by decide +kernel)
    · exact .of_mem (by decide +kernel) (by simp) hmerge
    · exact .of_mem (by decide +kernel) (by simp) ⟨_, rfl, .cons hrow .nil⟩
  exact ⟨ofJson?_replace.1 hgiven, ofJson?_replace.2 default (by decide)⟩

end Config

end MergeScribe
