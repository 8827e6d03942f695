import Mathlib.Data.List.Forall2
import Mathlib.Data.List.Nodup
import MergeScribe.Json.Decode

/-!
# What an object gives of a field

A record that is written as an object has its fields by name: its members may come in any order, and
members of other names may stand among them. What the members say of a field is told here without a
decoder (`Json.Gives`): they leave it out, or they give it once. Main statements: the members of an
object that gives no field twice are read as a record (`Json.recordIn?_object`), and each field is then
what they give, or its default (`Json.Gives.required`, `Json.Gives.withDefault`).
-/

namespace MergeScribe

namespace Json

variable {α β : Type} {name : Text} {names : List Text} {members : List (Text × Json)}

/-! ## 1. Values under a name -/

/-- The values that members give under a name. -/
def valuesOf (name : Text) (members : List (Text × Json)) : List Json :=
  members.filterMap fun m => if name == m.1 then some m.2 else none

/-- The members of declared names. -/
def declared (names : List Text) (members : List (Text × Json)) : List (Text × Json) :=
  members.filter fun m => names.contains m.1

theorem lookup_eq_head?_valuesOf (name : Text) (members : List (Text × Json)) :
    members.lookup name = (valuesOf name members).head? := by
  rw [List.lookup_eq_findSome?, valuesOf, List.head?_filterMap]

theorem length_valuesOf (name : Text) (members : List (Text × Json)) :
    (valuesOf name members).length = (members.map Prod.fst).count name := by
  rw [valuesOf, List.length_filterMap_eq_countP, List.count, List.countP_map]
  refine List.countP_congr fun m _ => ?_
  by_cases h : name = m.1
  · simp [h]
  · simp [h, Ne.symm h]

/-- Members of other names give nothing under a declared name. -/
theorem valuesOf_declared (h : name ∈ names) (members : List (Text × Json)) :
    valuesOf name (declared names members) = valuesOf name members := by
  unfold valuesOf declared
  rw [List.filterMap_filter]
  refine List.filterMap_congr fun m _ => ?_
  by_cases hm : name = m.1
  · subst hm
    simp [h]
  · simp [hm]

/-- **The members of an object that gives no field twice are read as a record.** -/
theorem recordIn?_object (h : ∀ name ∈ names, (valuesOf name members).length ≤ 1) :
    recordIn? dialect names (.object members) = some ⟨declared names members, false⟩ := by
  -- Only members of declared names count: a name that is not declared may come twice.
  have honce : ((declared names members).map Prod.fst).Nodup := by
    refine List.nodup_iff_count_le_one.mpr fun name => ?_
    by_cases hname : name ∈ names
    · rw [← length_valuesOf, valuesOf_declared hname]
      exact h name hname
    · have hnone : name ∉ (declared names members).map Prod.fst := by
        intro hkey
        obtain ⟨m, hm, rfl⟩ := List.mem_map.mp hkey
        exact hname (List.contains_iff_mem.mp (List.mem_filter.mp hm).2)
      rw [List.count_eq_zero_of_not_mem hnone]
      exact Nat.zero_le 1
  refine if_pos ⟨honce, ?_⟩
  exact List.all_eq_true.mpr fun _ _ => rfl

/-! ## 2. What is given of a field -/

/-- What members give of a field: they leave it out, or they give it once, as a value that stands for
what is given. -/
inductive Gives (stands : Json → α → Prop) (name : Text) (members : List (Text × Json)) :
    Option α → Prop
  | leftOut (h : valuesOf name members = []) : Gives stands name members none
  | given {j : Json} {a : α} (h : valuesOf name members = [j]) (ha : stands j a) :
      Gives stands name members (some a)

namespace Gives

variable {stands : Json → α → Prop} {given : Option α} {decode : Json → Option β} {f : α → β}

theorem once (h : Gives stands name members given) : (valuesOf name members).length ≤ 1 := by
  cases h with
  | leftOut h => simp [h]
  | given h ha => simp [h]

theorem of_not_mem (h : name ∉ members.map Prod.fst) : Gives stands name members none := by
  refine .leftOut (List.length_eq_zero_iff.mp ?_)
  rw [length_valuesOf, List.count_eq_zero_of_not_mem h]

/-- A member is all that is given under its name, if no two members have one name. -/
theorem of_mem {j : Json} {a : α} (hn : (members.map Prod.fst).Nodup) (hm : (name, j) ∈ members)
    (ha : stands j a) : Gives stands name members (some a) := by
  refine .given (j := j) ?_ ha
  have hmem : j ∈ valuesOf name members := List.mem_filterMap.mpr ⟨(name, j), hm, by simp⟩
  have hlength : (valuesOf name members).length ≤ 1 := by
    rw [length_valuesOf]
    exact List.nodup_iff_count_le_one.mp hn name
  obtain ⟨j', hj'⟩ := List.length_eq_one_iff.mp
    (Nat.le_antisymm hlength (List.length_pos_of_mem hmem))
  rw [hj'] at hmem ⊢
  rw [List.mem_singleton.mp hmem]

/-- **A field that has to be given is what is given.** -/
theorem required {a : α} (h : Gives stands name members (some a)) (hname : name ∈ names)
    (hread : ∀ {j a}, stands j a → decode j = some (f a)) :
    Fields.required ⟨declared names members, false⟩ name decode = some (f a) := by
  cases h with
  | given h ha =>
      rw [Fields.required, lookup_eq_head?_valuesOf, valuesOf_declared hname, h]
      exact hread ha

/-- **A field with a default is what is given, or the default.** -/
theorem withDefault (h : Gives stands name members given) (hname : name ∈ names)
    (hread : ∀ {j a}, stands j a → decode j = some (f a)) (default : β) :
    Fields.withDefault ⟨declared names members, false⟩ name default decode =
      some ((given.map f).getD default) := by
  rw [Fields.withDefault, lookup_eq_head?_valuesOf, valuesOf_declared hname]
  cases h with
  | leftOut h =>
      rw [h]
      rfl
  | given h ha =>
      rw [h]
      exact hread ha

end Gives

/-! ## 3. What a value stands for -/

/-- A text. -/
def IsText (j : Json) (t : Text) : Prop :=
  j = .string t

/-- A text, or `null` for none. -/
def IsTextOrNull (j : Json) (t : Option Text) : Prop :=
  j = ofOption .string t

/-- A truth value. -/
def IsBool (j : Json) (b : Bool) : Prop :=
  j = .bool b

/-- A number of 32 bits. -/
def IsNat32 (j : Json) (n : Nat) : Prop :=
  j = .ofNat n ∧ n < Nat.pow 2 32

/-- An array of values of one kind. -/
def IsListOf (stands : Json → α → Prop) (j : Json) (as : List α) : Prop :=
  ∃ items, j = .array items ∧ List.Forall₂ stands items as

/-- An object whose members give something. -/
def IsObjectOf (gives : List (Text × Json) → α → Prop) (j : Json) (a : α) : Prop :=
  ∃ members, j = .object members ∧ gives members a

/-- Values in a row stand for what each of them stands for. -/
theorem isListOf_ofList {stands : Json → α → Prop} {encode : α → Json} {as : List α}
    (h : ∀ a ∈ as, stands (encode a) a) : IsListOf stands (ofList encode as) as :=
  ⟨as.map encode, rfl, List.forall₂_map_left_iff.mpr (List.forall₂_same.mpr h)⟩

theorem IsText.text? {j : Json} {t : Text} (h : IsText j t) : text? j = some t := by
  rw [h]
  rfl

theorem IsTextOrNull.nullable? {j : Json} {t : Option Text} (h : IsTextOrNull j t) :
    nullable? Json.text? j = some t := by
  rw [h]
  cases t <;> rfl

theorem IsBool.bool? {j : Json} {b : Bool} (h : IsBool j b) : bool? j = some b := by
  rw [h]
  rfl

theorem natBelow?_ofNat {limit n : Nat} (h : n < limit) : natBelow? limit (.ofNat n) = some n :=
  if_pos ⟨Int.natCast_nonneg n, Int.ofNat_lt.mpr h⟩

theorem IsNat32.nat32? {j : Json} {n : Nat} (h : IsNat32 j n) : nat32? j = some n := by
  rw [h.1]
  exact natBelow?_ofNat h.2

theorem IsListOf.list? {stands : Json → α → Prop} {decode : Json → Option α} {j : Json}
    {as : List α} (h : IsListOf stands j as) (hread : ∀ {j a}, stands j a → decode j = some a) :
    list? decode j = some as := by
  obtain ⟨items, rfl, hitems⟩ := h
  show items.mapM decode = some as
  induction hitems with
  | nil => rfl
  | cons ha _ ih => simp [hread ha, ih]

end Json

end MergeScribe
