import BundleFramework.Lib.MapLoop

/-!
# One best item for each key

A loop over a list keeps, for each key, one item seen so far.  At an item whose key is taken,
a pairwise rule decides whether the new item replaces the old one.  If the rule decides for
some preorder, always in favour of the larger of the two, then the item that is left for a key
is a greatest one of all items with that key, in whatever order they came.
-/

namespace KeyedBest

open Std

variable {K A : Type}

/-- One iteration. -/
def keep [Ord K] [TransOrd K] (key : A → K) (replace : A → A → Bool) (kept : ExtTreeMap K A) (item : A) : ExtTreeMap K A :=
  match kept[key item]? with
  | none => kept.insert (key item) item
  | some old => if replace old item then kept.insert (key item) item else kept

/-- `replace` decides for the preorder `le`, among items of one key. -/
structure Decides (key : A → K) (replace : A → A → Bool) (le : A → A → Prop) : Prop where
  refl : ∀ a, le a a
  trans : ∀ a b c, le a b → le b c → le a c
  replaced : ∀ old new, key old = key new → replace old new = true → le old new
  kept : ∀ old new, key old = key new → replace old new = false → le new old

/-- `kept` has a greatest item of each key that occurs in `items`. -/
structure Best (key : A → K) (le : A → A → Prop) (items : List A) (kept : K → Option A) : Prop where
  mem : ∀ {k a}, kept k = some a → a ∈ items ∧ key a = k
  max : ∀ {k a}, kept k = some a → ∀ b ∈ items, key b = k → le b a
  found : ∀ b ∈ items, ∃ a, kept (key b) = some a

variable {key : A → K} {replace : A → A → Bool} {le : A → A → Prop}

/-- The item goes in, as the greatest one of its key. -/
theorem Best.insert [DecidableEq K] {items : List A} {kept kept' : K → Option A} (h : Best key le items kept) {item : A}
    (hkept' : ∀ k, kept' k = if k = key item then some item else kept k) (hrefl : ∀ a, le a a)
    (hmax : ∀ b ∈ items, key b = key item → le b item) : Best key le (items ++ [item]) kept' where
  mem := by
    intro k a ha
    rw [hkept'] at ha
    split at ha
    · next hk =>
      cases ha
      exact ⟨by simp, hk.symm⟩
    · exact ⟨List.mem_append_left _ (h.mem ha).1, (h.mem ha).2⟩
  max := by
    intro k a ha b hb hkey
    rw [hkept'] at ha
    rcases List.mem_append.mp hb with hb | hb
    · split at ha
      · next hk =>
        cases ha
        exact hmax b hb (hkey.trans hk)
      · exact h.max ha b hb hkey
    · rw [List.mem_singleton] at hb
      subst hb
      rw [if_pos hkey.symm] at ha
      cases ha
      exact hrefl _
  found := by
    intro b hb
    rw [hkept']
    split
    · exact ⟨item, rfl⟩
    · next hne =>
      rcases List.mem_append.mp hb with hb | hb
      · exact h.found b hb
      · rw [List.mem_singleton] at hb
        exact absurd (congrArg key hb) hne

/-- The item is dropped: a greater one of its key is kept. -/
theorem Best.skip {items : List A} {kept : K → Option A} (h : Best key le items kept) {item old : A}
    (hold : kept (key item) = some old) (hle : le item old) : Best key le (items ++ [item]) kept where
  mem := by
    intro k a ha
    exact ⟨List.mem_append_left _ (h.mem ha).1, (h.mem ha).2⟩
  max := by
    intro k a ha b hb hkey
    rcases List.mem_append.mp hb with hb | hb
    · exact h.max ha b hb hkey
    · rw [List.mem_singleton] at hb
      subst hb
      rw [← hkey, hold] at ha
      cases ha
      exact hle
  found := by
    intro b hb
    rcases List.mem_append.mp hb with hb | hb
    · exact h.found b hb
    · rw [List.mem_singleton] at hb
      exact ⟨old, hb ▸ hold⟩

variable [Ord K] [TransOrd K]

/-- What is kept after an iteration is what was kept before or, for its own key, the item. -/
theorem keep_cases (key : A → K) (replace : A → A → Bool) (kept : ExtTreeMap K A) (item : A) :
    (kept[key item]? = none ∧ keep key replace kept item = kept.insert (key item) item) ∨
    (∃ old, kept[key item]? = some old ∧ replace old item = true ∧
      keep key replace kept item = kept.insert (key item) item) ∨
    (∃ old, kept[key item]? = some old ∧ replace old item = false ∧ keep key replace kept item = kept) := by
  unfold keep
  cases hold : kept[key item]? with
  | none => exact .inl ⟨rfl, rfl⟩
  | some old =>
    cases hreplace : replace old item with
    | false => exact .inr (.inr ⟨old, rfl, hreplace, by simp [hreplace]⟩)
    | true => exact .inr (.inl ⟨old, rfl, hreplace, by simp [hreplace]⟩)

variable [LawfulEqOrd K] [DecidableEq K]

theorem Best.keep (hd : Decides key replace le) {items : List A} {kept : ExtTreeMap K A}
    (h : Best key le items fun k => kept[k]?) (item : A) :
    Best key le (items ++ [item]) fun k => (keep key replace kept item)[k]? := by
  rcases keep_cases key replace kept item with
    ⟨hnone, heq⟩ | ⟨old, hold, hreplace, heq⟩ | ⟨old, hold, hreplace, heq⟩
  · rw [heq]
    refine h.insert (fun k => MapLoop.getElem?_insert_eq _ _ _ _) hd.refl fun b hb hkey => ?_
    obtain ⟨a, ha⟩ := h.found b hb
    rw [hkey, hnone] at ha
    cases ha
  · rw [heq]
    refine h.insert (fun k => MapLoop.getElem?_insert_eq _ _ _ _) hd.refl fun b hb hkey => ?_
    exact hd.trans _ _ _ (h.max hold b hb hkey) (hd.replaced old item (h.mem hold).2 hreplace)
  · rw [heq]
    exact h.skip hold (hd.kept old item (h.mem hold).2 hreplace)

/-- **The whole loop.** -/
theorem best_foldl (hd : Decides key replace le) (items : List A) :
    Best key le items fun k => (items.foldl (keep key replace) ∅)[k]? := by
  induction items using List.reverseRecOn with
  | nil => exact ⟨fun h => by simp at h, fun h => by simp at h, fun b hb => by cases hb⟩
  | append_singleton items item ih =>
    rw [List.foldl_append]
    exact ih.keep hd item

end KeyedBest
