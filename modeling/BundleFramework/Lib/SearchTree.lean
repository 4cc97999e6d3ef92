import Mathlib

/-!
# Search trees under an arbitrary comparison

A search tree takes its comparison from its user and relies on it being a strict weak
order.  Nothing checks that, so the lemmas here ask for much less: only that the
comparison respects a `key` into a linear order.  Among items of one key it may be any
Boolean function, and the tree may be rebalanced after each insertion in any way that
keeps the sequence of its items.

`Placed`: what one insertion does to the sequence, whatever the shape of the tree.
`Leads`: an item is the first of its key.  The items that lead are what a pass that
keeps the first of each run of equal keys lets through.

`mem_survivors_iff_of_champions`: where each key has an item that comes before all others
of the key, and after none, these are the items that lead, for every order of insertion.
`champion_of_always_survives`: conversely, an item that leads for every order of insertion
is such an item.
-/

namespace SearchTree

variable {α κ : Type*}

inductive Tree (α : Type*) where
  | leaf
  | node (left : Tree α) (item : α) (right : Tree α)

/-- The items in the order of an in-order walk. -/
def Tree.toList : Tree α → List α
  | leaf => []
  | node left x right => left.toList ++ x :: right.toList

/-- Insertion of an item, unless one is met to which it compares neither before nor after. -/
def Tree.insert (comp : α → α → Bool) (v : α) : Tree α → Tree α
  | leaf => node leaf v leaf
  | node left x right =>
    if comp v x then node (left.insert comp v) x right
    else if comp x v then node left x (right.insert comp v)
    else node left x right

/-- What is done to the shape of a tree after an insertion.  It may depend on all that was
inserted before, and it keeps the sequence of the items. -/
structure Balancer (α : Type*) where
  rebalance : List α → Tree α → Tree α
  toList_rebalance : ∀ done t, (rebalance done t).toList = t.toList

/-- No rotation at all. -/
def Balancer.still : Balancer α := ⟨fun _ t => t, fun _ _ => rfl⟩

/-- Insertion of a list, front to back; `done` is what is in already, latest first. -/
def emplaceAll (bal : Balancer α) (comp : α → α → Bool) (done : List α) (t : Tree α) : List α → Tree α
  | [] => t
  | v :: vs => emplaceAll bal comp (v :: done) (bal.rebalance (v :: done) (t.insert comp v)) vs

/-- Appends an item, unless the last one has its key. -/
def pushIfNew [DecidableEq κ] (key : α → κ) (out : List α) (x : α) : List α :=
  if out.getLast?.map key = some (key x) then out else out ++ [x]

/-- The first item of each run of equal keys. -/
def firstOfRuns [DecidableEq κ] (key : α → κ) (items : List α) : List α :=
  items.foldl (pushIfNew key) []

/-- Insert all, walk in order, keep the first of each run. -/
def survivors [DecidableEq κ] (bal : Balancer α) (comp : α → α → Bool) (key : α → κ)
    (items : List α) : List α :=
  firstOfRuns key (emplaceAll bal comp [] .leaf items).toList

/-! ## One insertion, seen on the sequence of items -/

/-- The item is dropped because of one it does not compare with, or goes between two
neighbours that both compare with it. -/
def Placed (comp : α → α → Bool) (v : α) (items items' : List α) : Prop :=
  (items' = items ∧ ∃ z ∈ items, comp v z = false ∧ comp z v = false) ∨
  ∃ l1 l2, items = l1 ++ l2 ∧ items' = l1 ++ v :: l2 ∧
    (∀ z ∈ l1.getLast?, comp v z = false ∧ comp z v = true) ∧ ∀ z ∈ l2.head?, comp v z = true

/-- A sequence of insertions. -/
inductive Run (comp : α → α → Bool) : List α → List α → List α → Prop where
  | nil {items : List α} : Run comp items [] items
  | cons {v : α} {vs items mid items' : List α} :
      Placed comp v items mid → Run comp mid vs items' → Run comp items (v :: vs) items'

theorem insert_placed (comp : α → α → Bool) (v : α) (t : Tree α) :
    Placed comp v t.toList (t.insert comp v).toList := by
  induction t with
  | leaf => exact Or.inr ⟨[], [], rfl, rfl, by simp, by simp⟩
  | node left x right ihl ihr =>
    unfold Tree.insert
    by_cases hvx : comp v x = true
    · rw [if_pos hvx]
      rcases ihl with ⟨heq, z, hz, hcomp⟩ | ⟨l1, l2, hl, hl', hlast, hhead⟩
      · exact Or.inl ⟨by simp only [Tree.toList, heq], z, by simp [Tree.toList, hz], hcomp⟩
      · refine Or.inr ⟨l1, l2 ++ x :: right.toList, ?_, ?_, hlast, ?_⟩
        · simp only [Tree.toList, hl, List.append_assoc]
        · simp only [Tree.toList, hl', List.append_assoc, List.cons_append]
        · intro z hz
          cases l2 with
          | nil =>
            obtain rfl : x = z := by simpa using hz
            exact hvx
          | cons w l2 => exact hhead z (by simpa using hz)
    · rw [if_neg hvx]
      rw [Bool.not_eq_true] at hvx
      by_cases hxv : comp x v = true
      · rw [if_pos hxv]
        rcases ihr with ⟨heq, z, hz, hcomp⟩ | ⟨l1, l2, hl, hl', hlast, hhead⟩
        · exact Or.inl ⟨by simp only [Tree.toList, heq], z, by simp [Tree.toList, hz], hcomp⟩
        · refine Or.inr ⟨left.toList ++ x :: l1, l2, ?_, ?_, ?_, hhead⟩
          · simp only [Tree.toList, hl, List.append_assoc, List.cons_append]
          · simp only [Tree.toList, hl', List.append_assoc, List.cons_append]
          · intro z hz
            rcases List.eq_nil_or_concat' l1 with rfl | ⟨l, w, rfl⟩
            · obtain rfl : x = z := by simpa using hz
              exact ⟨hvx, hxv⟩
            · rw [← List.cons_append, ← List.append_assoc, List.getLast?_concat] at hz
              exact hlast z (by rw [List.getLast?_concat]; exact hz)
      · rw [if_neg hxv]
        rw [Bool.not_eq_true] at hxv
        exact Or.inl ⟨rfl, x, by simp [Tree.toList], hvx, hxv⟩

/-- Whatever the balancing, the sequence of items goes through a run. -/
theorem emplaceAll_run (bal : Balancer α) (comp : α → α → Bool) (done : List α) (t : Tree α)
    (vs : List α) : Run comp t.toList vs (emplaceAll bal comp done t vs).toList := by
  induction vs generalizing done t with
  | nil => exact Run.nil
  | cons v vs ih =>
    refine Run.cons (insert_placed comp v t) ?_
    rw [← bal.toList_rebalance (v :: done)]
    exact ih _ _

theorem Run.append {comp : α → α → Bool} {items items' vs ws : List α}
    (h : Run comp items (vs ++ ws) items') :
    ∃ mid, Run comp items vs mid ∧ Run comp mid ws items' := by
  induction vs generalizing items with
  | nil => exact ⟨items, Run.nil, h⟩
  | cons v vs ih =>
    cases h with
    | cons hp hr =>
      obtain ⟨mid, h1, h2⟩ := ih hr
      exact ⟨mid, Run.cons hp h1, h2⟩

theorem Placed.mem {comp : α → α → Bool} {v z : α} {items items' : List α}
    (h : Placed comp v items items') (hz : z ∈ items') : z = v ∨ z ∈ items := by
  rcases h with ⟨rfl, _⟩ | ⟨l1, l2, rfl, rfl, _⟩
  · exact Or.inr hz
  · simp only [List.mem_append, List.mem_cons] at hz ⊢
    rcases hz with hz | rfl | hz
    · exact Or.inr (Or.inl hz)
    · exact Or.inl rfl
    · exact Or.inr (Or.inr hz)

theorem Placed.mem_of_mem {comp : α → α → Bool} {v z : α} {items items' : List α}
    (h : Placed comp v items items') (hz : z ∈ items) : z ∈ items' := by
  rcases h with ⟨rfl, _⟩ | ⟨l1, l2, rfl, rfl, _⟩
  · exact hz
  · simp only [List.mem_append, List.mem_cons] at hz ⊢
    rcases hz with hz | hz
    · exact Or.inl hz
    · exact Or.inr (Or.inr hz)

theorem Run.mem {comp : α → α → Bool} {items vs items' : List α}
    (h : Run comp items vs items') {z : α} (hz : z ∈ items') : z ∈ items ∨ z ∈ vs := by
  induction h with
  | nil => exact Or.inl hz
  | cons hp _ ih =>
    rcases ih hz with hz | hz
    · rcases hp.mem hz with rfl | hz
      · exact Or.inr List.mem_cons_self
      · exact Or.inl hz
    · exact Or.inr (List.mem_cons_of_mem _ hz)

/-- Where an item stands after an insertion: in front of it is what was there before, or
the new item was put in front of it. -/
theorem split_insert {a c l1 l2 : List α} {g : α} (v : α) (h : a ++ g :: c = l1 ++ l2) :
    (∃ c', l1 ++ v :: l2 = a ++ g :: c') ∨ ∃ l3, a = l1 ++ l3 ∧ l2 = l3 ++ g :: c := by
  rcases List.append_eq_append_iff.mp h with ⟨l, hl1, hgc⟩ | ⟨l, ha, hl2⟩
  · cases l with
    | nil => exact Or.inr ⟨[], by simpa using hl1.symm, by simpa using hgc.symm⟩
    | cons w l =>
      obtain ⟨rfl, rfl⟩ := List.cons.inj hgc
      exact Or.inl ⟨l ++ v :: l2, by simp [hl1]⟩
  · exact Or.inr ⟨l, ha, hl2⟩

/-! ## The order of the keys -/

section Key
variable [LinearOrder κ] {comp : α → α → Bool} {key : α → κ}
  (hkey : ∀ a b, key a < key b → comp a b = true ∧ comp b a = false)

include hkey

theorem key_le_of_comp {a b : α} (h : comp a b = true) : key a ≤ key b := by
  by_contra hlt
  rw [(hkey b a (not_le.mp hlt)).2] at h
  cases h

theorem key_le_of_not_comp {a b : α} (h : comp a b = false) : key b ≤ key a := by
  by_contra hlt
  rw [(hkey a b (not_le.mp hlt)).1] at h
  cases h

theorem Placed.exists_key {v : α} {items items' : List α} (h : Placed comp v items items') :
    ∃ z ∈ items', key z = key v := by
  rcases h with ⟨rfl, z, hz, hvz, hzv⟩ | ⟨l1, l2, rfl, rfl, _⟩
  · exact ⟨z, hz, le_antisymm (key_le_of_not_comp hkey hvz) (key_le_of_not_comp hkey hzv)⟩
  · exact ⟨v, by simp, rfl⟩

/-- Each key that was inserted, or was there, is there. -/
theorem Run.exists_key {items vs items' : List α} (h : Run comp items vs items') {x : α}
    (hx : x ∈ items ∨ x ∈ vs) : ∃ z ∈ items', key z = key x := by
  induction h generalizing x with
  | nil =>
    rcases hx with hx | hx
    · exact ⟨x, hx, rfl⟩
    · cases hx
  | cons hp _ ih =>
    rcases hx with hx | hx
    · exact ih (Or.inl (hp.mem_of_mem hx))
    · rcases List.mem_cons.mp hx with rfl | hx
      · obtain ⟨z, hz, hkz⟩ := hp.exists_key hkey
        obtain ⟨w, hw, hkw⟩ := ih (Or.inl hz)
        exact ⟨w, hw, hkw.trans hkz⟩
      · exact ih (Or.inr hx)

theorem Placed.sorted {v : α} {items items' : List α} (h : Placed comp v items items')
    (hs : items.Pairwise fun a b => key a ≤ key b) : items'.Pairwise fun a b => key a ≤ key b := by
  rcases h with ⟨rfl, _⟩ | ⟨l1, l2, rfl, rfl, hlast, hhead⟩
  · exact hs
  · obtain ⟨hs1, hs2, hs12⟩ := List.pairwise_append.mp hs
    -- the neighbours bound `v`, and what is beyond them is further away
    have hle1 : ∀ a ∈ l1, key a ≤ key v := by
      intro a ha
      rcases List.eq_nil_or_concat' l1 with rfl | ⟨l, w, rfl⟩
      · cases ha
      · have hw : key w ≤ key v := key_le_of_not_comp hkey (hlast w (by simp)).1
        rcases List.mem_append.mp ha with ha | ha
        · exact ((List.pairwise_append.mp hs1).2.2 a ha w (by simp)).trans hw
        · rw [List.mem_singleton.mp ha]
          exact hw
    have hle2 : ∀ b ∈ l2, key v ≤ key b := by
      intro b hb
      cases l2 with
      | nil => cases hb
      | cons w l =>
        have hw : key v ≤ key w := key_le_of_comp hkey (hhead w rfl)
        rcases List.mem_cons.mp hb with rfl | hb
        · exact hw
        · exact hw.trans ((List.pairwise_cons.mp hs2).1 b hb)
    refine List.pairwise_append.mpr ⟨hs1, List.pairwise_cons.mpr ⟨hle2, hs2⟩, ?_⟩
    intro a ha b hb
    rcases List.mem_cons.mp hb with rfl | hb
    · exact hle1 a ha
    · exact hs12 a ha b hb

theorem Run.sorted {items vs items' : List α} (h : Run comp items vs items')
    (hs : items.Pairwise fun a b => key a ≤ key b) : items'.Pairwise fun a b => key a ≤ key b := by
  induction h with
  | nil => exact hs
  | cons hp _ ih => exact ih (hp.sorted hkey hs)

end Key

/-! ## The first item of a key -/

/-- The item is the first of its key. -/
def Leads (key : α → κ) (g : α) (items : List α) : Prop :=
  ∃ a c, items = a ++ g :: c ∧ ∀ z ∈ a, key z ≠ key g

/-- `y` stands before every occurrence of `g`. -/
def Shadowed (y g : α) (items : List α) : Prop := ∃ a c, items = a ++ y :: c ∧ g ∉ a

theorem Leads.mem {key : α → κ} {g : α} {items : List α} (h : Leads key g items) : g ∈ items := by
  obtain ⟨a, c, rfl, _⟩ := h
  simp

/-- Of two items of a list, one is the other, or one stands in front of the other. -/
theorem split_cases {a c a' c' : List α} {x x' : α} (h : a ++ x :: c = a' ++ x' :: c') :
    x = x' ∨ x ∈ a' ∨ x' ∈ a := by
  rcases List.append_eq_append_iff.mp h with ⟨l, rfl, hr⟩ | ⟨l, rfl, hr⟩
  · cases l with
    | nil => exact Or.inl (List.cons.inj hr).1
    | cons w l =>
      obtain ⟨rfl, _⟩ := List.cons.inj hr
      exact Or.inr (Or.inl (by simp))
  · cases l with
    | nil => exact Or.inl (List.cons.inj hr).1.symm
    | cons w l =>
      obtain ⟨rfl, _⟩ := List.cons.inj hr
      exact Or.inr (Or.inr (by simp))

theorem Leads.unique {key : α → κ} {g g' : α} {items : List α} (h : Leads key g items)
    (h' : Leads key g' items) (hk : key g = key g') : g = g' := by
  obtain ⟨a, c, rfl, ha⟩ := h
  obtain ⟨a', c', heq, ha'⟩ := h'
  rcases split_cases heq with hgg | hg | hg
  · exact hgg
  · exact absurd hk (ha' g hg)
  · exact absurd hk.symm (ha g' hg)

/-- Each key that is there has a leader. -/
theorem exists_leads (key : α → κ) {x : α} {items : List α} (hx : x ∈ items) :
    ∃ g, Leads key g items ∧ key g = key x := by
  induction items with
  | nil => cases hx
  | cons w items ih =>
    by_cases hw : key w = key x
    · exact ⟨w, ⟨[], items, rfl, by simp⟩, hw⟩
    · rcases List.mem_cons.mp hx with rfl | hx
      · exact absurd rfl hw
      · obtain ⟨g, ⟨a, c, rfl, ha⟩, hg⟩ := ih hx
        refine ⟨g, ⟨w :: a, c, rfl, ?_⟩, hg⟩
        intro z hz
        rcases List.mem_cons.mp hz with rfl | hz
        · rw [hg]
          exact hw
        · exact ha z hz

theorem Shadowed.not_leads {key : α → κ} {y g : α} {items : List α} (h : Shadowed y g items)
    (hk : key y = key g) (hne : y ≠ g) : ¬ Leads key g items := by
  rintro ⟨a', c', heq', ha'⟩
  obtain ⟨a, c, rfl, ha⟩ := h
  rcases split_cases heq' with hyg | hy | hg
  · exact hne hyg
  · exact ha' y hy hk
  · exact ha hg

theorem Placed.shadowed {comp : α → α → Bool} {v y g : α} {items items' : List α}
    (h : Placed comp v items items') (hv : v ≠ g) (hs : Shadowed y g items) : Shadowed y g items' := by
  rcases h with ⟨rfl, _⟩ | ⟨l1, l2, rfl, rfl, _⟩
  · exact hs
  · obtain ⟨a, c, heq, ha⟩ := hs
    rcases split_insert v heq.symm with ⟨c', hc'⟩ | ⟨l3, rfl, rfl⟩
    · exact ⟨a, c', hc', ha⟩
    · refine ⟨l1 ++ v :: l3, c, by simp, ?_⟩
      intro hg
      rcases List.mem_append.mp hg with hg | hg
      · exact ha (List.mem_append_left _ hg)
      · rcases List.mem_cons.mp hg with rfl | hg
        · exact hv rfl
        · exact ha (List.mem_append_right _ hg)

/-- Later insertions do not bring a shadowed item to the front. -/
theorem Run.shadowed {comp : α → α → Bool} {y g : α} {items vs items' : List α}
    (h : Run comp items vs items') (hvs : g ∉ vs) (hs : Shadowed y g items) : Shadowed y g items' := by
  induction h with
  | nil => exact hs
  | cons hp _ ih =>
    rw [List.mem_cons, not_or] at hvs
    exact ih hvs.2 (hp.shadowed (Ne.symm hvs.1) hs)

section Leader
variable [LinearOrder κ] {comp : α → α → Bool} {key : α → κ}
  (hkey : ∀ a b, key a < key b → comp a b = true ∧ comp b a = false)

include hkey

/-- A leader stays in front, unless an item of its key compares before it. -/
theorem Placed.leads {v g : α} {items items' : List α} (h : Placed comp v items items')
    (hs : items.Pairwise fun a b => key a ≤ key b) (hv : key v = key g → comp v g = false)
    (hg : Leads key g items) : Leads key g items' := by
  rcases h with ⟨rfl, _⟩ | ⟨l1, l2, rfl, rfl, _, hhead⟩
  · exact hg
  · obtain ⟨a, c, heq, ha⟩ := hg
    rcases split_insert v heq.symm with ⟨c', hc'⟩ | ⟨l3, rfl, rfl⟩
    · exact ⟨a, c', hc', ha⟩
    · refine ⟨l1 ++ v :: l3, c, by simp, ?_⟩
      have hvg : key v ≠ key g := by
        intro hk
        cases l3 with
        | nil =>
          rw [hhead g rfl] at hv
          cases hv hk
        | cons w l3 =>
          -- `v` is put before `w`, which is of a smaller key than `g`
          have hvw : key v ≤ key w := key_le_of_comp hkey (hhead w rfl)
          have hwg : key w ≤ key g := by
            have h2 := (List.pairwise_append.mp hs).2.1
            exact (List.pairwise_cons.mp h2).1 g (by simp)
          exact ha w (by simp) (le_antisymm hwg (hk ▸ hvw))
      intro z hz
      rcases List.mem_append.mp hz with hz | hz
      · exact ha z (List.mem_append_left _ hz)
      · rcases List.mem_cons.mp hz with rfl | hz
        · exact hvg
        · exact ha z (List.mem_append_right _ hz)

/-- An item that compares before all of its key is put in front of them. -/
theorem Placed.leads_self {g : α} {items items' : List α} (h : Placed comp g items items')
    (hs : items.Pairwise fun a b => key a ≤ key b)
    (hg : ∀ z ∈ items, key z = key g → comp g z = true) : Leads key g items' := by
  rcases h with ⟨rfl, z, hz, hgz, hzg⟩ | ⟨l1, l2, rfl, rfl, hlast, _⟩
  · have hk : key z = key g := le_antisymm (key_le_of_not_comp hkey hgz) (key_le_of_not_comp hkey hzg)
    rw [hg z hz hk] at hgz
    cases hgz
  · refine ⟨l1, l2, rfl, ?_⟩
    intro z hz hk
    rcases List.eq_nil_or_concat' l1 with rfl | ⟨l, w, rfl⟩
    · cases hz
    · obtain ⟨hgw, _⟩ := hlast w (by simp)
      have hzw : key z ≤ key w := by
        rcases List.mem_append.mp hz with hz | hz
        · exact (List.pairwise_append.mp (List.pairwise_append.mp hs).1).2.2 z hz w (by simp)
        · rw [List.mem_singleton.mp hz]
      have hwg : key w = key g := le_antisymm (key_le_of_not_comp hkey hgw) (hk ▸ hzw)
      rw [hg w (by simp) hwg] at hgw
      cases hgw

end Leader

/-! ## Champions -/

/-- The item compares before every other of its key, and none of its key before it. -/
def Champion (comp : α → α → Bool) (key : α → κ) (items : List α) (g : α) : Prop :=
  g ∈ items ∧ ∀ y ∈ items, key y = key g → comp y g = false ∧ (y ≠ g → comp g y = true)

theorem Champion.perm {comp : α → α → Bool} {key : α → κ} {items items' : List α} {g : α}
    (h : Champion comp key items g) (hp : items.Perm items') : Champion comp key items' g :=
  ⟨hp.mem_iff.mp h.1, fun y hy => h.2 y (hp.mem_iff.mpr hy)⟩

section Champions
variable [LinearOrder κ] {comp : α → α → Bool} {key : α → κ}
  (hkey : ∀ a b, key a < key b → comp a b = true ∧ comp b a = false)

include hkey

/-- Run lemma: a champion leads once it is in. -/
theorem Run.leads {g : α} {items vs items' : List α} (h : Run comp items vs items')
    (hs : items.Pairwise fun a b => key a ≤ key b)
    (hg : ∀ y, y ∈ items ∨ y ∈ vs → key y = key g → comp y g = false ∧ (y ≠ g → comp g y = true))
    (hin : Leads key g items ∨ g ∉ items ∧ g ∈ vs) : Leads key g items' := by
  induction h with
  | nil =>
    rcases hin with hin | ⟨_, hin⟩
    · exact hin
    · cases hin
  | @cons v vs items mid items' hp _ ih =>
    refine ih (hp.sorted hkey hs) ?_ ?_
    · intro y hy
      refine hg y ?_
      rcases hy with hy | hy
      · rcases hp.mem hy with rfl | hy
        · exact Or.inr List.mem_cons_self
        · exact Or.inl hy
      · exact Or.inr (List.mem_cons_of_mem _ hy)
    · rcases hin with hin | ⟨hout, hin⟩
      · exact Or.inl (hp.leads hkey hs (fun hk => (hg v (Or.inr List.mem_cons_self) hk).1) hin)
      · by_cases hv : v = g
        · subst hv
          refine Or.inl (hp.leads_self hkey hs ?_)
          intro z hz hk
          exact (hg z (Or.inl hz) hk).2 (fun h => hout (h ▸ hz))
        · refine Or.inr ⟨?_, ?_⟩
          · intro hmid
            rcases hp.mem hmid with rfl | hmid
            · exact hv rfl
            · exact hout hmid
          · rcases List.mem_cons.mp hin with rfl | hin
            · exact absurd rfl hv
            · exact hin

end Champions

/-! ## The pass over the sequence -/

theorem leads_concat_iff {key : α → κ} (items : List α) (x g : α) :
    Leads key g (items ++ [x]) ↔ Leads key g items ∨ g = x ∧ ∀ z ∈ items, key z ≠ key x := by
  constructor
  · rintro ⟨a, c, heq, ha⟩
    rcases List.eq_nil_or_concat' c with rfl | ⟨c, w, rfl⟩
    · obtain ⟨rfl, hx⟩ := List.append_inj' heq rfl
      obtain rfl : x = g := by simpa using hx
      exact Or.inr ⟨rfl, ha⟩
    · rw [← List.cons_append, ← List.append_assoc] at heq
      obtain ⟨rfl, _⟩ := List.append_inj' heq rfl
      exact Or.inl ⟨a, c, rfl, ha⟩
  · rintro (⟨a, c, rfl, ha⟩ | ⟨rfl, hne⟩)
    · exact ⟨a, c ++ [x], by simp, ha⟩
    · exact ⟨items, [], rfl, hne⟩

/-- In a sorted sequence, a key that differs from the last one is new. -/
theorem key_lt_of_last_ne [LinearOrder κ] {key : α → κ} {items : List α} {x : α}
    (hs : (items ++ [x]).Pairwise fun a b => key a ≤ key b)
    (hlast : items.getLast?.map key ≠ some (key x)) {z : α} (hz : z ∈ items) : key z < key x := by
  obtain ⟨hs1, _, hs12⟩ := List.pairwise_append.mp hs
  rcases List.eq_nil_or_concat' items with rfl | ⟨l, w, rfl⟩
  · cases hz
  · rw [List.getLast?_concat] at hlast
    have hwx : key w < key x := lt_of_le_of_ne (hs12 w (by simp) x (by simp)) (fun h => hlast (by simp [h]))
    rcases List.mem_append.mp hz with hz | hz
    · exact ((List.pairwise_append.mp hs1).2.2 z hz w (by simp)).trans_lt hwx
    · rw [List.mem_singleton.mp hz]
      exact hwx

section Pass
variable [DecidableEq κ] {key : α → κ}

theorem firstOfRuns_concat (items : List α) (x : α) :
    firstOfRuns key (items ++ [x]) = pushIfNew key (firstOfRuns key items) x := by
  unfold firstOfRuns
  rw [List.foldl_append]
  rfl

/-- What is kept last has the key that was met last. -/
theorem firstOfRuns_getLast? (items : List α) :
    (firstOfRuns key items).getLast?.map key = items.getLast?.map key := by
  induction items using List.reverseRecOn with
  | nil => rfl
  | append_singleton items x _ =>
    rw [firstOfRuns_concat, List.getLast?_concat]
    unfold pushIfNew
    split
    · next h => exact h
    · rw [List.getLast?_concat]

variable [LinearOrder κ]

theorem mem_firstOfRuns {items : List α} (hs : items.Pairwise fun a b => key a ≤ key b) (g : α) :
    g ∈ firstOfRuns key items ↔ Leads key g items := by
  induction items using List.reverseRecOn with
  | nil =>
    constructor
    · intro h
      cases h
    · intro h
      cases h.mem
  | append_singleton items x ih =>
    have ih := ih (List.pairwise_append.mp hs).1
    rw [firstOfRuns_concat, leads_concat_iff]
    unfold pushIfNew
    rw [firstOfRuns_getLast?]
    by_cases hlast : items.getLast?.map key = some (key x)
    · rw [if_pos hlast, ih]
      refine ⟨Or.inl, ?_⟩
      rintro (h | ⟨_, hne⟩)
      · exact h
      · obtain ⟨w, hw, hwx⟩ := Option.map_eq_some_iff.mp hlast
        exact absurd hwx (hne w (List.mem_of_getLast? hw))
    · rw [if_neg hlast, List.mem_append, ih, List.mem_singleton]
      refine or_congr Iff.rfl ⟨fun h => ⟨h, ?_⟩, fun h => h.1⟩
      intro z hz
      exact (key_lt_of_last_ne hs hlast hz).ne

theorem firstOfRuns_sorted {items : List α} (hs : items.Pairwise fun a b => key a ≤ key b) :
    (firstOfRuns key items).Pairwise fun a b => key a < key b := by
  induction items using List.reverseRecOn with
  | nil => exact List.Pairwise.nil
  | append_singleton items x ih =>
    have hs1 := (List.pairwise_append.mp hs).1
    rw [firstOfRuns_concat]
    unfold pushIfNew
    rw [firstOfRuns_getLast?]
    by_cases hlast : items.getLast?.map key = some (key x)
    · rw [if_pos hlast]
      exact ih hs1
    · rw [if_neg hlast]
      refine List.pairwise_append.mpr ⟨ih hs1, List.pairwise_singleton _ _, ?_⟩
      intro z hz y hy
      rw [List.mem_singleton.mp hy]
      exact key_lt_of_last_ne hs hlast ((mem_firstOfRuns hs1 z).mp hz).mem

end Pass

/-! ## What survives -/

section Survivors
variable [LinearOrder κ] {comp : α → α → Bool} {key : α → κ}
  (hkey : ∀ a b, key a < key b → comp a b = true ∧ comp b a = false) (bal : Balancer α)

include hkey

theorem emplaceAll_sorted (items : List α) :
    (emplaceAll bal comp [] .leaf items).toList.Pairwise fun a b => key a ≤ key b :=
  (emplaceAll_run bal comp [] .leaf items).sorted hkey List.Pairwise.nil

variable [DecidableEq κ]

theorem mem_survivors_iff_leads (items : List α) (g : α) :
    g ∈ survivors bal comp key items ↔ Leads key g (emplaceAll bal comp [] .leaf items).toList :=
  mem_firstOfRuns (emplaceAll_sorted hkey bal items) g

theorem survivors_sorted (items : List α) :
    (survivors bal comp key items).Pairwise fun a b => key a < key b :=
  firstOfRuns_sorted (emplaceAll_sorted hkey bal items)

theorem mem_of_mem_survivors {items : List α} {g : α} (h : g ∈ survivors bal comp key items) :
    g ∈ items := by
  have hg := ((mem_survivors_iff_leads hkey bal items g).mp h).mem
  rcases (emplaceAll_run bal comp [] .leaf items).mem hg with hg | hg
  · cases hg
  · exact hg

/-- Each key of the list survives. -/
theorem exists_survivor {items : List α} {x : α} (hx : x ∈ items) :
    ∃ g ∈ survivors bal comp key items, key g = key x := by
  obtain ⟨z, hz, hzx⟩ := (emplaceAll_run bal comp [] .leaf items).exists_key hkey (Or.inr hx)
  obtain ⟨g, hg, hgz⟩ := exists_leads key hz
  exact ⟨g, (mem_survivors_iff_leads hkey bal items g).mpr hg, hgz.trans hzx⟩

theorem survives_of_champion {items : List α} {g : α} (h : Champion comp key items g) :
    g ∈ survivors bal comp key items := by
  refine (mem_survivors_iff_leads hkey bal items g).mpr ?_
  refine (emplaceAll_run bal comp [] .leaf items).leads hkey List.Pairwise.nil ?_ (Or.inr ⟨?_, h.1⟩)
  · rintro y (hy | hy) hk
    · cases hy
    · exact h.2 y hy hk
  · intro hg
    cases hg

/-- Two survivors of one key are one. -/
theorem survivor_unique {items : List α} {g g' : α} (h : g ∈ survivors bal comp key items)
    (h' : g' ∈ survivors bal comp key items) (hk : key g = key g') : g = g' :=
  ((mem_survivors_iff_leads hkey bal items g).mp h).unique
    ((mem_survivors_iff_leads hkey bal items g').mp h') hk

/-- **Where each key has a champion, exactly the champions survive.** -/
theorem mem_survivors_iff_of_champions {items : List α}
    (hc : ∀ x ∈ items, ∃ g, Champion comp key items g ∧ key g = key x) (g : α) :
    g ∈ survivors bal comp key items ↔ Champion comp key items g := by
  constructor
  · intro hg
    obtain ⟨g', hg', hk⟩ := hc g (mem_of_mem_survivors hkey bal hg)
    rw [survivor_unique hkey bal hg (survives_of_champion hkey bal hg') hk.symm]
    exact hg'
  · exact survives_of_champion hkey bal

/-- Then the order of insertion does not matter. -/
theorem survivors_perm {items items' : List α} (hp : items'.Perm items)
    (hc : ∀ x ∈ items, ∃ g, Champion comp key items g ∧ key g = key x) :
    survivors bal comp key items' = survivors bal comp key items := by
  have hc' : ∀ x ∈ items', ∃ g, Champion comp key items' g ∧ key g = key x := by
    intro x hx
    obtain ⟨g, hg, hk⟩ := hc x (hp.mem_iff.mp hx)
    exact ⟨g, hg.perm hp.symm, hk⟩
  have hmem : ∀ g, g ∈ survivors bal comp key items' ↔ g ∈ survivors bal comp key items := by
    intro g
    rw [mem_survivors_iff_of_champions hkey bal hc', mem_survivors_iff_of_champions hkey bal hc]
    exact ⟨fun h => h.perm hp, fun h => h.perm hp.symm⟩
  have hs := survivors_sorted hkey bal items
  have hs' := survivors_sorted hkey bal items'
  have hnodup := hs.imp (fun h => ne_of_apply_ne key h.ne)
  have hnodup' := hs'.imp (fun h => ne_of_apply_ne key h.ne)
  refine ((List.perm_ext_iff_of_nodup hnodup' hnodup).mpr hmem).eq_of_pairwise ?_ hs' hs
  intro a b _ _ hab hba
  exact absurd hab hba.asymm

end Survivors

/-! ## An item that survives every order of insertion -/

theorem placed_nil {comp : α → α → Bool} {v : α} {items : List α} (h : Placed comp v [] items) :
    items = [v] := by
  rcases h with ⟨_, z, hz, _⟩ | ⟨l1, l2, heq, rfl, _⟩
  · cases hz
  · obtain ⟨rfl, rfl⟩ := List.append_eq_nil_iff.mp heq.symm
    rfl

theorem placed_singleton {comp : α → α → Bool} {v x : α} {items : List α} (h : Placed comp v [x] items) :
    items = [x] ∧ comp v x = false ∧ comp x v = false ∨ items = [v, x] ∧ comp v x = true ∨
      items = [x, v] ∧ comp v x = false ∧ comp x v = true := by
  rcases h with ⟨rfl, z, hz, hcomp⟩ | ⟨l1, l2, heq, rfl, hlast, hhead⟩
  · obtain rfl := List.mem_singleton.mp hz
    exact Or.inl ⟨rfl, hcomp⟩
  · rcases List.append_eq_singleton_iff.mp heq.symm with ⟨rfl, rfl⟩ | ⟨rfl, rfl⟩
    · exact Or.inr (Or.inl ⟨rfl, hhead x rfl⟩)
    · exact Or.inr (Or.inr ⟨rfl, hlast x rfl⟩)

/-- Copies of one item are dropped where it does not compare with what is there. -/
theorem Run.copies {comp : α → α → Bool} {g x : α} (hgx : comp g x = false) (hxg : comp x g = false)
    {gs items : List α} (hgs : ∀ v ∈ gs, v = g) (h : Run comp [x] gs items) : items = [x] := by
  induction gs with
  | nil =>
    cases h
    rfl
  | cons v gs ih =>
    obtain rfl := hgs v List.mem_cons_self
    cases h with
    | cons hp hr =>
      rcases placed_singleton hp with ⟨rfl, _⟩ | ⟨_, htrue⟩ | ⟨_, _, htrue⟩
      · exact ih (fun w hw => hgs w (List.mem_cons_of_mem _ hw)) hr
      · rw [hgx] at htrue
        cases htrue
      · rw [hxg] at htrue
        cases htrue

/-- A list with the copies of one item, and then another item, at its front. -/
theorem exists_perm_front {items : List α} {g y : α} (hy : y ∈ items) (hne : y ≠ g) :
    ∃ gs rest, (∀ v ∈ gs, v = g) ∧ (g ∈ items → gs ≠ []) ∧ g ∉ rest ∧ (gs ++ y :: rest).Perm items := by
  classical
  have hy' : y ∈ items.filter (fun v => !decide (v = g)) := by simp [hy, hne]
  refine ⟨items.filter (fun v => decide (v = g)), (items.filter (fun v => !decide (v = g))).erase y,
    ?_, ?_, ?_, ?_⟩
  · intro v hv
    simpa using (List.mem_filter.mp hv).2
  · intro hg hnil
    have hmem : g ∈ items.filter (fun v => decide (v = g)) := by simp [hg]
    rw [hnil] at hmem
    cases hmem
  · intro hg
    simpa using List.mem_of_mem_erase hg
  · exact ((List.perm_cons_erase hy').symm.append_left _).trans (List.filter_append_perm _ items)

/-- **An item that survives every order of insertion is a champion.**  Against an item of
its key that is not after it, one of two orders puts that item in front: all copies of `g`
first and then `y`, or `y` first and then all copies of `g`. -/
theorem champion_of_always_survives [LinearOrder κ] [DecidableEq κ] {comp : α → α → Bool} {key : α → κ}
    (hkey : ∀ a b, key a < key b → comp a b = true ∧ comp b a = false) (bal : Balancer α)
    (hirrefl : ∀ a, comp a a = false) {items : List α} {g : α}
    (hall : ∀ items', items'.Perm items → g ∈ survivors bal comp key items') :
    Champion comp key items g := by
  have hg : g ∈ items := mem_of_mem_survivors hkey bal (hall items (List.Perm.refl items))
  refine ⟨hg, fun y hy hk => ?_⟩
  by_cases hne : y = g
  · subst hne
    exact ⟨hirrefl y, fun h => absurd rfl h⟩
  obtain ⟨gs, rest, hgs, hgs0, hrest, hperm⟩ := exists_perm_front hy hne
  have hafter : comp y g = false := by
    rw [← Bool.not_eq_true]
    intro hyg
    have hlead := (mem_survivors_iff_leads hkey bal _ g).mp (hall _ hperm)
    obtain ⟨mid, hr1, hr2⟩ := (emplaceAll_run bal comp [] .leaf (gs ++ y :: rest)).append
    have hmid : mid = [g] := by
      cases hr1 with
      | nil => exact absurd rfl (hgs0 hg)
      | @cons v vs _ mid' _ hp hr =>
        obtain rfl := hgs v List.mem_cons_self
        rw [placed_nil hp] at hr
        exact hr.copies (hirrefl v) (hirrefl v) (fun w hw => hgs w (List.mem_cons_of_mem _ hw))
    subst hmid
    cases hr2 with
    | cons hp hr =>
      rcases placed_singleton hp with ⟨_, hfalse, _⟩ | ⟨rfl, _⟩ | ⟨_, hfalse, _⟩
      · rw [hyg] at hfalse
        cases hfalse
      · exact (hr.shadowed hrest ⟨[], [g], rfl, by simp⟩).not_leads hk hne hlead
      · rw [hyg] at hfalse
        cases hfalse
  refine ⟨hafter, fun _ => ?_⟩
  by_contra hgy
  rw [Bool.not_eq_true] at hgy
  have hperm' : (y :: (gs ++ rest)).Perm items := List.perm_middle.symm.trans hperm
  have hlead := (mem_survivors_iff_leads hkey bal _ g).mp (hall _ hperm')
  cases emplaceAll_run bal comp [] .leaf (y :: (gs ++ rest)) with
  | cons hp hr =>
    rw [placed_nil hp] at hr
    obtain ⟨mid, hr1, hr2⟩ := hr.append
    rw [hr1.copies hgy hafter hgs] at hr2
    exact (hr2.shadowed hrest ⟨[], [], rfl, by simp⟩).not_leads hk hne hlead

end SearchTree
