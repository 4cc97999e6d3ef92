import Mathlib

/-!
# Collecting what a queue reaches

`collect next fuel queue seen` takes the elements of a queue one by one; one that was not
seen yet is added to `seen`, and its successors go to the end of the queue.  `none` says
that the fuel ran out.

When all successors lie in a finite set, some fuel is enough (`exists_collect`), and then
the elements seen are, without repetition, exactly those that the first queue reaches
(`collect_spec`), whatever cycles there are.
-/

namespace Worklist

open Relation

variable {α : Type}

def collect [DecidableEq α] (next : α → List α) : Nat → List α → List α → Option (List α)
  | _, [], seen => some seen
  | 0, _ :: _, _ => none
  | fuel + 1, x :: queue, seen =>
    if x ∈ seen then collect next fuel queue seen else collect next fuel (queue ++ next x) (seen ++ [x])

/-- `y` is reached from the queue. -/
def Reached (next : α → List α) (start : List α) (y : α) : Prop :=
  ∃ x ∈ start, ReflTransGen (fun a b => b ∈ next a) x y

theorem Reached.of_mem {next : α → List α} {start : List α} {x : α} (h : x ∈ start) : Reached next start x :=
  ⟨x, h, ReflTransGen.refl⟩

theorem Reached.next {next : α → List α} {start : List α} {x y : α} (h : Reached next start x) (hy : y ∈ next x) :
    Reached next start y := by
  obtain ⟨x₀, hx₀, hpath⟩ := h
  exact ⟨x₀, hx₀, hpath.tail hy⟩

/-- What holds of the start and passes on to successors holds of all that is reached. -/
theorem Reached.rec_on {next : α → List α} {start : List α} {p : α → Prop} (hstart : ∀ x ∈ start, p x)
    (hnext : ∀ x, p x → ∀ y ∈ next x, p y) {y : α} (h : Reached next start y) : p y := by
  obtain ⟨x, hx, hpath⟩ := h
  induction hpath with
  | refl => exact hstart x hx
  | tail _ hstep ih => exact hnext _ ih _ hstep

/-- What is known in the loop: nothing is seen twice, nothing but what is reached is seen or
queued, and the start and the successors of what is seen are seen or queued. -/
structure Inv (next : α → List α) (start queue seen : List α) : Prop where
  nodup : seen.Nodup
  reached : ∀ y, y ∈ seen ∨ y ∈ queue → Reached next start y
  start : ∀ y ∈ start, y ∈ seen ∨ y ∈ queue
  closed : ∀ x ∈ seen, ∀ y ∈ next x, y ∈ seen ∨ y ∈ queue

theorem Inv.init (next : α → List α) (start : List α) : Inv next start start [] where
  nodup := List.nodup_nil
  reached _ h := .of_mem (h.resolve_left List.not_mem_nil)
  start _ h := Or.inr h
  closed _ h := absurd h List.not_mem_nil

/-- An element that was seen is dropped. -/
theorem Inv.drop {next : α → List α} {start queue seen : List α} {x : α} (h : Inv next start (x :: queue) seen)
    (hx : x ∈ seen) : Inv next start queue seen := by
  have hkeep : ∀ y, y ∈ seen ∨ y ∈ x :: queue → y ∈ seen ∨ y ∈ queue := by
    rintro y (hy | hy)
    · exact Or.inl hy
    · rcases List.mem_cons.mp hy with rfl | hy
      · exact Or.inl hx
      · exact Or.inr hy
  refine ⟨h.nodup, fun y hy => ?_, fun y hy => hkeep y (h.start y hy), fun z hz y hy => hkeep y (h.closed z hz y hy)⟩
  exact h.reached y (hy.imp id (List.mem_cons_of_mem x))

/-- A new element is seen, and its successors are queued. -/
theorem Inv.visit {next : α → List α} {start queue seen : List α} {x : α} (h : Inv next start (x :: queue) seen)
    (hx : x ∉ seen) : Inv next start (queue ++ next x) (seen ++ [x]) := by
  have hxreach : Reached next start x := h.reached x (Or.inr List.mem_cons_self)
  have hkeep : ∀ y, y ∈ seen ∨ y ∈ x :: queue → y ∈ seen ++ [x] ∨ y ∈ queue ++ next x := by
    rintro y (hy | hy)
    · exact Or.inl (List.mem_append_left _ hy)
    · rcases List.mem_cons.mp hy with rfl | hy
      · exact Or.inl (List.mem_append_right _ List.mem_cons_self)
      · exact Or.inr (List.mem_append_left _ hy)
  refine ⟨?_, fun y hy => ?_, fun y hy => hkeep y (h.start y hy), fun z hz y hy => ?_⟩
  · refine List.nodup_append.mpr ⟨h.nodup, List.nodup_singleton x, fun a ha b hb => ?_⟩
    rw [List.mem_singleton.mp hb]
    rintro rfl
    exact hx ha
  · rcases hy with hy | hy
    · rcases List.mem_append.mp hy with hy | hy
      · exact h.reached y (Or.inl hy)
      · rw [List.mem_singleton.mp hy]
        exact hxreach
    · rcases List.mem_append.mp hy with hy | hy
      · exact h.reached y (Or.inr (List.mem_cons_of_mem _ hy))
      · exact hxreach.next hy
  · rcases List.mem_append.mp hz with hz | hz
    · exact hkeep y (h.closed z hz y hy)
    · rw [List.mem_singleton.mp hz] at hy
      exact Or.inr (List.mem_append_right _ hy)

/-- When the queue is empty, what is seen is what is reached. -/
theorem Inv.done {next : α → List α} {start seen : List α} (h : Inv next start [] seen) (y : α) :
    y ∈ seen ↔ Reached next start y := by
  constructor
  · intro hy
    exact h.reached y (Or.inl hy)
  · intro hy
    exact hy.rec_on (fun x hx => (h.start x hx).resolve_right List.not_mem_nil)
      fun x hx y hy => (h.closed x hx y hy).resolve_right List.not_mem_nil

theorem Inv.collect [DecidableEq α] {next : α → List α} {start : List α} (fuel : Nat) :
    ∀ {queue seen result : List α}, Inv next start queue seen → Worklist.collect next fuel queue seen = some result →
      Inv next start [] result := by
  induction fuel with
  | zero =>
    intro queue seen result h hr
    cases queue with
    | nil => rwa [← Option.some.inj hr]
    | cons x queue => cases hr
  | succ fuel ih =>
    intro queue seen result h hr
    cases queue with
    | nil => rwa [← Option.some.inj hr]
    | cons x queue =>
      unfold Worklist.collect at hr
      split at hr
      · next hx => exact ih (h.drop hx) hr
      · next hx => exact ih (h.visit hx) hr

/-- **The result**: without repetition, exactly what is reached. -/
theorem collect_spec [DecidableEq α] {next : α → List α} {start result : List α} {fuel : Nat}
    (h : collect next fuel start [] = some result) :
    result.Nodup ∧ ∀ y, y ∈ result ↔ Reached next start y :=
  have hinv := (Inv.init next start).collect fuel h
  ⟨hinv.nodup, hinv.done⟩

/-- **Termination**: over a finite set of elements some fuel is enough. -/
theorem exists_collect [DecidableEq α] {next : α → List α} {all : Finset α} (hnext : ∀ x, ∀ y ∈ next x, y ∈ all)
    {start : List α} (hstart : ∀ x ∈ start, x ∈ all) : ∃ fuel result, collect next fuel start [] = some result := by
  -- the elements not seen yet become fewer, or the queue becomes shorter
  have hloop : ∀ (n : Nat) (queue seen : List α), (all.filter (· ∉ seen)).card = n → (∀ x ∈ queue, x ∈ all) →
      ∃ fuel result, collect next fuel queue seen = some result := by
    intro n
    induction n using Nat.strong_induction_on with
    | _ n ihn =>
      intro queue seen hcard hqueue
      induction queue with
      | nil => exact ⟨0, seen, rfl⟩
      | cons x queue ih =>
        by_cases hx : x ∈ seen
        · obtain ⟨fuel, result, hr⟩ := ih fun y hy => hqueue y (List.mem_cons_of_mem _ hy)
          exact ⟨fuel + 1, result, by rw [collect, if_pos hx, hr]⟩
        · have hfewer : (all.filter (· ∉ seen ++ [x])).card < (all.filter (· ∉ seen)).card := by
            apply Finset.card_lt_card
            refine (Finset.ssubset_iff_of_subset ?_).mpr ⟨x, ?_, ?_⟩
            · intro y hy
              rw [Finset.mem_filter] at hy ⊢
              exact ⟨hy.1, fun hmem => hy.2 (List.mem_append_left _ hmem)⟩
            · exact Finset.mem_filter.mpr ⟨hqueue x List.mem_cons_self, hx⟩
            · intro hmem
              exact (Finset.mem_filter.mp hmem).2 (List.mem_append_right _ List.mem_cons_self)
          have hqueue' : ∀ y ∈ queue ++ next x, y ∈ all := by
            intro y hy
            rcases List.mem_append.mp hy with hy | hy
            · exact hqueue y (List.mem_cons_of_mem _ hy)
            · exact hnext x y hy
          obtain ⟨fuel, result, hr⟩ := ihn _ (by omega) (queue ++ next x) (seen ++ [x]) rfl hqueue'
          exact ⟨fuel + 1, result, by rw [collect, if_neg hx, hr]⟩
  exact hloop _ start [] rfl hstart

end Worklist
