import BundleFramework.Base.Str
import BundleFramework.Lib.StepRun

/-!
# Exceptions of the pre-installation

`PreInstallExceptionMgr` keeps five sets of paths and bundle names whose installation at boot
failed, in memory and as one parameter of the service.  `GetAllPreInstallExceptionInfo`
loads them on demand; saving and deleting an entry write the sets of the memory, loaded or
not:

    parameter         memory        call            parameter after
    {a}               not loaded    save b          {b}
    {a}               not loaded    delete a        {a}

Loading refuses an array of more than 2048 entries and clears the memory then.
`durable_iff` says for which runs the parameter always has what was saved and not deleted,
and can be loaded.

The parameter is represented by the JSON object that its text encodes.
-/

namespace BundleFramework.PreInstall

open StepRun

/-! ## Algorithm -/

/-- The five sets and their keys in the parameter. -/
inductive Kind
  | exceptionPaths
  | exceptionBundleNames
  | exceptionAppServicePaths
  | exceptionAppServiceBundleNames
  | exceptionSharedBundlePaths
  deriving DecidableEq, Repr

instance : Fintype Kind where
  elems := {.exceptionPaths, .exceptionBundleNames, .exceptionAppServicePaths, .exceptionAppServiceBundleNames,
    .exceptionSharedBundlePaths}
  complete kind := by cases kind <;> decide

abbrev Sets := Kind → Finset Str

def Sets.empty : Sets := fun _ => ∅

def Sets.insert (sets : Sets) (kind : Kind) (entry : Str) : Sets :=
  Function.update sets kind (Insert.insert entry (sets kind))

def Sets.erase (sets : Sets) (kind : Kind) (entry : Str) : Sets :=
  Function.update sets kind ((sets kind).erase entry)

/-- The members of the manager, and the parameter `PreInstallExceptionMgr`. -/
structure State where
  hasInit : Bool := false
  sets : Sets := .empty
  param : Option (Kind → Option (Finset Str)) := none

def MAX_JSON_ARRAY_LENGTH : Nat := 2048

/-- `GetValueIfFindKey` and `CheckArrayType` for an array of texts: a key that is not there and an
empty array leave the set as it is. -/
def getValueIfFindKey (array : Option (Finset Str)) (set : Finset Str) : Finset Str :=
  if array.getD ∅ = ∅ then set else array.getD ∅

/-- Without a parameter nothing is loaded; an array that is too long clears all sets. -/
def loadPreInstallExceptionInfosFromDb (hasBmsPara : Bool) (st : State) : Bool × State :=
  if !hasBmsPara then (false, st)
  else
    match st.param with
    | none => (false, st)
    | some object =>
      if ∃ kind, MAX_JSON_ARRAY_LENGTH < ((object kind).getD ∅).card then (false, { st with sets := .empty })
      else (true, { st with hasInit := true, sets := fun kind => getValueIfFindKey (object kind) (st.sets kind) })

/-- The answer, and the caller's five sets, which are `out` before the call. -/
def getAllPreInstallExceptionInfo (hasBmsPara : Bool) (out : Sets) (st : State) : Bool × Sets × State :=
  let answer := fun (st : State) => (decide (∃ kind, st.sets kind ≠ ∅), st.sets, st)
  if st.hasInit then answer st
  else
    match loadPreInstallExceptionInfosFromDb hasBmsPara st with
    | (false, st) => (false, out, st)
    | (true, st) => answer st

def savePreInstallExceptionInfosToDb (hasBmsPara : Bool) (st : State) : State :=
  if !hasBmsPara then st else { st with param := some fun kind => some (st.sets kind) }

/-- Empty sets are not written, and five of them delete the parameter. -/
def deletePreInstallExceptionInfosFromDb (hasBmsPara : Bool) (st : State) : State :=
  if !hasBmsPara then st
  else if ∀ kind, st.sets kind = ∅ then { st with param := none }
  else { st with param := some fun kind => if st.sets kind = ∅ then none else some (st.sets kind) }

/-- What the five functions that save an entry do. -/
def saveEntry (kind : Kind) (hasBmsPara : Bool) (entry : Str) (st : State) : State :=
  if entry.isEmpty then st
  else if entry ∈ st.sets kind then st
  else savePreInstallExceptionInfosToDb hasBmsPara { st with sets := st.sets.insert kind entry }

def savePreInstallExceptionPath := saveEntry .exceptionPaths
def savePreInstallExceptionBundleName := saveEntry .exceptionBundleNames
def savePreInstallExceptionAppServiceBundleName := saveEntry .exceptionAppServiceBundleNames
def savePreInstallExceptionAppServicePath := saveEntry .exceptionAppServicePaths
def savePreInstallExceptionSharedBundlePath := saveEntry .exceptionSharedBundlePaths

/-- What the five functions that delete an entry do; those that delete a path look for the
parameters first (`checked`). -/
def deleteEntry (kind : Kind) (checked : Bool) (hasBmsPara : Bool) (entry : Str) (st : State) : State :=
  if entry.isEmpty then st
  else if entry ∉ st.sets kind then st
  else if checked && !hasBmsPara then st
  else deletePreInstallExceptionInfosFromDb hasBmsPara { st with sets := st.sets.erase kind entry }

def deletePreInstallExceptionPath := deleteEntry .exceptionPaths true
def deletePreInstallExceptionBundleName := deleteEntry .exceptionBundleNames false
def deletePreInstallExceptionAppServiceBundleName := deleteEntry .exceptionAppServiceBundleNames false
def deletePreInstallExceptionAppServicePath := deleteEntry .exceptionAppServicePaths true
def deletePreInstallExceptionSharedBundlePath := deleteEntry .exceptionSharedBundlePaths true

def clearAll (hasBmsPara : Bool) (st : State) : State :=
  if !hasBmsPara then st else { hasInit := false, sets := .empty, param := none }

/-! ## Runs -/

inductive Op
  | save (kind : Kind) (entry : Str)
  | delete (kind : Kind) (entry : Str)
  | getAll
  | clearAll
  | restart

def save : Kind → Bool → Str → State → State
  | .exceptionPaths => savePreInstallExceptionPath
  | .exceptionBundleNames => savePreInstallExceptionBundleName
  | .exceptionAppServicePaths => savePreInstallExceptionAppServicePath
  | .exceptionAppServiceBundleNames => savePreInstallExceptionAppServiceBundleName
  | .exceptionSharedBundlePaths => savePreInstallExceptionSharedBundlePath

def delete : Kind → Bool → Str → State → State
  | .exceptionPaths => deletePreInstallExceptionPath
  | .exceptionBundleNames => deletePreInstallExceptionBundleName
  | .exceptionAppServicePaths => deletePreInstallExceptionAppServicePath
  | .exceptionAppServiceBundleNames => deletePreInstallExceptionAppServiceBundleName
  | .exceptionSharedBundlePaths => deletePreInstallExceptionSharedBundlePath

/-- The parameters are there and accept every write; the members are lost with the service. -/
def step (st : State) : Op → State
  | .save kind entry => save kind true entry st
  | .delete kind entry => delete kind true entry st
  | .getAll => (getAllPreInstallExceptionInfo true .empty st).2.2
  | .clearAll => clearAll true st
  | .restart => { param := st.param }

/-! ## Specification -/

/-- What was saved and not deleted or cleared since; an empty entry is refused. -/
def refStep (sets : Sets) : Op → Sets
  | .save kind entry => if entry.isEmpty then sets else sets.insert kind entry
  | .delete kind entry => if entry.isEmpty then sets else sets.erase kind entry
  | .clearAll => .empty
  | .getAll | .restart => sets

def State.persisted (st : State) : Sets := fun kind => (st.param.bind fun object => object kind).getD ∅

/-- The parameter and the next `GetAll`, whose caller brings empty sets, have these sets. -/
def Durable (st : State) (sets : Sets) : Prop :=
  st.persisted = sets ∧ (getAllPreInstallExceptionInfo true .empty st).2.1 = sets

/-- An entry is saved or deleted while the memory has the persisted sets; or it is saved and is
the only entry that any of them may have, or deleted and is not in its set.  No set outgrows
what can be loaded before it was loaded, nor when the service restarts. -/
def InStep (st : State) : Op → Prop
  | .save kind entry => entry ≠ [] →
      (st.sets = st.persisted ∨ ∀ kind' entry', entry' ∈ st.persisted kind' → kind' = kind ∧ entry' = entry) ∧
      (st.hasInit = true ∨ entry ∈ st.persisted kind ∨ (st.persisted kind).card < MAX_JSON_ARRAY_LENGTH)
  | .delete kind entry => entry ≠ [] → st.sets = st.persisted ∨ entry ∉ st.persisted kind
  | .restart => ∀ kind, (st.persisted kind).card ≤ MAX_JSON_ARRAY_LENGTH
  | .getAll | .clearAll => True

/-! ## One call -/

section Calls

variable {st : State}

theorem save_eq (kind : Kind) (entry : Str) (st : State) : save kind true entry st =
    if entry.isEmpty ∨ entry ∈ st.sets kind then st
    else { st with sets := st.sets.insert kind entry, param := some fun k => some (st.sets.insert kind entry k) } := by
  have hsave : save kind true entry st = saveEntry kind true entry st := by cases kind <;> rfl
  rw [hsave]
  unfold saveEntry savePreInstallExceptionInfosToDb
  by_cases hempty : entry.isEmpty = true
  · simp [hempty]
  · by_cases hmem : entry ∈ st.sets kind <;> simp [hempty, hmem]

theorem delete_eq (kind : Kind) (entry : Str) (st : State) : delete kind true entry st =
    if entry.isEmpty ∨ entry ∉ st.sets kind then st
    else deletePreInstallExceptionInfosFromDb true { st with sets := st.sets.erase kind entry } := by
  have hdelete : ∃ checked, delete kind true entry st = deleteEntry kind checked true entry st := by
    cases kind <;> exact ⟨_, rfl⟩
  obtain ⟨checked, hdelete⟩ := hdelete
  rw [hdelete]
  unfold deleteEntry
  by_cases hempty : entry.isEmpty = true
  · simp [hempty]
  · by_cases hmem : entry ∈ st.sets kind <;> simp [hempty, hmem]

/-- Deleting an entry persists the sets of the memory. -/
theorem persisted_deleted (st : State) :
    (deletePreInstallExceptionInfosFromDb true st).persisted = st.sets ∧
    (deletePreInstallExceptionInfosFromDb true st).sets = st.sets ∧
    (deletePreInstallExceptionInfosFromDb true st).hasInit = st.hasInit := by
  unfold deletePreInstallExceptionInfosFromDb
  by_cases hall : ∀ kind, st.sets kind = ∅
  · simp only [Bool.not_true, Bool.false_eq_true, if_false, if_pos hall, and_true]
    ext1 kind
    rw [hall kind]
    rfl
  · simp only [Bool.not_true, Bool.false_eq_true, if_false, if_neg hall, and_true]
    ext1 kind
    show (if st.sets kind = ∅ then none else some (st.sets kind)).getD ∅ = _
    split
    · next hempty => exact hempty.symm
    · rfl

/-! ## The invariant -/

/-- Every set is short enough to be loaded. -/
def Loadable (sets : Sets) : Prop := ∀ kind, (sets kind).card ≤ MAX_JSON_ARRAY_LENGTH

/-- The persisted sets are those wanted, and the memory has them too or has not been loaded and
can be. -/
structure Inv (st : State) (sets : Sets) : Prop where
  persisted : st.persisted = sets
  memory : st.sets = sets ∨ st.sets = .empty ∧ st.hasInit = false
  loadable : st.hasInit = true ∨ Loadable sets

/-- Sets that are too long are not answered once the memory is lost. -/
theorem getAll_of_not_loadable (hinit : st.hasInit = false) (h : ¬ Loadable st.persisted) :
    (getAllPreInstallExceptionInfo true .empty st).2.1 ≠ st.persisted := by
  intro hanswer
  obtain ⟨kind, hlong⟩ := not_forall.mp h
  rw [not_le] at hlong
  unfold getAllPreInstallExceptionInfo loadPreInstallExceptionInfosFromDb at hanswer
  cases hparam : st.param with
  | none => simp [State.persisted, hparam] at hlong
  | some object =>
    have hrefused : ∃ kind, MAX_JSON_ARRAY_LENGTH < ((object kind).getD ∅).card :=
      ⟨kind, by simpa [State.persisted, hparam] using hlong⟩
    simp only [hinit, hparam, Bool.false_eq_true, Bool.not_true, if_false, if_pos hrefused] at hanswer
    rw [← hanswer] at hlong
    simp [Sets.empty] at hlong

theorem Inv.getAll {sets : Sets} (h : Inv st sets) :
    (getAllPreInstallExceptionInfo true .empty st).2.1 = sets ∧
    Inv (getAllPreInstallExceptionInfo true .empty st).2.2 sets := by
  obtain ⟨hpersisted, hmemory, hloadable⟩ := h
  unfold getAllPreInstallExceptionInfo
  cases hinit : st.hasInit with
  | true =>
    have hsets : st.sets = sets := hmemory.resolve_right fun hfresh => by rw [hinit] at hfresh; cases hfresh.2
    exact ⟨hsets, hpersisted, .inl hsets, .inl hinit⟩
  | false =>
    unfold loadPreInstallExceptionInfosFromDb
    cases hparam : st.param with
    | none =>
      have hempty : sets = .empty := by
        rw [← hpersisted]
        funext kind
        simp [State.persisted, hparam, Sets.empty]
      exact ⟨hempty.symm, hpersisted, hmemory, hloadable⟩
    | some object =>
      have hkind (kind : Kind) : (object kind).getD ∅ = sets kind := by
        rw [← hpersisted]
        simp [State.persisted, hparam]
      have hshort : ¬ ∃ kind, MAX_JSON_ARRAY_LENGTH < ((object kind).getD ∅).card := by
        rintro ⟨kind, hlong⟩
        rw [hkind] at hlong
        exact absurd (hloadable.resolve_left (by simp [hinit]) kind) (Nat.not_le.mpr hlong)
      -- a key that is not there stands for an empty set, which is what the memory has then
      have hloaded : (fun kind => getValueIfFindKey (object kind) (st.sets kind)) = sets := by
        funext kind
        unfold getValueIfFindKey
        rw [hkind]
        split
        · next hempty =>
          rcases hmemory with hsets | ⟨hsets, -⟩
          · rw [hsets]
          · rw [hsets, hempty]
            rfl
        · rfl
      dsimp only
      rw [if_neg hshort]
      refine ⟨hloaded, ?_, .inl hloaded, .inl rfl⟩
      rw [← hpersisted]
      funext kind
      simp [State.persisted, hparam]

theorem Inv.durable {sets : Sets} (h : Inv st sets) : Durable st sets := ⟨h.persisted, h.getAll.1⟩

/-! ## Saving and deleting -/

theorem insert_of_mem {sets : Sets} {kind : Kind} {entry : Str} (h : entry ∈ sets kind) :
    sets.insert kind entry = sets := by
  unfold Sets.insert
  rw [Finset.insert_eq_of_mem h, Function.update_eq_self]

theorem erase_of_not_mem {sets : Sets} {kind : Kind} {entry : Str} (h : entry ∉ sets kind) :
    sets.erase kind entry = sets := by
  unfold Sets.erase
  rw [Finset.erase_eq_of_notMem h, Function.update_eq_self]

theorem mem_insert_iff {sets : Sets} {kind kind' : Kind} {entry entry' : Str} :
    entry' ∈ sets.insert kind entry kind' ↔ (kind' = kind ∧ entry' = entry) ∨ entry' ∈ sets kind' := by
  unfold Sets.insert
  by_cases hkind : kind' = kind
  · subst hkind
    simp
  · simp [hkind]

/-- Saving into a memory that was not loaded writes one entry; that is right when no other one
was there. -/
theorem insert_empty_iff {sets : Sets} {kind : Kind} {entry : Str} :
    Sets.insert .empty kind entry = sets.insert kind entry ↔
      ∀ kind' entry', entry' ∈ sets kind' → kind' = kind ∧ entry' = entry := by
  constructor
  · intro h kind' entry' hmem
    have hboth : entry' ∈ Sets.insert .empty kind entry kind' := by
      rw [h]
      exact mem_insert_iff.mpr (.inr hmem)
    rcases mem_insert_iff.mp hboth with heq | hnone
    · exact heq
    · simp [Sets.empty] at hnone
  · intro h
    funext kind'
    ext entry'
    rw [mem_insert_iff, mem_insert_iff]
    constructor
    · rintro (heq | hnone)
      · exact .inl heq
      · simp [Sets.empty] at hnone
    · rintro (heq | hmem)
      · exact .inl heq
      · exact .inl (h kind' entry' hmem)

theorem loadable_insert_iff {sets : Sets} (h : Loadable sets) {kind : Kind} {entry : Str} (hmem : entry ∉ sets kind) :
    Loadable (sets.insert kind entry) ↔ (sets kind).card < MAX_JSON_ARRAY_LENGTH := by
  have hcard : (sets.insert kind entry kind).card = (sets kind).card + 1 := by
    unfold Sets.insert
    rw [Function.update_self, Finset.card_insert_of_notMem hmem]
  constructor
  · intro hall
    have := hall kind
    omega
  · intro hlt kind'
    by_cases hkind : kind' = kind
    · subst hkind
      omega
    · have hother : sets.insert kind entry kind' = sets kind' := by
        unfold Sets.insert
        rw [Function.update_of_ne hkind]
      rw [hother]
      exact h kind'

theorem Loadable.erase {sets : Sets} (h : Loadable sets) (kind : Kind) (entry : Str) : Loadable (sets.erase kind entry) := by
  intro kind'
  refine le_trans (Finset.card_le_card ?_) (h kind')
  unfold Sets.erase
  by_cases hkind : kind' = kind
  · subst hkind
    rw [Function.update_self]
    exact Finset.erase_subset _ _
  · rw [Function.update_of_ne hkind]

theorem loadable_empty : Loadable .empty := fun _ => Nat.zero_le _

theorem Inv.save {sets : Sets} (h : Inv st sets) (kind : Kind) (entry : Str) :
    InStep st (.save kind entry) ∧ Inv (step st (.save kind entry)) (refStep sets (.save kind entry)) ∨
    ¬ InStep st (.save kind entry) ∧ ¬ Durable (step st (.save kind entry)) (refStep sets (.save kind entry)) := by
  obtain ⟨hpersisted, hmemory, hloadable⟩ := h
  by_cases hempty : entry = []
  · subst hempty
    refine .inl ⟨fun hne => absurd rfl hne, ?_⟩
    simp only [step, refStep, save_eq, List.isEmpty_nil, true_or, if_true]
    exact ⟨hpersisted, hmemory, hloadable⟩
  have hentry : entry.isEmpty = false := by simpa using hempty
  simp only [step, refStep, save_eq, hentry, Bool.false_eq_true, false_or, if_false]
  rcases hmemory with hsets | ⟨hsets, hinit⟩
  · by_cases hmem : entry ∈ st.sets kind
    · rw [if_pos hmem]
      rw [hsets] at hmem
      rw [insert_of_mem hmem]
      exact .inl ⟨fun _ => ⟨.inl (hsets.trans hpersisted.symm), .inr (.inl (hpersisted ▸ hmem))⟩,
        hpersisted, .inl hsets, hloadable⟩
    · rw [if_neg hmem]
      rw [hsets] at hmem ⊢
      by_cases hfits : st.hasInit = true ∨ (sets kind).card < MAX_JSON_ARRAY_LENGTH
      · refine .inl ⟨fun _ => ⟨.inl (hsets.trans hpersisted.symm), ?_⟩, rfl, .inl rfl, ?_⟩
        · rw [hpersisted]
          exact hfits.imp_right .inr
        · by_cases hinit : st.hasInit = true
          · exact .inl hinit
          · exact .inr ((loadable_insert_iff (hloadable.resolve_left hinit) hmem).mpr (hfits.resolve_left hinit))
      · -- the set has grown past what the next load accepts
        obtain ⟨hinit, hlong⟩ := not_or.mp hfits
        refine .inr ⟨fun hok => ?_, fun hdurable => ?_⟩
        · obtain ⟨-, hnot⟩ := hok hempty
          rw [hpersisted] at hnot
          exact hnot.elim hinit fun h => h.elim hmem hlong
        · refine getAll_of_not_loadable (Bool.not_eq_true _ ▸ hinit) ?_ (hdurable.2.trans hdurable.1.symm)
          rw [hdurable.1, loadable_insert_iff (hloadable.resolve_left hinit) hmem]
          exact hlong
  · have hmem : entry ∉ st.sets kind := by
      rw [hsets]
      simp [Sets.empty]
    rw [if_neg hmem, hsets]
    by_cases honly : ∀ kind' entry', entry' ∈ st.persisted kind' → kind' = kind ∧ entry' = entry
    · refine .inl ⟨fun _ => ⟨.inr honly, .inr ?_⟩, ?_⟩
      · rcases (st.persisted kind).eq_empty_or_nonempty with hnone | ⟨entry', hentry'⟩
        · right
          rw [hnone]
          decide
        · exact .inl ((honly kind entry' hentry').2 ▸ hentry')
      · rw [hpersisted] at honly
        rw [← insert_empty_iff.mpr honly]
        refine ⟨rfl, .inl rfl, .inr ?_⟩
        rw [loadable_insert_iff loadable_empty (by simp [Sets.empty])]
        exact Nat.zero_lt_succ _
    · refine .inr ⟨fun hok => ?_, fun hdurable => ?_⟩
      · refine honly ((hok hempty).1.elim (fun heq => ?_) id)
        rw [← heq, hsets]
        intro kind' entry' hmem'
        simp [Sets.empty] at hmem'
      · rw [hpersisted] at honly
        exact honly (insert_empty_iff.mp hdurable.1)

theorem Inv.delete {sets : Sets} (h : Inv st sets) (kind : Kind) (entry : Str) :
    InStep st (.delete kind entry) ∧ Inv (step st (.delete kind entry)) (refStep sets (.delete kind entry)) ∨
    ¬ InStep st (.delete kind entry) ∧ (step st (.delete kind entry)).persisted ≠ refStep sets (.delete kind entry) := by
  obtain ⟨hpersisted, hmemory, hloadable⟩ := h
  by_cases hempty : entry = []
  · subst hempty
    refine .inl ⟨fun hne => absurd rfl hne, ?_⟩
    simp only [step, refStep, delete_eq, List.isEmpty_nil, true_or, if_true]
    exact ⟨hpersisted, hmemory, hloadable⟩
  have hentry : entry.isEmpty = false := by simpa using hempty
  simp only [step, refStep, delete_eq, hentry, Bool.false_eq_true, false_or, if_false]
  by_cases hmem : entry ∈ st.sets kind
  · -- the memory was loaded, or the entry would not be in it
    have hsets : st.sets = sets := hmemory.resolve_right fun hfresh => by
      rw [hfresh.1] at hmem
      simp [Sets.empty] at hmem
    rw [if_neg (not_not.mpr hmem)]
    obtain ⟨hpersisted', hsets', hinit'⟩ := persisted_deleted { st with sets := st.sets.erase kind entry }
    refine .inl ⟨fun _ => .inl (hsets.trans hpersisted.symm), ⟨?_, .inl ?_, ?_⟩⟩
    · rw [hpersisted', ← hsets]
    · rw [hsets', ← hsets]
    · rw [hinit']
      exact hloadable.imp_right fun h => h.erase kind entry
  · rw [if_pos hmem]
    by_cases hpresent : entry ∈ sets kind
    · refine .inr ⟨fun hok => ?_, ?_⟩
      · rcases hok hempty with heq | hnot
        · rw [heq, hpersisted] at hmem
          exact hmem hpresent
        · rw [hpersisted] at hnot
          exact hnot hpresent
      · rw [hpersisted]
        intro heq
        rw [heq] at hpresent
        simp [Sets.erase] at hpresent
    · rw [erase_of_not_mem hpresent]
      refine .inl ⟨fun _ => .inr ?_, hpersisted, hmemory, hloadable⟩
      rw [hpersisted]
      exact hpresent

end Calls

/-! ## The theorem -/

/-- The state and the sets that are wanted, side by side. -/
def stepBoth (s : State × Sets) (op : Op) : State × Sets := (step s.1 op, refStep s.2 op)

/-- **The sets are durable**: along every run of saves, deletes, loads, clears and restarts from
a device without exceptions, the parameter and what `GetAll` next returns are what was saved
and not deleted or cleared, iff every call is in step. -/
theorem durable_iff (ops : List Op) :
    StepRun.Always stepBoth (fun s => Durable s.1 s.2) ({}, .empty) ops ↔
      Each stepBoth (fun s op => InStep s.1 op) ({}, .empty) ops := by
  refine @always_iff_each_of_inv _ _ stepBoth (fun s => Inv s.1 s.2) (fun s op => InStep s.1 op)
    (fun s => Durable s.1 s.2) (fun s h => h.durable) ?_ ?_ _ _
    ⟨rfl, .inl rfl, .inr loadable_empty⟩
  · rintro ⟨st, sets⟩ op hinv hok
    cases op with
    | save kind entry => exact (hinv.save kind entry).elim And.right fun hfail => absurd hok hfail.1
    | delete kind entry => exact (hinv.delete kind entry).elim And.right fun hfail => absurd hok hfail.1
    | getAll => exact hinv.getAll.2
    | clearAll => exact ⟨rfl, .inl rfl, .inr loadable_empty⟩
    | restart =>
      refine ⟨hinv.persisted, .inr ⟨rfl, rfl⟩, .inr ?_⟩
      have hshort : Loadable st.persisted := hok
      rwa [hinv.persisted] at hshort
  · rintro ⟨st, sets⟩ op hinv hnot hdurable
    cases op with
    | save kind entry =>
      exact (hinv.save kind entry).elim (fun hok => hnot hok.1) fun hfail => hfail.2 hdurable
    | delete kind entry =>
      exact (hinv.delete kind entry).elim (fun hok => hnot hok.1) fun hfail => hfail.2 hdurable.1
    | getAll => exact hnot trivial
    | clearAll => exact hnot trivial
    | restart =>
      exact @getAll_of_not_loadable { param := st.param } rfl hnot (hdurable.2.trans hdurable.1.symm)

/-- A path is saved in one life of the service and another one in the next, before anything is
loaded. -/
theorem earlier_path_overwritten :
    ¬ StepRun.Always stepBoth (fun s => Durable s.1 s.2) ({}, .empty)
      [.save .exceptionPaths "/a".toList, .restart, .save .exceptionPaths "/b".toList] := by
  intro h
  have hlast := congrFun h.last.1 .exceptionPaths
  revert hlast
  decide +kernel

end BundleFramework.PreInstall
