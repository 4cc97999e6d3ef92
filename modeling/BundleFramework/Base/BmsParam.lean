import BundleFramework.Base.Str

/-!
`bms_param.cpp`: the table of service parameters.  Whether the database accepts a
write is the environment's choice (`insertOk`); a refused write changes no row.
-/

namespace BundleFramework

open Std

/-- The rows of the `bms_param` table. -/
abbrev BmsParam := StrMap Str

def getBmsParam (store : BmsParam) (key : Str) : Option Str :=
  if key.isEmpty then none else store[key]?

def saveBmsParam (insertOk : Bool) (store : BmsParam) (key value : Str) : Bool × BmsParam :=
  if key.isEmpty || value.isEmpty then (false, store)
  else if insertOk then (true, store.insert key value)
  else (false, store)

theorem saveBmsParam_of_false (insertOk : Bool) (store : BmsParam) (key value : Str)
    (h : (saveBmsParam insertOk store key value).1 = false) :
    (saveBmsParam insertOk store key value).2 = store := by
  unfold saveBmsParam at h ⊢
  split
  · rfl
  · next hne =>
    rw [if_neg hne] at h
    split
    · next hok => rw [if_pos hok] at h; cases h
    · rfl

end BundleFramework
