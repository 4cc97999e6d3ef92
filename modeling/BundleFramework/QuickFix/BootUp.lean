import BundleFramework.DualMode.Policy
import BundleFramework.QuickFix.ActiveDir

/-!
# The quick-fix scan at boot

`QuickFixBootScanner` takes every row of the table one step further by its status.  Where
the table is empty it looks at the directories `patch_*` instead and tries to bring back the
newest patch it finds for each bundle.

The model follows one bundle: its row, its bundle info, and of the other bundles what
reaches it, which is whether they have rows and which directories they make the scan remove.
The table and the bundle info can be read; every other call of the scan has its answer.
-/

namespace BundleFramework.QuickFix

open Std PathParts

/-- The files of a package as `CopyHqfFile` takes them. -/
def HqfPackage.Movable (package : HqfPackage) : Prop :=
  ∀ hqf ∈ package.hqfInfos, hqf.hqfFilePath ≠ [] ∧ isFileNameValid hqf.moduleName = true ∧
    hasPathRelativeToRoot hqf.hqfFilePath securityRoot = true ∧
    copyHqfFileAccepts hqf.moduleName package.type [] = true

/-- The part of a directory's path between its last two separators; with the last one at
position 0 the search for the one before it starts at the end again. -/
def bundleNameOfDir (fileStr : Str) : Option Str :=
  match strRFindChar fileStr '/' with
  | none => none
  | some 0 => some (fileStr.drop 1)
  | some firstPos => (strRFindChar (fileStr.take firstPos) '/').map fun secondPos =>
      (fileStr.take firstPos).drop (secondPos + 1)

/-- One round of `ProcessQuickFixDir`: `quickFixInfoMap_` and `invalidQuickFixDir_`. -/
def processDir (ex : StringEx) (found : StrMap (Int × Str) × List Str) (fileStr : Str) :
    StrMap (Int × Str) × List Str :=
  let invalid := (found.1, found.2 ++ [fileStr])
  match strRFindChar fileStr '_' with
  | none => invalid
  | some underlinePos =>
    match ex.strToInt (fileStr.drop (underlinePos + 1)), bundleNameOfDir fileStr with
    | some versionCode, some bundleName =>
      match found.1[bundleName]? with
      | none => (found.1.insert bundleName (versionCode, fileStr), found.2)
      | some (version, dir) =>
        if version < versionCode then (found.1.insert bundleName (versionCode, fileStr), found.2 ++ [dir])
        else found
    | _, _ => invalid

def processQuickFixDir (ex : StringEx) (fileDir : List Str) : StrMap (Int × Str) × List Str :=
  fileDir.foldl (processDir ex) (∅, [])

end BundleFramework.QuickFix
