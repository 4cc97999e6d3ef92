import BundleFramework.Clone.Ledger

/-!
# No token is lost

A token is live just when a clone or a row has it, or it was named to the subscribers when kept
data were cleared.  The guard of the token does not know whether the token was recovered from a
row: a failed install over kept data deletes a token that its row still names.
-/

namespace BundleFramework.CloneInstaller

open CloneIndex StepRun

def CloneMgr.Accounted (s : CloneMgr) : Prop := Ledger.Accounted s.tokenAt s.tokens s.cleared

/-- The service deletes a token when it is told to, and a row is saved. -/
def Op.Obeyed (s : CloneMgr) (op : Op) : Prop :=
  op.Ok s ∧ match op with
    | .install _ _ a => a.deleteToken = true
    | .uninstall _ _ a => a.deleteToken = true ∧ a.saveRow = true
    | .other _ | .reboot _ _ => True

variable {c : Config} {s s' : CloneMgr} {a : InstallAnswers} {place : Place} {row : UninstallDataUserInfo}

/-! ## The books after a call -/

variable {userInfo : InnerBundleUserInfo} {ids : BundleIds}

/-- The token of a row is live while the books are in order. -/
theorem CloneMgr.Accounted.live (h : s.Accounted) {p : Place} {token : UInt32} (hplace : s.tokenAt p = some token) :
    token ∈ s.tokens := (h.live_iff token).mpr (.inl ⟨p, hplace⟩)

end BundleFramework.CloneInstaller
