import BundleFramework.Lib.MapLoop
import BundleFramework.Base.Str
import BundleFramework.DualMode.Policy
import BundleFramework.Base.BmsParam
import BundleFramework.DataMgr.InnerBundleInfo
import BundleFramework.DualMode.Filter
import BundleFramework.DualMode.Classify
import BundleFramework.DualMode.Boot
import BundleFramework.Lib.CyclicProbe
import BundleFramework.DataMgr.BundleId
import BundleFramework.DataMgr.RestoreUid
import BundleFramework.DataMgr.InstallState
import BundleFramework.DataMgr.InstallInvariant
import BundleFramework.DataMgr.VariantDelete
import BundleFramework.Lib.SearchTree
import BundleFramework.Navigation.SemVer
import BundleFramework.Navigation.RouterMap
import BundleFramework.Skill.Match
import BundleFramework.Overlay.ModuleState
import BundleFramework.Overlay.Enabled
import BundleFramework.AppControl.Table
import BundleFramework.AppControl.JumpControl
import BundleFramework.AppControl.Manager
import BundleFramework.AppControl.RuleKeys
import BundleFramework.AppControl.ListMode
import BundleFramework.AppControl.RunningCache
import BundleFramework.AppControl.Verdict
import BundleFramework.AppControl.AbilityRules
import BundleFramework.Lib.ByteFile
import BundleFramework.Zip.ZipFile
import BundleFramework.Zip.DataRange
import BundleFramework.Zip.Extraction
import BundleFramework.Lib.PathParts
import BundleFramework.QuickFix.Patch
import BundleFramework.QuickFix.Deploy
import BundleFramework.QuickFix.ActiveDir
import BundleFramework.QuickFix.BootUp
import BundleFramework.QuickFix.SwitchCrash
import BundleFramework.CodePath.Rotation
import BundleFramework.CodePath.CrashSafety
import BundleFramework.CodePath.Residue
import BundleFramework.CodePath.VariantRename
import BundleFramework.DataMgr.Uid
import BundleFramework.PreInstall.ExceptionMgr
import BundleFramework.Plugin.PluginRecords
import BundleFramework.Idle.Manager
import BundleFramework.Idle.Exclusion
import BundleFramework.Idle.PowerState
import BundleFramework.Idle.RelabelStop
import BundleFramework.Idle.ScanStop
import BundleFramework.DataMgr.BatchEnabled
import BundleFramework.DataMgr.ModuleRemovable
import BundleFramework.Ipc.CriticalManager
import BundleFramework.Lib.LexCompare
import BundleFramework.Navigation.VersionOrder
import BundleFramework.Navigation.Precedence
import BundleFramework.FreeInstall.ConnectMgr
import BundleFramework.FreeInstall.ConnectWait
import BundleFramework.FreeInstall.Disconnect
import BundleFramework.FreeInstall.Answers
import BundleFramework.FreeInstall.Ledger
import BundleFramework.SharedBundle.ModuleVersions
import BundleFramework.SharedBundle.Installer
import BundleFramework.SharedBundle.Dependency
import BundleFramework.SharedBundle.Atomic
import BundleFramework.Skill.UriCase
import BundleFramework.Skill.UriLaw
import BundleFramework.Skill.ForeignHost
import BundleFramework.InnerBundle.Modules
import BundleFramework.InnerBundle.ModuleFrame
import BundleFramework.Lib.Worklist
import BundleFramework.InnerBundle.DependencyClosure
import BundleFramework.Permission.StringPool
import BundleFramework.Permission.BundlePermissions
import BundleFramework.Lib.KeyedBest
import BundleFramework.Permission.RequestMerge
import BundleFramework.InnerBundle.EntryAbility
import BundleFramework.Lib.LeastFree
import BundleFramework.InnerBundle.CloneIndex
import BundleFramework.Common.SingleDelayedTask
import BundleFramework.QuickFix.BootScan
import BundleFramework.QuickFix.Rollback
import BundleFramework.QuickFix.SwitchConserve
import BundleFramework.DefaultApp.Rdb
import BundleFramework.DefaultApp.Validity
import BundleFramework.DefaultApp.SetDefault
import BundleFramework.DefaultApp.Attempts
import BundleFramework.DefaultApp.SetRequest
import BundleFramework.DefaultApp.Uninstall
import BundleFramework.InnerBundle.CloneViews
import BundleFramework.SandboxApp.AppIndex
import BundleFramework.Plugin.InstallRollBack
import BundleFramework.DataMgr.AbilityEnabled
import BundleFramework.Overlay.TargetRemoval
import BundleFramework.Aging.AgingOrder
import BundleFramework.Rpcid.SyscapTool
import BundleFramework.Lib.DirTree
import BundleFramework.Installd.DirSize
import BundleFramework.Installd.SkillMd
import BundleFramework.Lib.NormalPath
import BundleFramework.Installd.PathCheck
import BundleFramework.Lib.JsonValue
import BundleFramework.DataMgr.StateStorage
import BundleFramework.Common.SerialQueue
import BundleFramework.Lib.KeyedList
import BundleFramework.Lib.Numbering
import BundleFramework.DataGroup.Groups
import BundleFramework.DataGroup.Numbered
import BundleFramework.DataGroup.Scan
import BundleFramework.DataGroup.Runs
import BundleFramework.DataGroup.Directories
import BundleFramework.Zip.FilePath
import BundleFramework.Zip.Unzip
import BundleFramework.Zip.UnzipParallel
import BundleFramework.Lib.DirLeaves
import BundleFramework.Zip.RelativePath
import BundleFramework.Zip.Pack
import BundleFramework.Zip.RoundTrip
import BundleFramework.Installer.TaskRuns
import BundleFramework.Clone.Cases
import BundleFramework.Clone.Ledger
import BundleFramework.Clone.Uids
import BundleFramework.Clone.Tokens
