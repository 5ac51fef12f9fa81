import SwitchConfigurator.Config.Merge
import SwitchConfigurator.Convergence
import SwitchConfigurator.PoolExclusion
import SwitchConfigurator.Service.Step
import SwitchConfigurator.Foundations.Component
import SwitchConfigurator.Service.Turn
import SwitchConfigurator.Service.PendingReload
import SwitchConfigurator.Service.Discipline
import SwitchConfigurator.Service.Ownership
import SwitchConfigurator.Service.Console
import SwitchConfigurator.Service.Freshness
import SwitchConfigurator.Config.Preserve
import SwitchConfigurator.Config.Load
import SwitchConfigurator.Config.Conflicts
import SwitchConfigurator.Config.Unique
import SwitchConfigurator.Config.Isolation
import SwitchConfigurator.Config.Resolve
import SwitchConfigurator.Config.LoadPaths
import SwitchConfigurator.Config.VlanNames
import SwitchConfigurator.Foundations.Document
import SwitchConfigurator.Config.Serde
import SwitchConfigurator.Config.AllowedHosts
import SwitchConfigurator.Config.Overlay
import SwitchConfigurator.Config.OverlayRoundTrip
import SwitchConfigurator.Config.SavedOverlay
import SwitchConfigurator.Vendors.Fortiswitch.Access
import SwitchConfigurator.Vendors.Deletions
import SwitchConfigurator.Vendors.OneLine
import SwitchConfigurator.Vendors.Secrecy
import SwitchConfigurator.Vendors.Fortiswitch.Communities
import SwitchConfigurator.Vendors.Fortiswitch.Receivers
import SwitchConfigurator.DiffOrder
import SwitchConfigurator.Api.Atomic
import SwitchConfigurator.Api.PatchMerge
import SwitchConfigurator.Ui.Drafts
import SwitchConfigurator.Ui.FormRoundTrip
import SwitchConfigurator.Ssh.JumpChain
import SwitchConfigurator.Vendors.DryRun
import SwitchConfigurator.Lookup.Within
import SwitchConfigurator.Lookup.Chronology
import SwitchConfigurator.Snmp.Agreement
import SwitchConfigurator.Vendors.MigrationCoverage
import SwitchConfigurator.Vendors.Traps
import SwitchConfigurator.Config.Postcondition
import SwitchConfigurator.Vendors.Aruba.VlanRoundTrip
import SwitchConfigurator.Vendors.Aruba.SnmpRoundTrip
import SwitchConfigurator.Vendors.Fortiswitch.MirrorRoundTrip
import SwitchConfigurator.Vendors.Fortiswitch.ManagementVlan
import SwitchConfigurator.Config.PortExpansion
import SwitchConfigurator.Snmp.PortAssembly
import SwitchConfigurator.ServiceCommunity
import SwitchConfigurator.Vendors.Fortiswitch.ManagerRoundTrip
import SwitchConfigurator.Api.Rotation
import SwitchConfigurator.Vendors.RedactNesting
import SwitchConfigurator.Foundations.Replacement
import SwitchConfigurator.Secrets
import SwitchConfigurator.Ssh.Slices
import SwitchConfigurator.Ssh.Pager
import SwitchConfigurator.Vendors.Fortiswitch.AddedAccess
import SwitchConfigurator.Config.WriteBack
import SwitchConfigurator.Config.Previews
import SwitchConfigurator.Config.AmbiguousNames
import SwitchConfigurator.Foundations.ItemLists
import SwitchConfigurator.Vendors.Fortiswitch.VlanList
import SwitchConfigurator.Ssh.HostStrings
import SwitchConfigurator.Api.ReadBack
import SwitchConfigurator.Vendors.EmptyState
import SwitchConfigurator.Vendors.PreviewExact
import SwitchConfigurator.Foundations.Dialogue
import SwitchConfigurator.Ssh.LoginSafety
import SwitchConfigurator.Ssh.LoginAttempts
import SwitchConfigurator.Deploy.Safety
import SwitchConfigurator.Deploy.Accounting
import SwitchConfigurator.Deploy.Fleet
import SwitchConfigurator.Api.OverlayLoads
import SwitchConfigurator.Operations.Refinement
