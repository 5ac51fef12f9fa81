import SwitchConfigurator.Vendors.OneLine
import SwitchConfigurator.Vendors.Redact

/-!
# What an SNMP apply logs

The messages of the three `apply_snmp_diff`, up to the point where the commands are sent. The
`Debug` form of a list of texts is a parameter.
-/

namespace SwitchConfigurator

open Cli

inductive Level where
  | warn
  | info
  | debug
  deriving DecidableEq, Repr

abbrev Message := Level × String

/-- A change as it is logged, and as the summary names it. -/
abbrev Change := String × String

/-- The `Debug` form of an access level. -/
def SnmpAccess.debug : SnmpAccess → String
  | unrestricted => "Unrestricted"
  | manager => "Manager"
  | operator => "Operator"

namespace SnmpLog

def noChanges : List Message :=
  [(.info, "No SNMP changes needed - config is already in desired state")]

/-- Community strings are masked here by hand. -/
def communityRemoved : Change :=
  ("Removing SNMP community: <redacted>", "removed community '<redacted>'")

def receiverRemoved (host : String) : Change :=
  (s!"Removing SNMP trap receiver: {host}", s!"removed trap receiver '{host}'")

def messages (changes : List Change) : List Message := changes.map fun change => (.info, change.1)

def closing (debug : List String → String) (changes : List Change) (commands : List String) :
    List Message :=
  [(.info, s!"Applying {changes.length} SNMP changes: {debug (changes.map Prod.snd)}"),
    (.debug, s!"SNMP diff commands: {debug commands}")]

/-! ## Aruba and Cisco -/

def communityUpdated (community : SnmpCommunity) : Change :=
  (s!"Updating SNMP community: <redacted> -> {community.access.debug}",
    s!"updated community '<redacted>' to {community.access.debug}")

def communityAdded (community : SnmpCommunity) : Change :=
  (s!"Adding SNMP community: <redacted> ({community.access.debug})",
    "added community '<redacted>'")

def receiverAdded (receiver : SnmpTrapReceiver) : Change :=
  (s!"Adding SNMP trap receiver: {receiver.host} (community: {receiver.community})",
    s!"added trap receiver '{receiver.host}'")

def trapEnabled (name : String) : Change := (s!"Enabling {name} traps", s!"enabled {name} traps")

def trapDisabled (name : String) : Change := (s!"Disabling {name} traps", s!"disabled {name} traps")

/-- The two vendors differ in the names of the traps. -/
def changes (trapName : TrapType → String) (diff : SnmpStateDiff) : List Change :=
  diff.communitiesToRemove.map (fun _ => communityRemoved) ++
    diff.communitiesToUpdate.map communityUpdated ++ diff.communitiesToAdd.map communityAdded ++
    diff.trapReceiversToRemove.map receiverRemoved ++ diff.trapReceiversToAdd.map receiverAdded ++
    diff.trapsToEnable.map (trapEnabled <| trapName ·) ++
    diff.trapsToDisable.map (trapDisabled <| trapName ·)

/-- The commands are printed as they are. -/
def granular (trapName : TrapType → String) (debug : List String → String) (diff : SnmpStateDiff)
    (commands : List String) : List Message :=
  if !diff.hasChanges then noChanges
  else messages (changes trapName diff) ++ closing debug (changes trapName diff) commands

end SnmpLog

open SnmpLog

def Aruba.trapName : TrapType → String
  | .macNotify => "mac-notify"
  | .linkChange => "link-change"
  | .all => "all"

def Aruba.applySnmpDiffLog (debug : List String → String) (diff : SnmpStateDiff) : List Message :=
  granular trapName debug diff ((applySnmpDiff diff).map fun command => render command.words)

def Cisco.trapName : TrapType → String
  | .macNotify => "mac-notification"
  | .linkChange => "link"
  | .all => "all"

def Cisco.applySnmpDiffLog (debug : List String → String) (diff : SnmpStateDiff) : List Message :=
  granular trapName debug diff ((applySnmpDiff diff).map fun command => render command.words)

namespace Fortiswitch

/-- The communities that are written, with what is logged of each. -/
def writtenCommunities (diff : SnmpStateDiff) : List (SnmpCommunity × Change) :=
  diff.communitiesToUpdate.map (·, ("Updating SNMP community: <redacted>",
    "updated community '<redacted>'")) ++
  diff.communitiesToAdd.map (·, ("Adding SNMP community: <redacted>",
    "added community '<redacted>'"))

def receiverAdded (receiver : SnmpTrapReceiver) : Change :=
  (s!"Adding SNMP trap receiver: {receiver.host}", s!"added trap receiver '{receiver.host}'")

def changes (diff : SnmpStateDiff) : List Change :=
  diff.communitiesToRemove.map (fun _ => communityRemoved) ++
    (writtenCommunities diff).map Prod.snd ++ diff.trapReceiversToAdd.map receiverAdded ++
    diff.trapReceiversToRemove.map receiverRemoved

/-- What was logged by the time a manager was found that the command line has no form for. -/
def changesUpToMisfit (diff : SnmpStateDiff) : List Change :=
  let written := writtenCommunities diff
  diff.communitiesToRemove.map (fun _ => communityRemoved) ++
    (written.takeWhile (hostsFit ·.1) ++ (written.dropWhile (hostsFit ·.1)).take 1).map Prod.snd

def warnIfMgmtAccessUnknown (switch : FortiswitchSwitch) : List Message :=
  let managementIp := switch.config.managementIp.getD ""
  match switch.mgmtAccess with
  | some _ => []
  | none => [(.warn, s!"Cannot tell which interface owns {managementIp}: make sure 'snmp' is in its allowaccess, or SNMP queries get no answer")]

def applySnmpDiffLog (isWord : Char → Bool) (debug : List String → String)
    (switch : FortiswitchSwitch) (diff : SnmpStateDiff) : List Message :=
  if !diff.hasChanges then noChanges
  else match checkDesiredLimits switch.config with
    | .error _ => []
    | .ok _ =>
      (if diff.communitiesToAdd.isEmpty && diff.communitiesToUpdate.isEmpty then []
        else warnIfMgmtAccessUnknown switch) ++
      match applySnmpDiff switch diff with
      | .error _ => messages (changesUpToMisfit diff)
      | .ok commands => messages (changes diff) ++ closing debug (changes diff)
          (Redact.redactCommands isWord (commands.map fun line => render line.words))

end Fortiswitch

end SwitchConfigurator
