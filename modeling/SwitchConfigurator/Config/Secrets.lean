import SwitchConfigurator.Config.PortIds
import SwitchConfigurator.Diff

/-!
# Where SNMP community strings come from

`secrets.rs`, and `check_vendor_support` of `allowed_hosts.rs`. The file system, the
credentials directory and two third-party parts of the validation are the parameters of
`Environment`; nothing is assumed about them.
-/

namespace SwitchConfigurator

/-- What a validation takes from outside the configuration. -/
structure Environment where
  /-- `fs::read_to_string`: the content, or the text of the I/O error. -/
  readToString : String → Except String String
  /-- `$CREDENTIALS_DIRECTORY`. -/
  credentialsDir : Option String
  /-- `\d` of the `regex` crate, the Unicode decimal digits. -/
  regexDigit : Char → Bool
  /-- What the `validator` crate prints for the fields that fail their checks. -/
  validationErrors : List String → String

/-- `Path::join` with a plain name. -/
def joinPath (dir name : String) : String :=
  if dir.isEmpty || dir.toList.getLast? == some '/' then dir ++ name else dir ++ "/" ++ name

/-- `char::is_control`. -/
def isControl (c : Char) : Bool := c.toNat < 32 || (127 ≤ c.toNat && c.toNat < 160)

/-- Strip trailing newlines, then check that the value is usable on a switch CLI. -/
def validateValue (raw label : String) : Except Error String :=
  let value := raw.toList.rdropWhile fun c => c == '\r' || c == '\n'
  if value.isEmpty then .error [s!"{label}: the secret is empty"]
  else if value.any fun c => c == '"' || isControl c then
    .error [s!"{label}: quotes, newlines and control characters are not allowed in a community string"]
  else .ok (String.ofList value)

/-- An I/O error under its context. -/
def readFile (env : Environment) (path context : String) : Except Error String :=
  match env.readToString path with
  | .ok raw => .ok raw
  | .error e => .error [context, e]

def readSecretFile (env : Environment) (path switchId label : String) : Except Error String := do
  let raw ← readFile env path s!"switch '{switchId}' {label}: cannot read name_file {path}"
  validateValue raw s!"switch '{switchId}' {label} (name_file {path})"

def readCredential (env : Environment) (id switchId community : String) : Except Error String :=
  let label := s!"switch '{switchId}' {community} (name_credential '{id}')"
  if id.isEmpty || id == "." || id == ".." || id.toList.contains '/'
      || id.toList.contains (Char.ofNat 0) then
    .error [s!"{label}: credential ids are plain names, not paths"]
  else
    match env.credentialsDir with
    | none => .error [s!"{label}: $CREDENTIALS_DIRECTORY is not set; run the service with LoadCredential={id}:<file> (services.switch-configurator.loadCredentials)"]
    | some dir => do
      let path := joinPath dir id
      let raw ← readFile env path s!"{label}: cannot read credential file {path}"
      validateValue raw label

def communityLabel (i : ℕ) : String := s!"SNMP community #{i + 1}"

def readsLabel : String := "snmp.reads.community"

/-- The service's own read community, when reads are on. -/
def SnmpConfig.readsCommunity (snmp : SnmpConfig) : Option SnmpCommunity :=
  (snmp.reads.filter (·.mode == .auto)).bind (·.community)

def labelledCommunities (snmp : SnmpConfig) : List (String × SnmpCommunity) :=
  snmp.communities.zipIdx.map (fun c => (communityLabel c.2, c.1))
    ++ (snmp.readsCommunity.map fun c => (readsLabel, c)).toList

def checkSecretSource (switchId label : String) (community : SnmpCommunity) :
    Except Error Unit :=
  if community.nameFile.isSome && community.nameCredential.isSome then
    .error [s!"switch '{switchId}' {label} sets more than one source: use only one of name_file and name_credential"]
  else if community.name.isEmpty && !community.hasReference then
    .error [s!"switch '{switchId}' {label} has no source: set one of name, name_file or name_credential"]
  else .ok ()

/-- Every community names a source, and at most one kind of reference. -/
def checkSnmpSecretSources (switch : SwitchConfig) : Except Error Unit :=
  match switch.snmp with
  | none => .ok ()
  | some snmp => (labelledCommunities snmp).forM fun c => checkSecretSource switch.id c.1 c.2

/-- The value a community's reference resolves to, and how messages name its source. -/
def readReference (env : Environment) (switchId label : String) (community : SnmpCommunity) :
    Option (Except Error String × String) :=
  match community.nameFile, community.nameCredential with
  | some path, _ => some (readSecretFile env path switchId label, s!"name_file {path}")
  | none, some id => some (readCredential env id switchId label, s!"name_credential '{id}'")
  | none, none => none

def resolveCommunity (env : Environment) (switchId label : String) :
    InPlace Error SnmpCommunity :=
  InPlace.assign fun community =>
    match readReference env switchId label community with
    | none => .ok community
    | some (value, source) => do
      let value ← value
      if !community.name.isEmpty && community.name != value then
        .error [s!"switch '{switchId}' {label} has an inline name that disagrees with its {source}: use only one source"]
      else .ok { community with name := value }

/-- Run `f` on the service's own read community, when reads are on. -/
def withReadsCommunity (f : InPlace Error SnmpCommunity) : InPlace Error SnmpConfig := fun snmp =>
  match snmp.reads, snmp.readsCommunity with
  | some reads, some community =>
    ({ snmp with reads := some { reads with community := some (f community).1 } },
      (f community).2)
  | _, _ => (snmp, .ok ())

def resolveCommunities (env : Environment) (switchId : String) : InPlace Error SnmpConfig :=
  ((InPlace.forEach (fun i => resolveCommunity env switchId (communityLabel i)) 0).within
      SnmpConfig.communities (fun communities snmp => { snmp with communities })).andThen
    (withReadsCommunity (resolveCommunity env switchId readsLabel))

/-- Read every referenced community string into its `name`. -/
def resolveSnmpSecrets (env : Environment) : InPlace Error SwitchConfig :=
  (InPlace.check checkSnmpSecretSources).andThen fun switch =>
    match switch.snmp with
    | none => (switch, .ok ())
    | some snmp =>
      let result := resolveCommunities env switch.id snmp
      ({ switch with snmp := some result.1 }, result.2)

/-- The `Debug` form of a vendor. -/
def Vendor.debug : Vendor → String
  | aruba => "Aruba"
  | fortiswitch => "Fortiswitch"
  | cisco => "Cisco"

/-- `snmp.reads` and `allowed_hosts` are refused on vendors that cannot carry them out. -/
def checkVendorSupport (switch : SwitchConfig) : Except Error Unit :=
  match switch.model with
  | none => .ok ()
  | some model =>
    if model.vendor == .fortiswitch then .ok ()
    else if readsEnabled switch then
      .error [s!"switch '{switch.id}': snmp.reads is not supported for {model.vendor.debug} switches yet (FortiSwitch only; see docs/learnings/snmp-aruba-cisco.md)"]
    else if switch.snmp.any fun snmp => snmp.communities.any fun c => !c.allowedHosts.isEmpty then
      .error [s!"switch '{switch.id}': SNMP allowed_hosts is not supported for {model.vendor.debug} switches yet (FortiSwitch only; see docs/learnings/snmp-aruba-cisco.md); remove it, or the community would be unrestricted"]
    else .ok ()

end SwitchConfigurator
