import SwitchConfigurator.Config.PortIds
import SwitchConfigurator.Models

/-!
# What the models can do

The parts of `models.rs` that only the vendors ask for.
-/

namespace SwitchConfigurator

/-- `str::parse` for an unsigned integer of so many bits. -/
def parseUint (bits : ℕ) (s : List Char) : Option ℕ :=
  let digits := if s.head? == some '+' then s.drop 1 else s
  if !digits.isEmpty && digits.all Char.isDigit && digitsValue digits < 2 ^ bits then
    some (digitsValue digits)
  else none

/-- `str::trim_start_matches("port")`: the word goes as often as it stands there. -/
def trimStartPort : List Char → List Char
  | 'p' :: 'o' :: 'r' :: 't' :: rest => trimStartPort rest
  | s => s

namespace SwitchModel

def parsePortNumber (model : SwitchModel) (portId : String) : Option ℕ :=
  match model.vendor with
  | .aruba => parseUint 16 portId.toList
  | .cisco => parseUint 16 (portId.toList.rtakeWhile (· != '/'))
  | .fortiswitch => parseUint 16 (trimStartPort portId.toList)

/-- Does the port of this number deliver power? -/
def poePort : SwitchModel → ℕ → Bool
  | aruba2530_24G_POE, n => 1 ≤ n && n ≤ 24
  | aruba2530_8G_POE, n => n ∈ [1, 3, 5, 7]
  | aruba2530_48G_2SFP, _ | aruba2540_24G, _ | aruba2540_48G_4SFP, _ => false
  | aruba2930F, n => 1 ≤ n && n ≤ 48
  | fortiswitch124F_FPOE, n => 1 ≤ n && n ≤ 24
  | ciscoCatalyst9300_24P_UPOE, n => 1 ≤ n && n ≤ 24

def portSupportsPoe (model : SwitchModel) (portId : String) : Bool :=
  (model.parsePortNumber portId).any model.poePort

def usesLegacyMirrorSyntax : SwitchModel → Bool
  | aruba2530_24G_POE | aruba2530_8G_POE | aruba2530_48G_2SFP | aruba2540_24G
  | aruba2540_48G_4SFP => true
  | _ => false

end SwitchModel

end SwitchConfigurator
