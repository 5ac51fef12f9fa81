import SwitchConfigurator.Config.AllowedHosts
import SwitchConfigurator.Lookup.Cache
import SwitchConfigurator.Vendors.Text

/-!
# Lookups over the console

What `get switch physical-port` and `diagnose switch mac-address list` print, as the FortiSwitch
vendor reads it.
-/

namespace SwitchConfigurator.Fortiswitch

/-- A pattern that stands at the front so many times at most is taken away. -/
def stripRepeated (pattern : List Char) : ℕ → List Char → List Char
  | 0, text => text
  | n + 1, text =>
    match pattern.isPrefixOf? text with
    | some rest => stripRepeated pattern n rest
    | none => text

/-- `trim_start_matches` of a text. -/
def trimStartMatches (pattern : String) (text : List Char) : List Char :=
  stripRepeated pattern.toList text.length text

/-- `trim_end_matches` of a text. -/
def trimEndMatches (pattern : String) (text : List Char) : List Char :=
  (stripRepeated pattern.toList.reverse text.length text.reverse).reverse

def endsWith (pattern : String) (text : List Char) : Bool := pattern.toList.isSuffixOf text

/-- The token after the first one that is such a label. -/
def tokenAfter (label : List Char → Bool) (tokens : List (List Char)) : Option (List Char) :=
  (tokens.findIdx? label).bind fun pos => tokens[pos + 1]?

/-! ## Port status -/

/-- Speed and duplex are in parentheses after `up`: `(100Mbps full-duplex)`. -/
def isSpeedToken (token : List Char) : Bool := token.head? == some '(' && endsWith "Mbps" token

def parsePortStatusLine (line : List Char) : Option PortStatusEntry :=
  let tokens := splitWhitespace line
  (tokenAfter (· == "name:".toList) tokens).bind fun portId =>
    if "link-status:".toList ∈ tokens then
      let speedTok := tokens.find? isSpeedToken
      some {
        portId := String.ofList portId
        linkStatus := (tokenAfter (· == "link-status:".toList) tokens).map String.ofList
        speed := speedTok.map fun token =>
          String.ofList (trimEndMatches "Mbps" (trimStartMatches "(" token))
        duplex := speedTok.bind fun token =>
          (tokenAfter (· == token) tokens).map fun duplexTok =>
            String.ofList (trimEndMatches "-duplex" (trimEndMatches ")" duplexTok))
        poeStatus := (tokenAfter (· == "poe-status:".toList) tokens).map String.ofList }
    else none

def parsePortStatusSingleLine (raw : List Char) : List PortStatusEntry :=
  (strLines raw).filterMap parsePortStatusLine

/-- `key : value`, with any blanks around the colon. -/
def extractField (key : String) (line : List Char) : Option (List Char) :=
  ((stripPrefix key (trim line)).bind fun rest => stripPrefix ":" (rest.dropWhile isWhitespace)).map
    trim

/-- A line of the older format, which has one field a line and starts each port with its name. -/
def blockLine (entries : List PortStatusEntry × Option PortStatusEntry) (line : List Char) :
    List PortStatusEntry × Option PortStatusEntry :=
  match extractField "name" line with
  | some name => (entries.1 ++ entries.2.toList, some { portId := String.ofList name })
  | none =>
    match entries.2 with
    | none => entries
    | some entry =>
      let changed :=
        match extractField "link-status" line with
        | some v => { entry with linkStatus := some (String.ofList v) }
        | none =>
          match extractField "speed" line with
          | some v => { entry with speed := some (String.ofList v) }
          | none =>
            match extractField "duplex" line with
            | some v => { entry with duplex := some (String.ofList v) }
            | none =>
              match extractField "poe-status" line with
              | some v => { entry with poeStatus := some (String.ofList v) }
              | none => entry
      (entries.1, some changed)

def parsePortStatusBlockFormat (raw : List Char) : List PortStatusEntry :=
  let entries := (strLines raw).foldl blockLine ([], none)
  entries.1 ++ entries.2.toList

def parsePortStatus (raw : List Char) : List PortStatusEntry :=
  let singleLine := parsePortStatusSingleLine raw
  if singleLine.isEmpty then parsePortStatusBlockFormat raw else singleLine

/-! ## MAC table -/

def looksLikeMac (token : List Char) : Bool :=
  let parts := token.splitOn ':'
  parts.length == 6 && parts.all fun part => part.length == 2 && part.all isHexDigit

/-- The number in `port2(port-id 2)`, or a plain value. -/
def extractPortId (tokens : List (List Char)) (labelPos : ℕ) : Option (List Char) :=
  tokens[labelPos + 1]?.bind fun value =>
    if "port-id".toList <:+: value then
      tokens[labelPos + 2]?.map (trimEndMatches ")")
    else some (trimEndMatches ")" value)

def isPortLabel (token : List Char) : Bool :=
  token == "PORT:".toList || token == "Port:".toList || token == "Trunk:".toList

/-- A line of labels and values. -/
def parseLabelledMac (tokens : List (List Char)) : Option MacTableEntry :=
  (tokenAfter (· == "MAC:".toList) tokens).bind fun mac =>
    if looksLikeMac mac then
      ((tokens.findIdx? isPortLabel).bind (extractPortId tokens)).map fun portId =>
        { macAddress := String.ofList mac
          vlanId := (tokenAfter (· == "VLAN:".toList) tokens).bind (parseUint 16)
          portId := String.ofList portId }
    else none

/-- A line of a plain table: MAC, VLAN and port. -/
def parsePlainMac (tokens : List (List Char)) : Option MacTableEntry :=
  tokens[0]?.bind fun mac =>
    if looksLikeMac mac then
      tokens[2]?.map fun portId =>
        { macAddress := String.ofList mac
          vlanId := tokens[1]?.bind (parseUint 16)
          portId := String.ofList portId }
    else none

/-- A label `MAC:` without a value after it ends the line. -/
def parseMacLine (line : List Char) : Option MacTableEntry :=
  let tokens := splitWhitespace line
  if "MAC:".toList ∈ tokens ∧ tokenAfter (· == "MAC:".toList) tokens = none then none
  else (parseLabelledMac tokens).or (parsePlainMac tokens)

def parseMacTable (raw : List Char) : List MacTableEntry := (strLines raw).filterMap parseMacLine

end SwitchConfigurator.Fortiswitch
