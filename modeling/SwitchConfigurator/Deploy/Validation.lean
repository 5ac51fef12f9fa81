import SwitchConfigurator.Deploy.Session
import SwitchConfigurator.Ssh.SerialLogin

/-!
# Validation tests

`execute_test` with its seven kinds of test, and the loop over the tests of a switch. How long a
test took and how its kind is printed are left out.
-/

namespace SwitchConfigurator.Deploy

open Dialogue
open Ssh (contains debugStr)

/-! ## Results -/

structure TestFailure where
  test : TestType
  required : Bool
  error : String
  deriving DecidableEq, Repr

structure ValidationResult where
  passed : Bool := true
  testsRun : ℕ := 0
  testsPassed : ℕ := 0
  testsFailed : ℕ := 0
  failures : List TestFailure := []
  deriving DecidableEq, Repr

namespace ValidationResult

def recordSuccess (result : ValidationResult) : ValidationResult :=
  { result with testsRun := result.testsRun + 1, testsPassed := result.testsPassed + 1 }

def recordFailure (result : ValidationResult) (failure : TestFailure) : ValidationResult :=
  { result with
    testsRun := result.testsRun + 1
    testsFailed := result.testsFailed + 1
    passed := if failure.required then false else result.passed
    failures := result.failures ++ [failure] }

def record (result : ValidationResult) : Except TestFailure Unit → ValidationResult
  | .ok () => result.recordSuccess
  | .error failure => result.recordFailure failure

end ValidationResult

/-! ## Tests -/

section Tests

variable (lowercase : List Char → List Char) (printable : Char → Bool)

/-- The command of a test; its errors start with the text. -/
def ask (error : String) (command : String) : Session String :=
  execute (error ++ ·) .test command

/-- The other command is asked where the first one fails. -/
def askEither (error : String) (command other : String) : Session String := do
  match ← (execute id .test command).attempt (E := String) with
  | .ok output => pure output
  | .error _ => ask error other

def fail {α : Type} (message : String) : Session α := .fail message

def executeCommandTest (command : String) : Session Unit := do
  let output ← ask ("Failed to execute command '" ++ command ++ "': ") command
  let lower := lowercase output.toList
  if contains "error" lower || contains "invalid" lower || contains "unknown command" lower then
    fail ("Command '" ++ command ++ "' returned error: " ++ output)
  else if (trim output.toList).isEmpty then
    fail ("Command '" ++ command ++ "' returned empty output")
  else pure ()

def executePingManagementTest (managementIp : String) (count : ℕ) : Session Unit :=
  .ask (.ping managementIp count) fun
    | .error message => fail ("Failed to execute ping command: " ++ message)
    | .ok output =>
      if !output.success then fail ("Ping to " ++ managementIp ++ " failed: " ++ output.stderr)
      else if contains "100% packet loss" output.stdout.toList ||
          contains "100.0% packet loss" output.stdout.toList then
        fail ("Ping to " ++ managementIp ++ " failed: 100% packet loss")
      else pure ()

/-- The ports that cannot be reached; an address that is not found ends the test. -/
def unreachablePorts (managementIp : String) : List ℕ → Session (List ℕ)
  | [] => pure []
  | port :: ports =>
    let address := managementIp ++ ":" ++ toString port
    .ask (.resolve address) fun
      | .error message => fail ("Failed to resolve " ++ address ++ ": " ++ message)
      | .ok none => fail ("No address found for " ++ address)
      | .ok (some resolved) => .ask (.tcpConnect resolved) fun connected => do
        let failed ← unreachablePorts managementIp ports
        return if connected.isOk then failed else port :: failed

/-- `{:?}` of a list of which the elements are printed. -/
def debugList (elements : List String) : String := "[" ++ ", ".intercalate elements ++ "]"

def executeTcpPortTest (managementIp : String) (ports : List ℕ) : Session Unit := do
  let failed ← unreachablePorts managementIp ports
  if failed.isEmpty then pure ()
  else fail ("TCP port check failed for ports: " ++ debugList (failed.map toString))

def showsReply (lower : List Char) : Bool :=
  contains "reply" lower || contains "received" lower || contains "alive" lower

def showsLoss (lower : List Char) : Bool :=
  contains "100% packet loss" lower || contains "unreachable" lower || contains "timed out" lower

def executeGatewayTest (target : String) (sourceVlan : Option ℕ) : Session Unit := do
  let command :=
    match sourceVlan with
    | some vlan => "ping " ++ target ++ " source vlan " ++ toString vlan
    | none => "ping " ++ target ++ " count 3"
  let output ← ask "Failed to execute ping command: " command
  let lower := lowercase output.toList
  if showsLoss lower || contains "failed" lower then
    fail ("Ping to " ++ target ++ " failed: " ++
      ((strLines output.toList).head?.map String.ofList).getD "unknown error")
  else if !showsReply lower then
    fail ("Ping to " ++ target ++ " returned unexpected output: " ++ output)
  else pure ()

def executeDeviceReachableTest (deviceIp deviceName : String) (count : ℕ) : Session Unit := do
  let named := deviceName ++ " (" ++ deviceIp ++ ")"
  let output ← ask ("Failed to ping " ++ named ++ ": ")
    ("ping " ++ deviceIp ++ " count " ++ toString count)
  let lower := lowercase output.toList
  if showsLoss lower then fail ("Device " ++ named ++ " is not reachable")
  else if !showsReply lower then
    fail ("Device " ++ named ++ " returned unexpected ping output")
  else pure ()

/-- What is wrong with a port: only the first line that it occurs in is looked at. -/
def portFailure (output : List Char) (port : String) : Option String :=
  let lower := lowercase port.toList
  if !(decide (lower <:+: lowercase output)) then some (port ++ " (not found in output)")
  else
    match (strLines output).find? fun line => decide (lower <:+: lowercase line) with
    | some line =>
      if contains "down" (lowercase line) || contains "disabled" (lowercase line) then
        some (port ++ " (down)")
      else none
    | none => none

def executePortStatusTest (criticalPorts : List String) : Session Unit :=
  if criticalPorts.isEmpty then pure ()
  else do
    let output ← askEither "Failed to get interface status: " "show interfaces brief"
      "show interface status"
    let failed := criticalPorts.filterMap (portFailure lowercase output.toList)
    if failed.isEmpty then pure ()
    else
      fail ("Critical ports are not up: " ++
        debugList (failed.map fun port => debugStr printable port.toList))

def executeVlanMembershipTest : Session Unit := do
  let output ← askEither "Failed to get VLAN information: " "show vlan" "show vlans"
  let lower := lowercase output.toList
  if contains "error" lower || contains "invalid" lower then
    fail ("VLAN command returned error: " ++ output)
  else if !contains "vlan" lower then fail "VLAN command returned unexpected output"
  else pure ()

def testProgram (managementIp : String) : TestType → Session Unit
  | .commandExecution command => executeCommandTest lowercase command
  | .pingManagementIp count => executePingManagementTest managementIp count
  | .tcpPortCheck ports => executeTcpPortTest managementIp ports
  | .gatewayReachable target sourceVlan => executeGatewayTest lowercase target sourceVlan
  | .deviceReachable deviceIp deviceName count =>
    executeDeviceReachableTest lowercase deviceIp deviceName count
  | .portStatus criticalPorts => executePortStatusTest lowercase printable criticalPorts
  | .vlanMembership => executeVlanMembershipTest lowercase

def executeTest (managementIp : String) (test : ValidationTest) :
    Session (Except TestFailure Unit) := do
  return (← (testProgram lowercase printable managementIp test.testType).attempt
    (E := String)).mapError fun error => ⟨test.testType, test.required, error⟩

/-- The tests that are left. A failure of a required test ends the loop once the time is up. -/
def runTests (managementIp : String) (timeout : ℕ) :
    List ValidationTest → ValidationResult → Session ValidationResult
  | [], result => pure result
  | test :: tests, result => do
    let result := result.record (← executeTest lowercase printable managementIp test)
    if result.passed then runTests managementIp timeout tests result
    else .ask (.overtime timeout) fun
      | true => pure result
      | false => runTests managementIp timeout tests result

def runValidationTests (managementIp : String) (validation : ValidationConfig) :
    Session ValidationResult :=
  runTests lowercase printable managementIp validation.timeout validation.tests {}

end Tests

end SwitchConfigurator.Deploy
