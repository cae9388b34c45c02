import TokenDesk.Record.Deployment

/-!
# Call snippets and overviews

The script lines that call a function of a deployed contract, with a placeholder for each argument,
and the overview of a deployment.
-/

set_option autoImplicit false

namespace TokenDesk.Assistant

/-- The argument that stands for a parameter of a type, at a place. -/
def placeholder (kind : String) (place : Nat) : String :=
  let begins (mark : String) := mark.toList.isPrefixOf kind.toList
  if begins "address" then "addr1.address"
  else if begins "uint" then "ethers.parseEther(\"1\")"
  else if begins "string" then "\"example\""
  else if begins "bool" then "true"
  else "/* " ++ kind ++ " arg" ++ Text.decimal place ++ " */"

/-- A call of a function of a deployed contract. -/
structure Snippet where
  contract : String
  address : String
  function : AbiItem
  deriving Repr

namespace Snippet

/-- No function of the contract goes by the selector. -/
structure Error where
  selector : String
  contract : String
  available : List String
  deriving DecidableEq, Repr

def Error.message (e : Error) : String :=
  "Function `" ++ e.selector ++ "` not found in the `" ++ e.contract ++ "` ABI. Available: " ++
    String.intercalate ", " e.available

/-- The call of the function that a selector names. -/
def ofRecord (r : DeploymentRecord) (selector : String) : Except Error Snippet :=
  match r.function? selector with
  | some function => .ok ⟨r.contract, r.address, function⟩
  | none => .error ⟨selector, r.contract, r.signatures⟩

/-- Placeholders for parameters, counted from `place`. -/
def placeholders (place : Nat) : List Parameter → List String
  | [] => []
  | p :: ps => placeholder p.kind place :: placeholders (place + 1) ps

def arguments (s : Snippet) : String :=
  String.intercalate ", " (placeholders 0 s.function.inputs)

/-- The lines of the script. -/
def text (s : Snippet) : String :=
  let name := s.function.name
  let call := "await contract." ++ name ++ "(" ++ s.arguments ++ ")"
  let form := if s.function.isReadOnly then "read-only" else "transaction"
  "    // Hardhat snippet for " ++ name ++ " (" ++ form ++ ")\n" ++
    "    const [signer, addr1, addr2] = await ethers.getSigners();\n" ++
    "    const contract = await ethers.getContractAt(\"" ++ s.contract ++ "\", \"" ++ s.address ++
    "\");\n" ++
    if s.function.isReadOnly then "    console.log(" ++ call ++ ");\n"
    else
      "    const tx = " ++ call ++ ";\n    await tx.wait();\n    console.log(\"" ++ name ++
        " executed\");\n"

end Snippet

/-- What is said where no network has a deployment. -/
def noDeployments : String := "No deployment metadata found. Deploy a contract first"

/-- The overview of a deployment, looked up under a network name. -/
def overview (network : String) (r : DeploymentRecord) : String :=
  "=== Latest Deployment Info (" ++ network ++ ") ===\nContract: " ++ r.contract ++
    "\nAddress:  " ++ r.address ++ "\nNetwork:  " ++ r.network ++
    "\nDeployed: " ++ r.timestamp.millisText ++
    "\nABI Functions: " ++ Text.decimal r.abi.length

end TokenDesk.Assistant
