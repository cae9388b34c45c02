import TokenDesk.Assistant.Advisor
import TokenDesk.Command.Host

/-!
# The assistant program

One program with a task as its first plain word: it inserts texts into sources, has sources analyzed,
shows deployments and gives advice.
-/

set_option autoImplicit false

namespace TokenDesk.Command

open TokenDesk.Text
open TokenDesk.Assistant

/-- What the assistant is to do. -/
inductive Task where
  | template (file : String) (line : Nat)
  | natspec (file : String)
  | analyze (file? : Option String) (image : String)
  | deployment (network? : Option String)
  /-- Shows a call, or inserts it before a line of a file. -/
  | snippet (network : String) (function? : Option String) (place? : Option (String × Nat))
  | advise (question : List String)
  deriving Repr

namespace Task

/-- The options of a task by its name. -/
def settings? (name : String) : Option (List Setting) :=
  match name with
  | "template" => some [.file, .line]
  | "natspec" => some [.file]
  | "analyze" => some [.file, .image]
  | "deployment" => some [.network]
  | "snippet" => some [.network, .function, .file, .line]
  | "advise" => some []
  | _ => none

/-- Where a snippet is to be inserted; a file needs a line. -/
def place? (a : Arguments) : Option (Option (String × Nat)) :=
  match a.value? "file" with
  | none => some none
  | some file => (a.number? "line").map fun line => some (file, line)

/-- The task of a name with its arguments. -/
def ofArguments? (name : String) (a : Arguments) : Option Task :=
  match name with
  | "template" => (a.value? "file").map fun file => template file ((a.number? "line").getD 1)
  | "natspec" => (a.value? "file").map natspec
  | "analyze" =>
    some (analyze (a.value? "file") ((a.value? "image").getD Analyzer.defaultImage))
  | "deployment" => some (deployment (a.value? "network"))
  | "snippet" =>
    (place? a).map fun place? =>
      snippet ((a.value? "network").getD defaultNetwork) (a.value? "function") place?
  | "advise" => some (advise a.words)
  | _ => none

/-- Reads the workspace and the task. The workspace can be named before and behind the task. -/
def read? (arguments : List String) : Option (Option String × Task) := do
  match ← Arguments.readFrom [.workspace] true {} arguments with
  | (_, []) => none
  | (before, name :: rest) =>
    let settings ← settings? name
    let (a, _) ← Arguments.readFrom (.workspace :: settings) false {} rest
    if a.words.isEmpty || name = "advise" then
      let task ← ofArguments? name a
      return ((a.value? "workspace").or (before.value? "workspace"), task)
    else none

variable {σ : Type}

/-- Writes a document and tells of it. -/
def save (d : Document) (line : String) : Run σ Refusal Unit := do
  (Run.change d.save).mapError .document
  Run.printLine line

def runTemplate (w : Workspace) (file : String) (line : Nat) : Run σ Refusal Unit := do
  let d ← (Run.look (Document.openOrNew w file line)).mapError .document
  let d ← Run.orAbort (d.insert? erc20Template)
  save d ("    Inserted ERC-20 template into " ++ quoted d.path)

def runNatspec (w : Workspace) (file : String) (today : Time.Date) : Run σ Refusal Unit := do
  let d ← (Run.look (Document.open w file 1)).mapError .document
  let found := comments d.text today
  if found.isEmpty then Run.fail (.noContracts d.path)
  else
    let (d, complete) := d.documented today
    let d ← Run.orAbort (if complete then some d else none)
    save d ("  Documented NatSpec for " ++ decimal found.length ++ " contract(s) in " ++
      quoted d.path)

/-- Analyzes files one after the other. -/
def analyzeEach (host : Host σ) (w : Workspace) (image : String) :
    List String → Run σ Refusal Unit
  | [] => pure ()
  | file :: files => do
    Run.printLine ("   Analyzing " ++ quoted file)
    let report ← (Run.look (Analyzer.run image w file host.execute)).mapError .analyzer
    Run.printLine report
    analyzeEach host w image files

def runAnalyze (host : Host σ) (w : Workspace) (file? : Option String) (image : String) :
    Run σ Refusal Unit := do
  let files ←
    match file? with
    | some file => pure [file]
    | none => (Run.look (Analyzer.sources w)).mapError .analyzer
  if files.isEmpty then Run.fail (.noSources w.root) else analyzeEach host w image files

/-- Prints texts as lines. -/
def printLines (lines : List String) : Run σ Refusal Unit :=
  Run.print (lines.foldl (fun text line => text ++ line ++ "\n") "")

def runDeployment (w : Workspace) (network? : Option String) : Run σ Refusal Unit :=
  match network? with
  | none => do
    let networks ← Run.look fun f => .ok (w.deployedNetworks f)
    if networks.isEmpty then Run.fail .noDeployments else printLines networks
  | some network => do
    let record ← (Run.look (w.latestDeployment network)).mapError .failure
    Run.printLine (overview network record)

def runSnippet (w : Workspace) (network : String) (function? : Option String)
    (place? : Option (String × Nat)) : Run σ Refusal Unit := do
  let record ← (Run.look (w.latestDeployment network)).mapError .failure
  match function? with
  | none => printLines record.signatures
  | some function =>
    let snippet ← Run.ofExcept ((Snippet.ofRecord record function).mapError .snippet)
    match place? with
    | none => Run.print snippet.text
    | some (file, line) =>
      let d ← (Run.look (Document.open w file line)).mapError .document
      let d ← Run.orAbort (d.insert? snippet.text)
      save d ("    Inserted snippet for `" ++ function ++ "` into " ++ quoted d.path)

/-- What a chat begins with. -/
def banner : String :=
  "Web3 Security Chat: ask about reentrancy, overflow, gas or front-running; `exit` to quit"

/-- Advises on a question, or line by line where there is none. -/
def runAdvise (host : Host σ) (question : List String) : Run σ Refusal Unit :=
  if question.isEmpty then do
    Run.printLine banner
    let transcript := chat host.input
    match ← Run.offer transcript.output with
    | some cause => Run.fail (.output cause)
    | none => if transcript.failed then Run.fail .input else pure ()
  else Run.printLine (Assistant.advise (String.intercalate " " question))

def run (host : Host σ) (w : Workspace) : Task → Run σ Refusal Unit
  | template file line => runTemplate w file line
  | natspec file => runNatspec w file host.now.date
  | analyze file? image => runAnalyze host w file? image
  | deployment network? => runDeployment w network?
  | snippet network function? place? => runSnippet w network function? place?
  | advise question => runAdvise host question

end Task

end TokenDesk.Command
