import TokenDesk.Chain.Wire

/-!
# Receipts

What a node tells of a transaction that is on the chain. All fields are checked, the ones that matter
are kept.
-/

set_option autoImplicit false

namespace TokenDesk

open TokenDesk.Text

structure Receipt where
  hash : Octets
  /-- Zero where the transaction was reverted. -/
  status? : Option Nat
  gasUsed? : Option Nat
  /-- Where a deployment has put its contract. -/
  contract? : Option Address
  deriving DecidableEq

namespace Receipt

open Wire

/-- The fields of the record of an event in order. -/
def logFields : List String := ["address", "topics", "data", "blockHash", "blockNumber",
  "transactionHash", "transactionIndex", "logIndex", "transactionLogIndex", "logType", "removed"]

/-- Checks the record of an event. -/
def log? (v : Json) : Option Unit := do
  let v ← record? logFields v
  let _ ← field? address? "address" v
  let _ ← field? (list? digest?) "topics" v
  let _ ← field? data? "data" v
  let _ ← optional? digest? "blockHash" v
  let _ ← optional? word? "blockNumber" v
  let _ ← optional? digest? "transactionHash" v
  let _ ← optional? word? "transactionIndex" v
  let _ ← optional? amount? "logIndex" v
  let _ ← optional? amount? "transactionLogIndex" v
  let _ ← optional? text? "logType" v
  let _ ← optional? flag? "removed" v
  return ()

/-- The fields of a receipt in order. -/
def fields : List String := ["transactionHash", "transactionIndex", "blockHash", "blockNumber",
  "from", "to", "cumulativeGasUsed", "gasUsed", "contractAddress", "logs", "status", "root",
  "logsBloom", "type", "effectiveGasPrice"]

/-- Reads a receipt. -/
def ofJson? (v : Json) : Option Receipt := do
  let v ← record? fields v
  let hash ← field? digest? "transactionHash" v
  let _ ← field? word? "transactionIndex" v
  let _ ← optional? digest? "blockHash" v
  let _ ← optional? word? "blockNumber" v
  let _ ← present? address? "from" v
  let _ ← optional? address? "to" v
  let _ ← field? amount? "cumulativeGasUsed" v
  let gasUsed? ← optional? amount? "gasUsed" v
  let contract? ← optional? address? "contractAddress" v
  let _ ← field? (list? log?) "logs" v
  let status? ← optional? word? "status" v
  let _ ← optional? digest? "root" v
  let _ ← field? (bytes? 256) "logsBloom" v
  let _ ← optional? word? "type" v
  let _ ← optional? amount? "effectiveGasPrice" v
  return ⟨hash, status?, gasUsed?, contract?⟩

/-- A receipt, or null while the transaction is not on the chain. -/
def orPending? : Json → Option (Option Receipt)
  | .null => some none
  | v => (ofJson? v).map some

/-- Whether the transaction was undone. -/
def isReverted (r : Receipt) : Bool :=
  r.status? == some 0

end Receipt

end TokenDesk
