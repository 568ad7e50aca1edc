/-!
# Failures

What can go wrong in a session or in reading a token or a document, and the message shown for it.
-/

namespace SoqlForm

inductive Failure where
  /-- the fields of an entity could not be fetched -/
  | metadataUnavailable (message : String)
  /-- the store rejected the query or broke down -/
  | executionFailed (message : String)
  /-- a query could not be appraised, or a grade could not be read -/
  | advisoryUnavailable (message : String)
  /-- another execution is in flight -/
  | busy
  /-- there is no query to execute -/
  | invalidQuery (message : String)
  /-- no condition stands at the position -/
  | noCondition (position : Nat)
  /-- the text names no operator -/
  | unknownOperator (text : String)
  /-- a document could not be read -/
  | unreadable (message : String)
  deriving Repr, DecidableEq

namespace Failure

/-- the message shown to the user -/
def message : Failure → String
  | metadataUnavailable m => "Metadata unavailable: " ++ m
  | executionFailed m => "Query execution failed: " ++ m
  | advisoryUnavailable m => "Query analysis unavailable: " ++ m
  | busy => "A query is already executing"
  | invalidQuery m => "Invalid query: " ++ m
  | noCondition p => "No condition at position " ++ p.repr
  | unknownOperator t => "Unknown operator: " ++ t
  | unreadable m => "JSON error: " ++ m

/-- any failure of a metadata fetch is reported as missing metadata: its own message is kept, and
another failure contributes the message it shows -/
def asMetadata : Failure → Failure
  | metadataUnavailable m => metadataUnavailable m
  | e => metadataUnavailable e.message

/-- any failure of the store is reported as a failed execution, in the same way -/
def asExecution : Failure → Failure
  | executionFailed m => executionFailed m
  | e => executionFailed e.message

end Failure

end SoqlForm
