import RecordFlow.Pipeline.Run

/-!
# Batches of records

A batch is one record, or any number of them.  Running a pipeline over a batch gives a
result of the same form, or fails with the first record that fails.

## Main definitions

* `Terminal.Batch` — records to be run through a pipeline.
* `Terminal.Batch.ofValue` — the batch in a value, or what the value is instead.
* `Terminal.Batch.transform` — the batch with every record replaced.
* `Terminal.Batch.attempted` — the records that are run for that.
-/

namespace RecordFlow.Terminal

/-- **Records to be run through a pipeline.** -/
inductive Batch where
  /-- One record. -/
  | one (record : Value)
  /-- Any number of records. -/
  | many (records : List Value)

namespace Batch

/-- Whether the value is an object. -/
def isObject : Value → Bool
  | .obj _ => true
  | _ => false

/-- **The batch in a value,** an object or an array of objects, or what the value is
instead. -/
def ofValue : Value → Except String Batch
  | .obj fields => .ok (one (.obj fields))
  | .arr items =>
    match items.findIdx? (!isObject ·) with
    | none => .ok (many items)
    | some index => .error ("element " ++ toString index ++ " is not an object")
  | v => .error ("found " ++ v.kindName)

/-- The records. -/
def records : Batch → List Value
  | one record => [record]
  | many records => records

/-- The number of records. -/
def size (b : Batch) : Nat :=
  b.records.length

/-- **The batch with every record replaced,** as one value of the same form. -/
def transform (run : Value → Except PipelineError Value) : Batch → Except PipelineError Value
  | one record => run record
  | many records => (records.mapM run).map .arr

/-- Some records up to the first one that fails, and this one too. -/
def upToFailure (run : Value → Except PipelineError Value) : List Value → List Value
  | [] => []
  | record :: rest =>
    record ::
      match run record with
      | .ok _ => upToFailure run rest
      | .error _ => []

/-- **The records that are run,** since none is run after one that fails. -/
def attempted (run : Value → Except PipelineError Value) (b : Batch) : List Value :=
  upToFailure run b.records

end Batch

end RecordFlow.Terminal
