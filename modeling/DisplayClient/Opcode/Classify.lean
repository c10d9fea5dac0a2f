import DisplayClient.Opcode.Table

/-!
# Classifying responses

A connection has one table for events and one for server errors. A module
brings declarations for both, each relative to a base of its own. Responses
are classified by looking them up: an event by its kind without the synthetic
bit, an error by its code. Classification never fails; what no type is
registered for stays a plain event or a plain error.
-/

namespace DisplayClient

/-- The opcode tables of a connection. -/
structure OpcodeTables where
  events : OpcodeTable
  errors : OpcodeTable
  deriving DecidableEq, Inhabited

namespace OpcodeTables

def empty : OpcodeTables := ⟨.empty, .empty⟩

def onEvents {α : Type} (step : Step OpcodeTable α) : Step OpcodeTables α :=
  step.onPart events fun table tables => { tables with events := table }

def onErrors {α : Type} (step : Step OpcodeTable α) : Step OpcodeTables α :=
  step.onPart errors fun table tables => { tables with errors := table }

/-- Registers what a module declares: its events at `firstEvent` and its errors at `firstError`;
nothing if any of them does not fit. -/
def insertModule (firstEvent : UInt8) (events : List Declaration) (firstError : UInt8)
    (errors : List Declaration) : Step OpcodeTables Unit := do
  OpcodeTable.checkRoom firstEvent events
  OpcodeTable.checkRoom firstError errors
  onEvents (OpcodeTable.insertAll firstEvent events)
  onErrors (OpcodeTable.insertAll firstError errors)

/-- Classifies a response as an event. -/
def classifyEvent (response : Response) : Step OpcodeTables Event := fun tables =>
  let generic : Event := ⟨response, none⟩
  let event : Event := ⟨response, tables.events.get? generic.opcode⟩
  ⟨.ok event, tables, [.eventClassified event.opcode event.type]⟩

/-- Classifies a response as a server error. -/
def classifyError (response : Response) : Step OpcodeTables ServerError := fun tables =>
  let generic : ServerError := ⟨response, none⟩
  let error : ServerError := ⟨response, tables.errors.get? generic.code⟩
  ⟨.ok error, tables, [.errorClassified error.code error.type]⟩

end OpcodeTables

end DisplayClient
