/-
# Switchboard.Sample.Parts -- resolvers, return handlers and mappings of the sample application

Among them are parts that do their work, parts that hand over the wrong thing, and parts that fail
or panic.
-/

import Switchboard.Registry
import Switchboard.Reply
import Switchboard.Handler.Binding
import Switchboard.Sample.Handlers

namespace Switchboard.Sample

/-! ## Argument resolvers -/

/-- Finds arguments for the parameters of one source. -/
def supply (source : Source) (find : Param → RequestMessage → Attempt BusError Argument) :
    ArgumentResolver Ledger where
  supports p := p.source = source
  resolve p m s := (find p m, s)

/-- Something of the application's own that is not the ledger: a number. -/
def otherArgument : Argument := .custom "number" (.integer 7)

/-- Supplies the ledger. -/
def ledgerResolver : ArgumentResolver Ledger :=
  supply (.custom "ledger") fun _ _ => .value TypeNames.ledgerArgument

/-- Supplies something else instead of the ledger. -/
def wrongLedgerResolver : ArgumentResolver Ledger :=
  supply (.custom "ledger") fun _ _ => .value otherArgument

/-- Supplies JSON instead of the ledger. -/
def jsonLedgerResolver : ArgumentResolver Ledger :=
  supply (.custom "ledger") fun _ _ => .value (.json (.integer 1))

/-- Supplies the clock. -/
def clockResolver : ArgumentResolver Ledger :=
  supply (.custom "clock") fun _ _ => .value otherArgument

/-- Panics instead of supplying the clock. -/
def panickingClockResolver : ArgumentResolver Ledger :=
  supply (.custom "clock") fun _ _ => .panicked (.text "clock is broken")

/-- Fails instead of supplying the clock. -/
def failingClockResolver : ArgumentResolver Ledger :=
  supply (.custom "clock") fun p m =>
    .failed (.missingParameter ("clock#" ++ toString p.index ++ "@" ++ m.payload.method))

/-- Supplies a failure. -/
def failureResolver : ArgumentResolver Ledger :=
  supply .failure fun _ _ => .value (.failure (.runtime "supplied"))

/-- Supplies a text to every parameter. -/
def greedyResolver (s : String) : ArgumentResolver Ledger where
  supports _ := true
  resolve _ _ l := (.value (.json (.string s)), l)

/-! ## Return handlers -/

/-- Ends the same way for every value of one type. -/
def ending (typeName : String) (result : Attempt BusError Unit) : ReturnHandler Ledger where
  supports type := type.typeName = typeName
  handle _ _ _ d := (result, d)

variable (t : TypeNames)

/-- Drops texts. -/
def swallowText : ReturnHandler Ledger := ending t.text (.value ())

/-- Refuses to return nothing. -/
def rejectUnit : ReturnHandler Ledger := ending t.unit (.failed (.unsupportedReturnType t.unit))

/-- Has nowhere to send integers. -/
def closedInt : ReturnHandler Ledger := ending t.int64 (.failed (.channelClosed "sink"))

/-- Panics on JSON values. -/
def panicJson : ReturnHandler Ledger :=
  ending t.json (.panicked (.text "return handler exploded"))

/-! ## Mappings -/

/-- Leaves methods that accept subscriptions out, and group starts too. -/
def requestsOnly : Mapping Ledger := fun m _ =>
  match m.info.kind with
  | .request => some m.info.declared
  | .subscribe _ => none

/-- Keeps requests and subscriptions apart, and groups too. -/
def splitKinds : Mapping Ledger := fun m g =>
  let kind :=
    match m.info.kind with
    | .request => "req"
    | .subscribe _ => "sub"
  some (kind ++ "/" ++ g.start.getD "-" ++ "/" ++ m.info.declared)

/-- Puts everything in one place. -/
def onePlace : Mapping Ledger := fun _ _ => some "constant"

end Switchboard.Sample
