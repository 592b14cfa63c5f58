/-
# Switchboard.Sample.Handlers -- the handlers of the sample application

Small functions of every shape: with and without parameters of each kind, with results of several
types, with failures, panics and values that have no JSON form. The second half is made for
exception handlers.
-/

import Switchboard.Sample.Basic

namespace Switchboard.Sample

/-! ## Results -/

/-- What a function gives. -/
abbrev Result := Attempt Failure Encoded

/-- A JSON value. -/
def give (v : Json) : Result := .value (.ok v)

/-- An integer. -/
def giveInt (n : Int64) : Result := give (.integer n.toInt)

/-- A text. -/
def giveText (s : String) : Result := give (.string s)

/-- An integer, unless it is too large. -/
def giveChecked (n : Int) : Result :=
  if Int64.minValue.toInt ≤ n ∧ n ≤ Int64.maxValue.toInt then give (.integer n)
  else .failed (.runtime "overflow")

/-- A function of the sample application that does not look at the ledger. -/
def pure {Args : Type} (t : TypeNames) (name : String) (takes : Parameters Args) (returns : String)
    (f : Args → Result) : Function Ledger :=
  ⟨t.own name, t.own name, takes, returns, fun args s => (f args, s)⟩

/-- A function of the sample application that uses the ledger. -/
def onLedger {Args : Type} (t : TypeNames) (name : String) (takes : Parameters Args)
    (amount : Args → Int64) : Function Ledger :=
  ⟨t.own name, t.own name, takes, t.int64, fun args s =>
    let s := s.add (amount args)
    (giveInt s.total, s)⟩

/-- The JSON form of an id, `null` for none. -/
def idOrNull (id : Option Id) : Json := (id.map Id.toJson).getD .null

/-- A failure with its causes as JSON. -/
def describeLinks : List Link → Json
  | [] => .null
  | l :: ls =>
    let cause := if ls.isEmpty then [] else [("cause", describeLinks ls)]
    Json.ofFields <|
      [("kind", .string l.kind.name), ("message", .string l.message)] ++
      (l.code.map fun c => ("code", Json.integer c.code.toInt)).toList ++
      (l.data.map fun v => ("data", v)).toList ++ cause

/-- A failure as JSON. -/
def describe (f : Failure) : Json := describeLinks f.chain

variable (t : TypeNames)

/-! ## Functions of params -/

/-- The sum of two integers. -/
def add : Function Ledger :=
  pure t "add" (.cons t.int64Param (.cons t.int64Param .none)) t.int64 fun (x, y, ()) =>
    giveChecked (x.toInt + y.toInt)

/-- The quotient of two integers, rounded toward zero. -/
def divide : Function Ledger :=
  pure t "divide" (.cons t.int64Param (.cons t.int64Param .none)) t.int64 fun (x, y, ()) =>
    if y = 0 then
      .failed ((Failure.invalidArgument "division by zero").withCode (.serverError (-32000)))
    else giveChecked (x.toInt.tdiv y.toInt)

/-- A value as it is. -/
def echo : Function Ledger := pure t "echo" (.cons t.jsonParam .none) t.json fun (v, ()) => give v

/-- Two values. -/
def pair : Function Ledger :=
  pure t "pair" (.cons t.jsonParam (.cons t.jsonParam .none)) t.json fun (a, b, ()) =>
    give (.array [a, b])

/-- A greeting. -/
def greet : Function Ledger :=
  pure t "greet" (.cons t.textParam (.cons t.optionalTextParam .none)) t.text
    fun (name, title, ()) =>
      giveText <|
        match title with
        | some title => "hello " ++ title ++ " " ++ name
        | none => "hello " ++ name

/-- A point as it is. -/
def point : Function Ledger :=
  pure t "point" (.cons t.pointParam .none) (t.own "Point") fun (p, ()) => give p.toJson

/-- The sum of a list. -/
def sum : Function Ledger :=
  pure t "sum" (.cons t.int64sParam .none) t.int64 fun (ns, ()) =>
    giveInt (ns.foldl (· + ·) 0)

/-- Nothing, after a truth value. -/
def flag : Function Ledger :=
  pure t "flag" (.cons t.boolParam .none) t.unit fun _ => give .null

/-- A small integer as it is. -/
def small : Function Ledger :=
  pure t "small" (.cons t.byteParam .none) t.byte fun (n, ()) => give (.integer n)

/-- An integer that may be absent. -/
def maybe : Function Ledger :=
  pure t "maybe" (.cons t.optionalInt64Param .none) (t.option t.int64) fun (n, ()) =>
    give ((n.map fun n => Json.integer n.toInt).getD .null)

/-! ## Functions of the request -/

/-- Two integers with the session between them. -/
def triple : Function Ledger :=
  pure t "triple" (.cons t.int64Param (.cons t.sessionParam (.cons t.int64Param .none))) t.json
    fun (a, s, b, ()) => give (.array [.integer a.toInt, .textOrNull s, .integer b.toInt])

/-- Four parameters of three kinds. -/
def four : Function Ledger :=
  pure t "four"
    (.cons t.jsonParam (.cons t.idParam (.cons t.jsonParam (.cons t.sessionParam .none)))) t.json
    fun (a, i, b, s, ()) => give (.array [a, idOrNull i, b, .textOrNull s])

/-- Five parameters of three kinds. -/
def five : Function Ledger :=
  pure t "five"
    (.cons t.jsonParam (.cons t.jsonParam (.cons t.jsonParam
      (.cons t.subscribeParam (.cons t.int64Param .none))))) t.json
    fun (a, b, c, m, d, ()) => give (.array [a, b, c, .textOrNull m, .integer d.toInt])

/-- Six parameters of six kinds. -/
def six : Function Ledger :=
  pure t "six"
    (.cons t.idParam (.cons t.int64Param (.cons t.sessionParam
      (.cons t.jsonParam (.cons t.subscribeParam (.cons t.headersParam .none)))))) t.json
    fun (id, number, session, raw, method, headers, ()) =>
      give (Json.ofFields
        [("id", idOrNull id), ("number", .integer number.toInt), ("session", .textOrNull session),
          ("raw", raw), ("method", .textOrNull method), ("headers", headers.shown)])

/-- The session. -/
def whoami : Function Ledger :=
  pure t "whoami" (.cons t.sessionParam .none) (t.option t.text) fun (s, ()) =>
    give (.textOrNull s)

/-- The id of the request. -/
def requestId : Function Ledger :=
  pure t "request_id" (.cons t.idParam .none) t.json fun (id, ()) =>
    give ((id.map fun id => Json.ofFields [("id", id.toJson)]).getD .null)

/-- The method of the notifications. -/
def subMethod : Function Ledger :=
  pure t "sub_method" (.cons t.subscribeParam .none) t.text fun (m, ()) =>
    giveText ("subscribed to " ++ m.getD "nothing")

/-- The headers. -/
def headers : Function Ledger :=
  pure t "headers" (.cons t.headersParam .none) t.json fun (h, ()) => give h.shown

/-! ## Functions without parameters -/

/-- Nothing. -/
def unit : Function Ledger := pure t "unit" .none t.unit fun _ => give .null

/-- A text that is always the same, by a function of the given name. -/
def constant (name : String) : Function Ledger :=
  pure t name .none t.text fun _ => giveText "constant"

/-- The time of day, which is always the same. -/
def clock : Function Ledger :=
  pure t "clock" (.cons TypeNames.clockParam .none) t.text fun _ => giveText "noon"

/-! ## Functions that fail -/

/-- Fails with a plain message. -/
def fail : Function Ledger :=
  pure t "fail" .none t.unit fun _ => .failed (.ofReport { root := .messages "boom" [] })

/-- Fails with messages, the first of which is wrapped in the others. -/
def failChain : Function Ledger :=
  pure t "fail_chain" (.cons t.textsParam .none) t.int64 fun (ms, ()) =>
    let report : Report := { root := .messages (ms.headD "") [] }
    .failed (.ofReport (ms.tail.foldl (fun r m => r.wrap (.text m)) report))

/-- Fails with the failure that a value stands for. -/
def failWith (read : Json → Failure) : Function Ledger :=
  pure t "fail_with" (.cons t.jsonParam .none) t.int64 fun (v, ()) => .failed (read v)

/-- Fails with the failure that a value stands for, wrapped in a message. -/
def failWrapped (name : String) (read : Json → Failure) : Function Ledger :=
  pure t name (.cons t.jsonParam .none) t.int64 fun (v, ()) =>
    .failed (.ofReport ({ root := .failure (read v) : Report }.wrap (.text "wrapped")))

/-- Fails with the error of the machinery that a value stands for. -/
def failBus (read : Json → BusError) : Function Ledger :=
  pure t "bus_error" (.cons t.jsonParam .none) t.int64 fun (v, ()) =>
    .failed (.ofBusError (read v))

/-- The integer that a text holds. -/
def parseInt : Function Ledger :=
  pure t "parse_int" (.cons t.textParam .none) t.int64 fun (s, ()) =>
    match Json.int64OfText s with
    | .ok n => giveInt n
    | .error m => .failed (.ofDecodeMessage m)

/-- Panics. -/
def panicStatic : Function Ledger :=
  pure t "panic_static" .none t.text fun _ => .panicked (.text "kaboom")

/-- Panics with a text. -/
def panicText : Function Ledger :=
  pure t "panic_text" (.cons t.textParam .none) t.text fun (s, ()) =>
    .panicked (.text ("panic: " ++ s))

/-- Panics with something that is no text. -/
def panicAny : Function Ledger := pure t "panic_any" .none t.unit fun _ => .panicked ⟨none⟩

/-- Why values of one type have no JSON form. -/
def refusal : String := "refuses to serialize"

/-- Gives a value that has no JSON form, by a function of the given name. -/
def bad (name : String) : Function Ledger :=
  pure t name .none (t.own "Bad") fun _ => .value (.error refusal)

/-! ## Functions of the ledger -/

/-- Adds to the ledger. -/
def accumulate : Function Ledger :=
  onLedger t "accumulate" (.cons t.ledgerParam (.cons t.int64Param .none)) fun ((), n, ()) => n

/-- The total of the ledger. -/
def total : Function Ledger := onLedger t "total" (.cons t.ledgerParam .none) fun _ => 0

/-! ## Exception handlers -/

/-- The message of the failure. -/
def onError : Function Ledger :=
  pure t "on_error" (.cons t.failureParam .none) t.text fun (f, ()) => giveText f.message

/-- The cause. -/
def onCause : Function Ledger :=
  pure t "on_cause" (.cons t.causeParam .none) t.json fun (f, ()) =>
    give ((f.map describe).getD .null)

/-- The handler that failed. -/
def onHandler : Function Ledger :=
  pure t "on_handler" (.cons t.handlerParam .none) t.json fun (h, ()) =>
    give (.ofTexts [h.destination, h.declared, h.name, h.label])

/-- Everything about the failure and its request. -/
def onFull : Function Ledger :=
  pure t "on_full"
    (.cons t.failureParam (.cons t.causeParam (.cons t.handlerParam
      (.cons t.idParam (.cons t.sessionParam (.cons t.subscribeParam .none)))))) t.json
    fun (f, cause, h, id, session, method, ()) =>
      give (Json.ofFields
        [("error", describe f), ("cause", .textOrNull (cause.map Failure.message)),
          ("handler", .string h.destination), ("id", idOrNull id),
          ("session", .textOrNull session), ("method", .textOrNull method)])

/-- The message of the failure with the params. -/
def onParams : Function Ledger :=
  pure t "on_params" (.cons t.failureParam (.cons t.jsonParam .none)) t.json fun (f, v, ()) =>
    give (.array [.string f.message, v])

/-- An integer with the message of the failure. -/
def onInt : Function Ledger :=
  pure t "on_int" (.cons t.int64Param (.cons t.failureParam .none)) t.json fun (n, f, ()) =>
    give (.array [.integer n.toInt, .string f.message])

/-- Fails again. -/
def onFail : Function Ledger :=
  pure t "on_fail" .none t.text fun _ =>
    .failed ((Failure.invalidArgument "exception handler failed").withCode (.serverError (-1)))

/-- Panics. -/
def onPanic : Function Ledger :=
  pure t "on_panic" .none t.text fun _ => .panicked (.text "exception handler panicked")

/-- Adds the length of the message to the ledger. -/
def onLedgerFailure : Function Ledger :=
  onLedger t "on_ledger" (.cons t.ledgerParam (.cons t.failureParam .none)) fun ((), f, ()) =>
    Int64.ofNat f.message.utf8ByteSize

end Switchboard.Sample
