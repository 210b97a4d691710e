import QuicTelemetry.Fault

/-!
# Wire codes

What a peer reports is a number of its own choice. The assigned numbers have a
label each, the TLS alerts `0x100` to `0x1ff` of the transport share one, and
all the others share the label `unknown`.
-/

namespace QuicTelemetry

/-- The label at a place in a list of assigned codes. -/
def assigned? {α : Type} (members : List α) (first : Int) (code : Int) : Option α :=
  if code < first then none else members[(code - first).toNat]?

namespace Http3Error

/-- The labels of the application codes `0x100` and following. -/
def applicationCodes : List Http3Error := all.take 17

/-- The labels of the header compression codes `0x200` and following. -/
def compressionCodes : List Http3Error := (all.drop 17).take 3

/-- **The label of an application code.** -/
def ofWireCode (code : Int) : Http3Error :=
  (assigned? applicationCodes 0x100 code <|> assigned? compressionCodes 0x200 code).getD .unknown

end Http3Error

namespace TransportError

/-- The labels of the transport codes from zero on. -/
def transportCodes : List TransportError := all.take 17

/-- **The label of a transport code.** -/
def ofWireCode (code : Int) : TransportError :=
  if 0x100 ≤ code ∧ code ≤ 0x1ff then .cryptoError
  else (assigned? transportCodes 0 code).getD .unknown

end TransportError

namespace Label

/-- The label of an application code that may be any value: what is equal to
no whole number is not assigned, and what cannot be looked up is refused. -/
def ofApplicationCode (v : Value) : Except Fault Label :=
  if v.isKey then
    .ok (.http3Error (match v.whole? with
      | some code => Http3Error.ofWireCode code
      | none => .unknown))
  else .error .mistyped

/-- The label of a transport code that may be any value: only numbers can be
compared with the codes of the alerts. -/
def ofTransportCode : Value → Except Fault Label
  | .real x =>
    if (Binary64.le 256 x) && x.le 511 then .ok (.transportError .cryptoError)
    else
      .ok (.transportError (match (Value.real x).whole? with
        | some code => TransportError.ofWireCode code
        | none => .unknown))
  | .bool b => .ok (.transportError (TransportError.ofWireCode (if b then 1 else 0)))
  | .int i => .ok (.transportError (TransportError.ofWireCode i))
  | _ => .error .mistyped

end Label

end QuicTelemetry
