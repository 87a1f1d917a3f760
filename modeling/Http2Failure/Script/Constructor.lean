import Http2Failure.Attribute
import Http2Failure.Error.Conversion

/-!
# Constructors

How objects are made from the values of their parts.
-/

namespace Http2Failure

namespace Script

inductive Constructor where
  | tuple
  | view
  | reason
  | streamId
  /-- The member of an enumeration with a given value. -/
  | member (e : Enumeration)
  | reset
  | goAway
  | transport
  | resetBy (side : Initiator)
  | goAwayBy (side : Initiator)
  | sendMisuse
  | sendConnection
  | kindReset
  | kindGoAway
  | kindReason
  | kindMisuse
  | kindTransport
  | fault (cls : Fault.Class)
  | exception (cls : PlainException.Class)
  | error (cls : Error.Class) (route : Error.Route)
deriving DecidableEq

namespace Constructor

def apply (c : Constructor) (args : List Value) : Action Value := do
  match c, args with
  | .tuple, items => return .object (← .tuple items)
  | .view, [v] =>
    match v, ← .ask fun s => s.object? v with
    | .bytes _, _ | _, some (.buffer _) => .create (.view v)
    | _, some (.view source) => .create (.view source)
    | _, some .released => throw .releasedView
    | _, _ => throw (.notByteLike (← .ask fun s => s.typeName v))
  | .reason, [v] => .make (.reason v)
  | .streamId, [v] => .make (.streamId v)
  | .member e, [v] => .read fun s => s.memberOf e v
  | .reset, [id, code, side] => .create (.report (.reset id code side))
  | .goAway, [data, code, side] => .make (.report (.goAway data code side))
  | .transport, [v] => .create (.report (.transport v))
  | .resetBy side, [id, code] => .create (.report (.reset id code (.initiator side)))
  | .goAwayBy side, [code] => .make (.report (.goAway (.bytes []) code (.initiator side)))
  | .goAwayBy side, [code, data] => .make (.report (.goAway data code (.initiator side)))
  | .sendMisuse, [v] => .create (.sendFailure (.misuse v))
  | .sendConnection, [v] => .create (.sendFailure (.connection v))
  | .kindReset, [id, code, side] => .create (.kind (.reset id code side))
  | .kindGoAway, [data, code, side] => .create (.kind (.goAway data code side))
  | .kindReason, [v] => .create (.kind (.reason v))
  | .kindMisuse, [v] => .create (.kind (.misuse v))
  | .kindTransport, [v] => .create (.kind (.transport v))
  | .fault cls, args => .create (.fault (← .read fun s => Fault.construct s cls args))
  | .exception cls, args => .create (.exception { cls, args })
  | .error cls route, [v] => Error.via cls route v
  | _, _ => throw (.extraArguments "constructor" "another number of arguments" args.length)

end Constructor

end Script

end Http2Failure
