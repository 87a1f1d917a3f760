/-!
# Enumerations

The side of the connection that triggered a reset or a termination, and the ways in which a caller
can use the sending side incorrectly.
-/

namespace Http2Failure

inductive Enumeration where
  | misuse
  | initiator
deriving DecidableEq

namespace Enumeration

def name : Enumeration → String
  | .misuse => "UserError"
  | .initiator => "Initiator"

/-- The module that defines the enumeration. -/
def home : Enumeration → String
  | .misuse => "c_h2_core.codec"
  | .initiator => "c_h2_core.proto"

end Enumeration

inductive Initiator where
  /-- This library detected the failure. -/
  | library
  /-- The peer sent the frame. -/
  | peer
deriving DecidableEq

namespace Initiator

def all : List Initiator := [.library, .peer]

def name : Initiator → String
  | .library => "LOCAL"
  | .peer => "REMOTE"

def text : Initiator → String
  | .library => "local"
  | .peer => "remote"

def isLocal (i : Initiator) : Bool := i == .library

def isRemote (i : Initiator) : Bool := i == .peer

def ofName? (name : String) : Option Initiator :=
  all.find? fun i => i.name == name

def ofText? (text : String) : Option Initiator :=
  all.find? fun i => i.text == text

end Initiator

inductive Misuse where
  | inactiveStreamId
  | unexpectedFrameType
  | payloadTooBig
  | rejected
  | releaseCapacityTooBig
  | overflowedStreamId
  | malformedHeaders
  | missingUriSchemeAndAuthority
  | pollResetAfterSendResponse
  | sendPingWhilePending
  | sendSettingsWhilePending
  | peerDisabledServerPush
  | invalidInformationalStatusCode
deriving DecidableEq

namespace Misuse

def all : List Misuse := [.inactiveStreamId, .unexpectedFrameType, .payloadTooBig, .rejected,
  .releaseCapacityTooBig, .overflowedStreamId, .malformedHeaders, .missingUriSchemeAndAuthority,
  .pollResetAfterSendResponse, .sendPingWhilePending, .sendSettingsWhilePending,
  .peerDisabledServerPush, .invalidInformationalStatusCode]

def name : Misuse → String
  | .inactiveStreamId => "INACTIVE_STREAM_ID"
  | .unexpectedFrameType => "UNEXPECTED_FRAME_TYPE"
  | .payloadTooBig => "PAYLOAD_TOO_BIG"
  | .rejected => "REJECTED"
  | .releaseCapacityTooBig => "RELEASE_CAPACITY_TOO_BIG"
  | .overflowedStreamId => "OVERFLOWED_STREAM_ID"
  | .malformedHeaders => "MALFORMED_HEADERS"
  | .missingUriSchemeAndAuthority => "MISSING_URI_SCHEME_AND_AUTHORITY"
  | .pollResetAfterSendResponse => "POLL_RESET_AFTER_SEND_RESPONSE"
  | .sendPingWhilePending => "SEND_PING_WHILE_PENDING"
  | .sendSettingsWhilePending => "SEND_SETTINGS_WHILE_PENDING"
  | .peerDisabledServerPush => "PEER_DISABLED_SERVER_PUSH"
  | .invalidInformationalStatusCode => "INVALID_INFORMATIONAL_STATUS_CODE"

def text : Misuse → String
  | .inactiveStreamId => "inactive stream"
  | .unexpectedFrameType => "unexpected frame type"
  | .payloadTooBig => "payload too big"
  | .rejected => "rejected"
  | .releaseCapacityTooBig => "release capacity too big"
  | .overflowedStreamId => "stream ID overflowed"
  | .malformedHeaders => "malformed headers"
  | .missingUriSchemeAndAuthority => "request URI missing scheme and authority"
  | .pollResetAfterSendResponse => "poll_reset after send_response is illegal"
  | .sendPingWhilePending => "send_ping before received previous pong"
  | .sendSettingsWhilePending => "sending SETTINGS before received previous ACK"
  | .peerDisabledServerPush => "sending PUSH_PROMISE to peer who disabled server push"
  | .invalidInformationalStatusCode => "invalid informational status code"

def ofName? (name : String) : Option Misuse :=
  all.find? fun m => m.name == name

def ofText? (text : String) : Option Misuse :=
  all.find? fun m => m.text == text

end Misuse

end Http2Failure
