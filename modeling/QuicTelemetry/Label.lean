/-!
# Labels

A reason or a stage is a label of one of six closed sets, the *dimensions*.
The text of a label is a contract with dashboards and alert rules, so a member
may be added but none renamed.

Labels are never made from a text. What a peer reports is a number, and the
numbers without a label of their own share the label `unknown`, so a peer
cannot make series at will.
-/

namespace QuicTelemetry

/-- A stage of handshake processing on the server, the part that is timed. -/
inductive HandshakeStage where
  /-- Waiting in the kernel and for the connection to be polled. -/
  | queueWaiting
  /-- Parsing the Initial packet. -/
  | parseInitial
  /-- Deriving the keys. -/
  | deriveKeys
  /-- Processing the frames. -/
  | processFrames
  /-- Protocol work on one packet, queueing aside. -/
  | handshakeProtocol
  /-- From the arrival in the kernel to the response on the socket. -/
  | handshakeResponse
  deriving DecidableEq, Repr

namespace HandshakeStage

/-- The members, in the order of their declaration. -/
def all : List HandshakeStage :=
  [.queueWaiting, .parseInitial, .deriveKeys, .processFrames, .handshakeProtocol,
   .handshakeResponse]

/-- The text of a label. -/
def text : HandshakeStage → String
  | .queueWaiting => "queue_waiting"
  | .parseInitial => "parse_initial"
  | .deriveKeys => "derive_keys"
  | .processFrames => "process_frames"
  | .handshakeProtocol => "handshake_protocol"
  | .handshakeResponse => "handshake_response"

theorem mem_all (x : HandshakeStage) : x ∈ all := by cases x <;> decide

end HandshakeStage

/-- Why a packet was not written to the socket, or not wholly. -/
inductive WriteError where
  /-- The write failed. -/
  | failed
  /-- Part of the packet was written. -/
  | partly
  /-- The socket had no room. -/
  | wouldBlock
  deriving DecidableEq, Repr

namespace WriteError

/-- The members, in the order of their declaration. -/
def all : List WriteError :=
  [.failed, .partly, .wouldBlock]

/-- The text of a label. -/
def text : WriteError → String
  | .failed => "err"
  | .partly => "partial"
  | .wouldBlock => "would_block"

theorem mem_all (x : WriteError) : x ∈ all := by cases x <;> decide

end WriteError

/-- Why an Initial packet was refused before it had a connection. -/
inductive InitialPacketError where
  /-- Its token is not valid. -/
  | tokenValidationFailed
  /-- It could not be parsed. -/
  | failedToParse
  /-- It is of another type. -/
  | wrongPacketType
  /-- The queue of accepted connections was full. -/
  | acceptQueueOverflow
  /-- It was not expected. -/
  | unexpected
  deriving DecidableEq, Repr

namespace InitialPacketError

/-- The members, in the order of their declaration. -/
def all : List InitialPacketError :=
  [.tokenValidationFailed, .failedToParse, .wrongPacketType, .acceptQueueOverflow, .unexpected]

/-- The text of a label. -/
def text : InitialPacketError → String
  | .tokenValidationFailed => "token_validation_fail"
  | .failedToParse => "failed_to_parse"
  | .wrongPacketType => "wrong_packet_type"
  | .acceptQueueOverflow => "accept_queue_overflow"
  | .unexpected => "unexpected"

theorem mem_all (x : InitialPacketError) : x ∈ all := by cases x <;> decide

end InitialPacketError

/-- Why a handshake did not complete. -/
inductive HandshakeError where
  /-- A cryptographic operation failed. -/
  | cryptoFailed
  /-- TLS failed. -/
  | tlsFailed
  /-- It took too long. -/
  | timeout
  /-- The peer went away. -/
  | disconnect
  /-- Anything else. -/
  | other
  deriving DecidableEq, Repr

namespace HandshakeError

/-- The members, in the order of their declaration. -/
def all : List HandshakeError :=
  [.cryptoFailed, .tlsFailed, .timeout, .disconnect, .other]

/-- The text of a label. -/
def text : HandshakeError → String
  | .cryptoFailed => "crypto_fail"
  | .tlsFailed => "tls_fail"
  | .timeout => "timeout"
  | .disconnect => "disconnect"
  | .other => "other"

theorem mem_all (x : HandshakeError) : x ∈ all := by cases x <;> decide

end HandshakeError

/-- An application error of HTTP/3 or of its header compression. -/
inductive Http3Error where
  /-- A close without an error. -/
  | noError
  /-- A violation without a code of its own. -/
  | generalProtocolError
  /-- A fault of the endpoint. -/
  | internalError
  /-- A stream that may not be created. -/
  | streamCreationError
  /-- A required stream was closed. -/
  | closedCriticalStream
  /-- A frame that may not come here. -/
  | frameUnexpected
  /-- A malformed frame. -/
  | frameError
  /-- The peer causes too much load. -/
  | excessiveLoad
  /-- A misused identifier. -/
  | idError
  /-- A fault in the settings. -/
  | settingsError
  /-- No settings at the start. -/
  | missingSettings
  /-- A request refused unprocessed. -/
  | requestRejected
  /-- A request no longer wanted. -/
  | requestCancelled
  /-- A request that ended early. -/
  | requestIncomplete
  /-- A malformed message. -/
  | messageError
  /-- A tunnel that broke. -/
  | connectError
  /-- To be tried again with HTTP/1.1. -/
  | versionFallback
  /-- A header section that cannot be decoded. -/
  | decompressionFailed
  /-- A fault on the encoder stream. -/
  | encoderStreamError
  /-- A fault on the decoder stream. -/
  | decoderStreamError
  /-- Any code that is not assigned. -/
  | unknown
  deriving DecidableEq, Repr

namespace Http3Error

/-- The members, in the order of their declaration. -/
def all : List Http3Error :=
  [.noError, .generalProtocolError, .internalError, .streamCreationError, .closedCriticalStream,
   .frameUnexpected, .frameError, .excessiveLoad, .idError, .settingsError, .missingSettings,
   .requestRejected, .requestCancelled, .requestIncomplete, .messageError, .connectError,
   .versionFallback, .decompressionFailed, .encoderStreamError, .decoderStreamError, .unknown]

/-- The text of a label. -/
def text : Http3Error → String
  | .noError => "h3_no_error"
  | .generalProtocolError => "h3_general_protocol_error"
  | .internalError => "h3_internal_error"
  | .streamCreationError => "h3_stream_creation_error"
  | .closedCriticalStream => "h3_closed_critical_stream"
  | .frameUnexpected => "h3_frame_unexpected"
  | .frameError => "h3_frame_error"
  | .excessiveLoad => "h3_excessive_load"
  | .idError => "h3_id_error"
  | .settingsError => "h3_settings_error"
  | .missingSettings => "h3_missing_settings"
  | .requestRejected => "h3_request_rejected"
  | .requestCancelled => "h3_request_cancelled"
  | .requestIncomplete => "h3_request_incomplete"
  | .messageError => "h3_message_error"
  | .connectError => "h3_connect_error"
  | .versionFallback => "h3_version_fallback"
  | .decompressionFailed => "qpack_decompression_failed"
  | .encoderStreamError => "qpack_encoder_stream_error"
  | .decoderStreamError => "qpack_decoder_stream_error"
  | .unknown => "unknown"

theorem mem_all (x : Http3Error) : x ∈ all := by cases x <;> decide

end Http3Error

/-- A transport error of QUIC. -/
inductive TransportError where
  /-- A close without an error. -/
  | noError
  /-- A fault of the endpoint. -/
  | internalError
  /-- A connection that is not wanted. -/
  | connectionRefused
  /-- More data than was allowed. -/
  | flowControlError
  /-- More streams than were allowed. -/
  | streamLimitError
  /-- A frame the state of the stream forbids. -/
  | streamStateError
  /-- A final size that changed. -/
  | finalSizeError
  /-- A malformed frame. -/
  | frameEncodingError
  /-- A fault in the transport parameters. -/
  | transportParameterError
  /-- More connection identifiers than were allowed. -/
  | connectionIdLimitError
  /-- A violation without a code of its own. -/
  | protocolViolation
  /-- A token that is not valid. -/
  | invalidToken
  /-- The application closed the connection. -/
  | applicationError
  /-- More handshake data than fits. -/
  | cryptoBufferExceeded
  /-- A fault in a key update. -/
  | keyUpdateError
  /-- The keys were used too often. -/
  | aeadLimitReached
  /-- No path reaches the peer. -/
  | noViablePath
  /-- Any TLS alert; which one is not told. -/
  | cryptoError
  /-- Any code that is not assigned. -/
  | unknown
  deriving DecidableEq, Repr

namespace TransportError

/-- The members, in the order of their declaration. -/
def all : List TransportError :=
  [.noError, .internalError, .connectionRefused, .flowControlError, .streamLimitError,
   .streamStateError, .finalSizeError, .frameEncodingError, .transportParameterError,
   .connectionIdLimitError, .protocolViolation, .invalidToken, .applicationError,
   .cryptoBufferExceeded, .keyUpdateError, .aeadLimitReached, .noViablePath, .cryptoError,
   .unknown]

/-- The text of a label. -/
def text : TransportError → String
  | .noError => "no_error"
  | .internalError => "internal_error"
  | .connectionRefused => "connection_refused"
  | .flowControlError => "flow_control_error"
  | .streamLimitError => "stream_limit_error"
  | .streamStateError => "stream_state_error"
  | .finalSizeError => "final_size_error"
  | .frameEncodingError => "frame_encoding_error"
  | .transportParameterError => "transport_parameter_error"
  | .connectionIdLimitError => "connection_id_limit_error"
  | .protocolViolation => "protocol_violation"
  | .invalidToken => "invalid_token"
  | .applicationError => "application_error"
  | .cryptoBufferExceeded => "crypto_buffer_exceeded"
  | .keyUpdateError => "key_update_error"
  | .aeadLimitReached => "aead_limit_reached"
  | .noViablePath => "no_viable_path"
  | .cryptoError => "crypto_error"
  | .unknown => "unknown"

theorem mem_all (x : TransportError) : x ∈ all := by cases x <;> decide

end TransportError

/-- A closed set of labels. -/
inductive Dimension where
  /-- The members of `HandshakeStage`. -/
  | handshakeStage
  /-- The members of `WriteError`. -/
  | writeError
  /-- The members of `InitialPacketError`. -/
  | initialPacketError
  /-- The members of `HandshakeError`. -/
  | handshakeError
  /-- The members of `Http3Error`. -/
  | http3Error
  /-- The members of `TransportError`. -/
  | transportError
  deriving DecidableEq, Repr

/-- The name a message has for the set. -/
def Dimension.title : Dimension → String
  | .handshakeStage => "QuicHandshakeStage"
  | .writeError => "QuicWriteError"
  | .initialPacketError => "QuicInvalidInitialPacketError"
  | .handshakeError => "HandshakeError"
  | .http3Error => "H3Error"
  | .transportError => "QuicError"

/-- The six sets. -/
def Dimension.all : List Dimension :=
  [.handshakeStage, .writeError, .initialPacketError, .handshakeError, .http3Error, .transportError]

/-- **A label**: a member of one of the six sets. -/
inductive Label where
  /-- A member of `HandshakeStage`. -/
  | handshakeStage (member : HandshakeStage)
  /-- A member of `WriteError`. -/
  | writeError (member : WriteError)
  /-- A member of `InitialPacketError`. -/
  | initialPacketError (member : InitialPacketError)
  /-- A member of `HandshakeError`. -/
  | handshakeError (member : HandshakeError)
  /-- A member of `Http3Error`. -/
  | http3Error (member : Http3Error)
  /-- A member of `TransportError`. -/
  | transportError (member : TransportError)
  deriving DecidableEq, Repr

namespace Label

/-- The set a label belongs to. -/
def dimension : Label → Dimension
  | .handshakeStage _ => .handshakeStage
  | .writeError _ => .writeError
  | .initialPacketError _ => .initialPacketError
  | .handshakeError _ => .handshakeError
  | .http3Error _ => .http3Error
  | .transportError _ => .transportError

/-- **The text of a label**, which is the value a series carries. -/
def text : Label → String
  | .handshakeStage member => member.text
  | .writeError member => member.text
  | .initialPacketError member => member.text
  | .handshakeError member => member.text
  | .http3Error member => member.text
  | .transportError member => member.text

/-- The name of a label: its text in capitals, without the `h3_` in front that
the application errors have. -/
def name (l : Label) : String :=
  let cs := l.text.toList
  String.ofList ((if cs.take 3 = ['h', '3', '_'] then cs.drop 3 else cs).map Char.toUpper)

/-- The name with that of its set in front. -/
def fullName (l : Label) : String := l.dimension.title ++ "." ++ l.name

end Label

/-- The labels of a set, in the order of their declaration. -/
def Dimension.members : Dimension → List Label
  | .handshakeStage => HandshakeStage.all.map .handshakeStage
  | .writeError => WriteError.all.map .writeError
  | .initialPacketError => InitialPacketError.all.map .initialPacketError
  | .handshakeError => HandshakeError.all.map .handshakeError
  | .http3Error => Http3Error.all.map .http3Error
  | .transportError => TransportError.all.map .transportError

/-- **The texts a label of the set can have.** -/
def Dimension.texts (d : Dimension) : List String := d.members.map Label.text

theorem Label.mem_members (l : Label) : l ∈ l.dimension.members := by
  cases l with
  | handshakeStage m | writeError m | initialPacketError m | handshakeError m | http3Error m
  | transportError m => exact List.mem_map_of_mem m.mem_all

/-- The label with the given full name. -/
def Label.ofFullName? (s : String) : Option Label :=
  (Dimension.all.flatMap Dimension.members).find? fun l => l.fullName == s

end QuicTelemetry
