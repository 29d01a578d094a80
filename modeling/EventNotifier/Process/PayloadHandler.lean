import EventNotifier.Data

/-!
# The payload handler

`payloadHandler` (in the `process` package) receives the frames of the upstream node as a
payload, a topic and a version. `NewPayloadHandler` rejects a nil marshaller and an empty table
of data processors; `initActionsMap` maps the seven topics of the `outport` package to the
handler's methods; `ProcessPayload` ignores a topic that is not a key, and otherwise calls the
topic's method. `saveBlock`, `revertIndexedBlock` and `finalizedBlock` look the version up in
the table and call the matching method of its data processor; the four other methods return
nil.

A data processor's methods act on the rest of the notifier, so the model records every call
(`ProcessorCall`) beside the error returned. On a block topic with a version that is not in the
table the handler returns `ErrInvalidPayloadType`, although `ErrInvalidPayloadVersion` is
declared for that case and the log line next to it reads "invalid provided version"
(`processPayload_unknown_version`).
-/

set_option autoImplicit false

namespace EventNotifier.Process

/-- `common.PayloadVersion`. -/
abbrev PayloadVersion := String

/-- The three methods of a `DataProcessor` the handler calls, each with the error it returns on
a payload. -/
structure DataProcessor where
  saveBlock : Bytes → Except GoError Unit
  revertIndexedBlock : Bytes → Except GoError Unit
  finalizedBlock : Bytes → Except GoError Unit

/-- A method of `DataProcessor`. -/
inductive ProcessorMethod where
  | saveBlock
  | revertIndexedBlock
  | finalizedBlock
  deriving DecidableEq, Repr

/-- Calling a method of a data processor. -/
def ProcessorMethod.call : ProcessorMethod → DataProcessor → Bytes → Except GoError Unit
  | .saveBlock, p => p.saveBlock
  | .revertIndexedBlock, p => p.revertIndexedBlock
  | .finalizedBlock, p => p.finalizedBlock

/-- One call of a data processor's method: the version whose processor was called, the method
and the payload it received. -/
structure ProcessorCall where
  version : PayloadVersion
  method : ProcessorMethod
  payload : Bytes
  deriving DecidableEq, Repr

/-- What a handler returns, with the data-processor calls it made. -/
abbrev Outcome := Except GoError Unit × List ProcessorCall

/-- Modelled from the spec: the topic names of the `outport` package (section 6). -/
def topicSaveBlock : String := "SaveBlock"

/-- Modelled from the spec: an `outport` topic name. -/
def topicRevertIndexedBlock : String := "RevertIndexedBlock"

/-- Modelled from the spec: an `outport` topic name. -/
def topicSaveRoundsInfo : String := "SaveRoundsInfo"

/-- Modelled from the spec: an `outport` topic name. -/
def topicSaveValidatorsRating : String := "SaveValidatorsRating"

/-- Modelled from the spec: an `outport` topic name. -/
def topicSaveValidatorsPubKeys : String := "SaveValidatorsPubKeys"

/-- Modelled from the spec: an `outport` topic name. -/
def topicSaveAccounts : String := "SaveAccounts"

/-- Modelled from the spec: an `outport` topic name. -/
def topicFinalizedBlock : String := "FinalizedBlock"

/-- The fields of `payloadHandler` its methods read: the table of data processors by version.
The marshaller is only checked for nil, and `actions` is `initActionsMap` of the handler. -/
structure PayloadHandler where
  dp : GoMap PayloadVersion DataProcessor

/-- `NewPayloadHandler(marshaller, dataProcessors)`. -/
def newPayloadHandler {M : Type} (marshaller : Option M)
    (dataProcessors : GoMap PayloadVersion DataProcessor) : Except GoError PayloadHandler :=
  if marshaller.isNone then .error .errNilMarshaller
  else if dataProcessors.entries.length = 0 then .error .errNilDataProcessor
  else .ok ⟨dataProcessors⟩

namespace PayloadHandler

/-- The body shared by `saveBlock`, `revertIndexedBlock` and `finalizedBlock`: look the version
up and call `method` of its data processor on the payload. -/
def callDataProcessor (ph : PayloadHandler) (method : ProcessorMethod) (marshalledData : Bytes)
    (version : String) : Outcome :=
  match ph.dp.lookup version with
  | none => (.error .errInvalidPayloadType, [])
  | some dataProcessor => (method.call dataProcessor marshalledData, [⟨version, method, marshalledData⟩])

/-- `saveBlock(marshalledData, version)`. -/
def saveBlock (ph : PayloadHandler) : Bytes → String → Outcome := ph.callDataProcessor .saveBlock

/-- `revertIndexedBlock(marshalledData, version)`. -/
def revertIndexedBlock (ph : PayloadHandler) : Bytes → String → Outcome :=
  ph.callDataProcessor .revertIndexedBlock

/-- `finalizedBlock(marshalledData, version)`. -/
def finalizedBlock (ph : PayloadHandler) : Bytes → String → Outcome :=
  ph.callDataProcessor .finalizedBlock

/-- The body of the four methods that return nil. -/
def ignorePayload (_marshalledData : Bytes) (_version : String) : Outcome := (.ok (), [])

/-- `saveRounds`. -/
def saveRounds (_ph : PayloadHandler) : Bytes → String → Outcome := ignorePayload

/-- `saveValidatorsRating`. -/
def saveValidatorsRating (_ph : PayloadHandler) : Bytes → String → Outcome := ignorePayload

/-- `saveValidatorsPubKeys`. -/
def saveValidatorsPubKeys (_ph : PayloadHandler) : Bytes → String → Outcome := ignorePayload

/-- `saveAccounts`. -/
def saveAccounts (_ph : PayloadHandler) : Bytes → String → Outcome := ignorePayload

/-- `initActionsMap`: the handler's method for each topic. -/
def initActionsMap (ph : PayloadHandler) : GoMap String (Bytes → String → Outcome) :=
  List.toAList
    [⟨topicSaveBlock, ph.saveBlock⟩,
     ⟨topicRevertIndexedBlock, ph.revertIndexedBlock⟩,
     ⟨topicSaveRoundsInfo, ph.saveRounds⟩,
     ⟨topicSaveValidatorsRating, ph.saveValidatorsRating⟩,
     ⟨topicSaveValidatorsPubKeys, ph.saveValidatorsPubKeys⟩,
     ⟨topicSaveAccounts, ph.saveAccounts⟩,
     ⟨topicFinalizedBlock, ph.finalizedBlock⟩]

/-- `ProcessPayload(payload, topic, version)`. -/
def processPayload (ph : PayloadHandler) (payload : Bytes) (topic version : String) : Outcome :=
  match ph.initActionsMap.lookup topic with
  | none => (.ok (), [])
  | some payloadTypeAction => payloadTypeAction payload version

end PayloadHandler

open PayloadHandler in
/-- A handler built with processors for "v1" and "v2" answers a `SaveBlock` frame of version
"v3" with `ErrInvalidPayloadType`, not `ErrInvalidPayloadVersion`, calling no processor. -/
theorem processPayload_unknown_version :
    let p : DataProcessor := ⟨fun _ => .ok (), fun _ => .ok (), fun _ => .ok ()⟩
    ∃ ph, newPayloadHandler (some ()) [⟨"v1", p⟩, ⟨"v2", p⟩].toAList = .ok ph ∧
      ph.processPayload [] topicSaveBlock "v3" = (.error .errInvalidPayloadType, []) ∧
      GoError.errInvalidPayloadType ≠ .errInvalidPayloadVersion :=
  ⟨_, rfl, rfl, by decide⟩

end EventNotifier.Process
