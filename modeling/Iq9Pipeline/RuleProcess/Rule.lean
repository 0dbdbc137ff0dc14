import Iq9Pipeline.RuleProcess.DataTypes
import Iq9Pipeline.RuleProcess.MathUtils

/-!
What the rules read and what they share (`core/Rule.h`): the part of an event that
reaches them, their configuration, and the alerts they build.
-/

namespace Iq9Pipeline.RuleProcess

structure Sighting (Number : Type) where
  className : String
  bbox : List Number
  trackId : Int32
  confidence : Number
  embedding : List Number

structure RuleEvent (Number : Type) where
  sourceId : String
  timestamp : UInt64
  removedTrackIds : List Int32
  detections : List (Sighting Number)

def EventMeta.observed (event : EventMeta) : RuleEvent Float32 where
  sourceId := event.sourceId
  timestamp := event.timestamp
  removedTrackIds := event.removedTrackIds
  detections := event.detections.map fun detection => {
    className := detection.className
    bbox := detection.bbox
    trackId := detection.trackId
    confidence := detection.confidence
    embedding := detection.embedding }

structure RuleConfig (Number : Type) where
  name : String
  priority : Int32
  targetSources : List String
  targetClasses : List String
  params : List (String × Number)
  strParams : List (String × String)

abbrev Status := Except String Unit

namespace RuleConfig

variable {Number : Type} [Scalar Number]

def getParam (config : RuleConfig Number) (key : String) : Number :=
  (config.params.lookup key).getD 0.0

def hasParam (config : RuleConfig Number) (key : String) : Bool :=
  (config.params.lookup key).isSome

def getStrParam (config : RuleConfig Number) (key : String) : String :=
  (config.strParams.lookup key).getD ""

def buildAlert (config : RuleConfig Number) (event : RuleEvent Number) (trackId : Int32)
    (customDedupKey : String) : Alert where
  ruleName := config.name
  priority := config.priority
  dedupKey :=
    if customDedupKey.isEmpty then
      event.sourceId ++ "_" ++ config.name ++ "_" ++ toString trackId.toInt
    else customDedupKey
  trackId := trackId
  timestamp := event.timestamp

end RuleConfig

end Iq9Pipeline.RuleProcess
