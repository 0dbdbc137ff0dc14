import Iq9Pipeline.Packets

/-! The records that the rule process passes around (`core/DataTypes.h`). -/

namespace Iq9Pipeline.RuleProcess

structure Detection where
  className : String
  bbox : List Float32
  trackId : Int32
  confidence : Float32
  embedding : List Float32

structure EventMeta where
  sourceId : String
  sourceIdNum : Int32
  timestamp : UInt64
  removedTrackIds : List Int32
  detections : List Detection
  slotIndex : UInt32
  width : UInt32
  height : UInt32
  channels : UInt32
  timestampNs : UInt64

structure Alert where
  ruleName : String
  priority : Int32
  dedupKey : String
  trackId : Int32
  timestamp : UInt64
deriving DecidableEq, Repr

end Iq9Pipeline.RuleProcess
