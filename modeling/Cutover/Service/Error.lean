import Cutover.Ensemble.Error
import Cutover.Fence.Error
import Cutover.Store.Error
import Cutover.Worker.Error

set_option autoImplicit false

namespace Cutover

/-- The broad class of an error. -/
inductive ErrorKind where
  | invalidArgument
  | invalidState
  | notFound
  | configuration
  | unavailable
  | timeout
  | internal
  deriving DecidableEq

inductive TimelineError where
  | storageNotFound (id : String)
  | timelineNotFound (id : Uuid)
  | eventTypeNotFound (name : String)
  | noDefaultStorage
  | invalidConfiguration (reason : String)
  | storageTypeChange (id : String)
  | storageInUse (id : String)
  | firstTimelineNotOnDefault (id : String)
  | eventTypeMismatch (actual provided : String)
  | notFirstTimeline (id : Uuid)
  | notLatestTimeline (id : Uuid)
  | concurrentUpdate (eventType : String)
  | fence (error : FenceError)
  | ensemble (error : EnsembleError)
  | store (error : StoreError)
  | worker (error : WorkerError)
  deriving DecidableEq

namespace TimelineError

/-- A store error as the operations report it: an unknown event type and a conflict are rules of
their own. -/
def ofStore : StoreError → TimelineError
  | .eventTypeNotFound name => .eventTypeNotFound name
  | .conflict eventType => .concurrentUpdate eventType
  | other => .store other

def kind : TimelineError → ErrorKind
  | .storageNotFound _ => .notFound
  | .timelineNotFound _ => .notFound
  | .eventTypeNotFound _ => .notFound
  | .noDefaultStorage => .configuration
  | .invalidConfiguration _ => .configuration
  | .storageTypeChange _ => .invalidState
  | .storageInUse _ => .invalidState
  | .firstTimelineNotOnDefault _ => .invalidArgument
  | .eventTypeMismatch _ _ => .invalidArgument
  | .notFirstTimeline _ => .invalidState
  | .notLatestTimeline _ => .invalidState
  | .concurrentUpdate _ => .invalidState
  | .fence (.timeout _ _) => .timeout
  | .fence _ => .unavailable
  | .ensemble error => if error.isConfiguration then .configuration else .unavailable
  | .store _ => .internal
  | .worker _ => .internal

def message : TimelineError → String
  | .storageNotFound id => "Storage with id " ++ id ++ " is not found"
  | .timelineNotFound id => "Timeline with id " ++ id.text ++ " is not found"
  | .eventTypeNotFound name => "Event type " ++ name ++ " is not found"
  | .noDefaultStorage => "No default storage is configured"
  | .invalidConfiguration reason => "Invalid configuration: " ++ reason
  | .storageTypeChange id => "Can not change storage type for " ++ id
  | .storageInUse id => "Timelines are present for storage " ++ id
  | .firstTimelineNotOnDefault id =>
      "The very first change should go to default storage, got " ++ id
  | .eventTypeMismatch actual provided =>
      "Timeline event type: " ++ actual ++ ", provided: " ++ provided
  | .notFirstTimeline _ => "Can remove only the very first timeline"
  | .notLatestTimeline id => "Timeline " ++ id.text ++ " is not the latest one"
  | .concurrentUpdate eventType =>
      "Timelines of " ++ eventType ++ " changed concurrently, retry the operation"
  | .fence error => "Timeline update fence failed: " ++ error.message
  | .ensemble error => error.message
  | .store error => "Store error: " ++ error.message
  | .worker error => "Storage worker error: " ++ error.message

end TimelineError

end Cutover
