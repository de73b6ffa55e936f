set_option autoImplicit false

namespace Cutover

inductive WorkerError where
  | topicNotFound (topic : String)
  | noWorker (storage : String)
  | backend (reason : String)
  deriving DecidableEq

namespace WorkerError

def message : WorkerError → String
  | .topicNotFound topic => "Topic not found: " ++ topic
  | .noWorker storage => "No worker for storage " ++ storage
  | .backend reason => "Storage backend error: " ++ reason

end WorkerError

end Cutover
