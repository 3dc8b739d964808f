import Mathlib.Logic.Basic

/-!
# Transport responses

The sync objects of `Source/Synchronization` never look at an HTTP status
directly: they switch over `ZMTransportResponse.result`, whose five classes
come from the transport layer.  Every completion handler below is a function
of this class (and of the transcoder's answers), so the class is the only
part of a response the models carry.
-/

namespace ZMessaging

/-- `ZMTransportResponseStatus`: the result class of a completed request. -/
inductive ZMTransportResponseStatus
  | success
  | temporaryError
  | tryAgainLater
  | expired
  | permanentError
  deriving DecidableEq, Repr

end ZMessaging
