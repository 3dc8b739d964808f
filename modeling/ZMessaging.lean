import ZMessaging.StepSystem
import ZMessaging.SingleRequestSync
import ZMessaging.RemoteIdentifierObjectSync
import ZMessaging.LocallyModifiedObjectSet
import ZMessaging.UpstreamModifiedObjectSync
import ZMessaging.UpstreamInsertedObjectSync
import ZMessaging.Typing
import ZMessaging.HotFix
import ZMessaging.MissingClients
import ZMessaging.SyncStateMachine
import ZMessaging.CallTimer
import ZMessaging.StringSplitting
import ZMessaging.EncodedUUID
import ZMessaging.Search
import ZMessaging.LocalNotifications
import ZMessaging.PingBack
import ZMessaging.UserClientRequestStrategy
import ZMessaging.AddressBookEncoder
import ZMessaging.Traces
import ZMessaging.FileUploadRequestStrategy
import ZMessaging.FileUploadOutcomes
import ZMessaging.ListRequestPaginator
import ZMessaging.CursorLog
import ZMessaging.MissingUpdateEvents
import ZMessaging.NotificationCatchUp
import ZMessaging.DownstreamObjectSync
import ZMessaging.DownstreamObjectSyncWithWhitelist
import ZMessaging.TimedSingleRequestSync
import ZMessaging.IncompleteConversations
