import Motogram.Party.Speech
import Motogram.Party.Leadership
import Motogram.Party.Sweep
import Motogram.Party.Invites
import Motogram.Party.Clearing
import Motogram.Party.ElectionLock
import Motogram.Party.Broadcasts
import Motogram.Party.Succession
import Motogram.Auth.OtpRequests
import Motogram.Auth.SingleUse
import Motogram.Auth.Revocation
import Motogram.Auth.Outages
import Motogram.Mobile.Session
import Motogram.Mobile.Deletions
import Motogram.Mobile.Refreshes
import Motogram.Mobile.SignedOut
import Motogram.Mobile.Copies
import Motogram.Mobile.LateUpdate
import Motogram.Auth.OtpAttempts
import Motogram.Messaging.Direct
import Motogram.Messaging.CommunityChat
import Motogram.Social.Search
import Motogram.Social.Removals
import Motogram.Account.Redemption
import Motogram.Account.Cascade
import Motogram.Account.Grace
import Motogram.Account.Reprieve
import Motogram.Communities.Hiding
import Motogram.Events.Terms
import Motogram.Events.Racing
import Motogram.Notifications.Outlets
import Motogram.Gamification.Awards
import Motogram.Gamification.Overlap
import Motogram.Fanout.Replay
import Motogram.FeatureFlags.Overlap
import Motogram.FeatureFlags.Responses
import Motogram.AbTests.Deletion
import Motogram.Listings.Keyset
import Motogram.Listings.Cursors
import Motogram.Account.Usernames
import Motogram.Location.CachedModes
import Motogram.Location.Sweep
import Motogram.Location.NearestRiders
import Motogram.Events.NearestEvents
import Motogram.Events.Fairness
import Motogram.Garage.Motorcycles
import Motogram.Emergency.Acknowledgement
import Motogram.RateLimits.Recovery
import Motogram.Messaging.Invites
import Motogram.Messaging.LastRead
import Motogram.Messaging.Receipts
import Motogram.Messaging.Leaving
import Motogram.Party.Choice
import Motogram.AbTests.Shares
import Motogram.Media.Finalize
import Motogram.Notifications.Updates
import Motogram.Mobile.Likes
import Motogram.Gamification.ResetDates
import Motogram.Social.FollowRaces
import Motogram.Party.Stranded
import Motogram.Moderation.Audit
