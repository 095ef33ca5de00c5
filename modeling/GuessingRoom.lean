import GuessingRoom.Http.Site
import GuessingRoom.Proofs.AcceptedNotices
import GuessingRoom.Proofs.Activity
import GuessingRoom.Proofs.CanonicalRecords
import GuessingRoom.Proofs.CaseRule
import GuessingRoom.Proofs.CreationOrder
import GuessingRoom.Proofs.DeliveryLaw
import GuessingRoom.Proofs.Discretion
import GuessingRoom.Proofs.EventFrames
import GuessingRoom.Proofs.FailedRequests
import GuessingRoom.Proofs.FeedContract
import GuessingRoom.Proofs.FeedTraffic
import GuessingRoom.Proofs.GamesApart
import GuessingRoom.Proofs.Guestbook
import GuessingRoom.Proofs.Kicks
import GuessingRoom.Proofs.LiveStreams
import GuessingRoom.Proofs.MigrationRuns
import GuessingRoom.Proofs.NoticeCodec
import GuessingRoom.Proofs.Posts
import GuessingRoom.Proofs.PublishLaw
import GuessingRoom.Proofs.RoomCapacity
import GuessingRoom.Proofs.ScoreIntegrity
import GuessingRoom.Proofs.ScoringLaw
import GuessingRoom.Proofs.SeatingOrder
import GuessingRoom.Proofs.SettingsReading
import GuessingRoom.Proofs.Shutdown
import GuessingRoom.Proofs.StreamRelease
import GuessingRoom.Proofs.StuckTurns
import GuessingRoom.Proofs.TurnEnds
import GuessingRoom.Proofs.TwoStores
import GuessingRoom.Proofs.UnitsOfWork
import GuessingRoom.Proofs.WellFormedStore
import GuessingRoom.Service.Settle
import GuessingRoom.Settings
import GuessingRoom.Store.Relational.Edit
