import NeoSwift.Fsd.Client.TokenAccess
import NeoSwift.Fsd.Client.Confidentiality
import NeoSwift.Afv.Connection.ClientConnection
import NeoSwift.Misc.DataCache.Convergence
import NeoSwift.Misc.ValueCache.Synchronisation
import NeoSwift.Fsd.Client.FlightPlan
import NeoSwift.Core.AirspaceAnalyzer
import NeoSwift.Misc.SharedState.Requests
import NeoSwift.Core.AircraftMatcher.DisabledModels
import NeoSwift.Core.AircraftMatcher.DefaultModel
import NeoSwift.Core.AircraftMatcher.CategoryMatcher
import NeoSwift.Core.AirspaceMonitor.Departure
import NeoSwift.Misc.Simulation.Interpolation.InterpolatedTime
import NeoSwift.Misc.TimestampObjectList.Latest
import NeoSwift.Fsd.Client.OffsetTimes
import NeoSwift.Misc.TokenBucket
import NeoSwift.Fsd.Message.PlaneTexts
import NeoSwift.Fsd.Client.TextMessages
import NeoSwift.Fsd.Message.VisualPilotData
import NeoSwift.Fsd.PbhSteps
import NeoSwift.XSwiftBus.FollowPlane
import NeoSwift.Misc.Mixin.Hash
import NeoSwift.Misc.Simulation.Interpolation.InterpolatorSpline
import NeoSwift.Misc.Weather.MetarDecoder.RoundTrip
import NeoSwift.Misc.Weather.MetarDecoder.Termination
import NeoSwift.Misc.OrderableList
import NeoSwift.Misc.Sequence
import NeoSwift.Misc.Algorithm
import NeoSwift.Aviation.ComSystem
import NeoSwift.Aviation.FpAltitude
import NeoSwift.Misc.Simulation.PartsJson
import NeoSwift.Aviation.FlightPlanRemarks
import NeoSwift.Misc.Simulation.Interpolation.InterpolationSetupProvider
import NeoSwift.Misc.Simulation.Interpolation.SceneryDeviation
import NeoSwift.Misc.Simulation.SimulationEnvironment.CenterOfGravity
import NeoSwift.Misc.Simulation.SimulationEnvironment.Elevations
import NeoSwift.Aviation.AircraftSituationList
import NeoSwift.Misc.SimpleCommandParser
import NeoSwift.Misc.FuzzyComparison
import NeoSwift.Misc.DateTimeParsing
import NeoSwift.Misc.Db.DatastoreObjectList
import NeoSwift.Misc.Simulation.MemoizedList
import NeoSwift.Misc.Simulation.MemoizedImport
import NeoSwift.Pq.Comparison
import NeoSwift.Geo.Wgs84RoundTrip
import NeoSwift.Misc.Simulation.FsCommon.AircraftCfgParser
import NeoSwift.Afv.Audio.Input
import NeoSwift.Afv.Audio.ReceiverSampleProvider
import NeoSwift.Sound.Wav.WavFile
import NeoSwift.XSwiftBus.Service
import NeoSwift.XSwiftBus.BulkCalls
import NeoSwift.Misc.Simulation.RememberedCg
import NeoSwift.Misc.Simulation.Interpolation.InterpolatorLinearPbh
import NeoSwift.Misc.ValueCache.ChangeWalk
import NeoSwift.Misc.Algorithm.Sampling
import NeoSwift.Misc.Sequence.MaxElements
import NeoSwift.Fsd.Client.Stream
import NeoSwift.Misc.LockFree
import NeoSwift.Misc.SharedState.ListJournal
import NeoSwift.Misc.StatusMessage
import NeoSwift.Afv.Connection.VoiceChannel
