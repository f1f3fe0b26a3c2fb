import MmorpgServer.Field.AoiReplica
import MmorpgServer.Field.AoiReaddTheorems
import MmorpgServer.Field.AoiCommute
import MmorpgServer.Field.AoiGeometry
import MmorpgServer.Field.FieldAoiSystemTheorems
import MmorpgServer.Storage.StorageSystemTheorems
import MmorpgServer.Storage.ThreadsTheorems
import MmorpgServer.Net.FramingTheorems
import MmorpgServer.Net.RoutingTheorems
import MmorpgServer.Worker.MonsterLifeTheorems
import MmorpgServer.Worker.DirtyTheorems
import MmorpgServer.Worker.ClientViewTheorems
import MmorpgServer.Storage.DbWorkerTheorems
import MmorpgServer.Game.PlayerManagerTheorems
import MmorpgServer.Game.GameServerTheorems
import MmorpgServer.Field.MonsterRateTheorems
import MmorpgServer.Field.MonsterReplicaTheorems
import MmorpgServer.Worker.SpeedTheorems
import MmorpgServer.Worker.FiniteTheorems
import MmorpgServer.Storage.DbWorkerCvTheorems
import MmorpgServer.Worker.CoreWorkerTheorems
import MmorpgServer.Storage.ConnectionsTheorems
import MmorpgServer.Storage.TickTheorems
import MmorpgServer.Storage.ShutdownTheorems
import MmorpgServer.Net.SendQueueTheorems
import MmorpgServer.Field.MonsterFleeTheorems
import MmorpgServer.Worker.SavedTheorems
import MmorpgServer.Storage.RedisPipelineTheorems
import MmorpgServer.Storage.RtPendingTheorems
import MmorpgServer.Field.MonsterPolicyTheorems
import MmorpgServer.Field.FsmMeleeEnvTheorems
import MmorpgServer.Worker.EnterTheorems
import MmorpgServer.Field.MonsterEcsTheorems
import MmorpgServer.Game.FieldServerTheorems
import MmorpgServer.Worker.NearTheorems
import MmorpgServer.Storage.JobsTheorems
import MmorpgServer.Worker.LedgerTheorems
import MmorpgServer.Field.FsmMeleeEpisodeTheorems
import MmorpgServer.Net.WireTheorems
import MmorpgServer.Field.MonsterFormationTheorems
import MmorpgServer.Field.MonsterSpeedTheorems
import MmorpgServer.Field.MonsterKillTheorems
import MmorpgServer.Worker.PreyTheorems
