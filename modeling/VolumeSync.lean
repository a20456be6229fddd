import VolumeSync.Config
import VolumeSync.Endpoint
import VolumeSync.Json.Reader
import VolumeSync.Proofs.Interleaving
import VolumeSync.Proofs.TagSync
import VolumeSync.Snapshot.Json
import VolumeSync.Watcher
import VolumeSync.Proofs.OneThread
import VolumeSync.Proofs.AnyOrder
import VolumeSync.Proofs.Isolation
import VolumeSync.Proofs.LastSent
import VolumeSync.Proofs.Relisting
import VolumeSync.Proofs.Traffic
import VolumeSync.Proofs.ForeignVolumes
import VolumeSync.Proofs.SnapshotText
import VolumeSync.Proofs.Delivery
import VolumeSync.Proofs.AcceptedConfig
import VolumeSync.Proofs.Accounting
import VolumeSync.Proofs.ObjectChanges
import VolumeSync.Proofs.RequestPath
import VolumeSync.Proofs.TwoPhases
import VolumeSync.Proofs.TagList
import VolumeSync.Proofs.DescriptorSources
import VolumeSync.Proofs.Gibibytes
import VolumeSync.Proofs.StrictReading
import VolumeSync.Proofs.ChangeGate
import VolumeSync.Proofs.VolumeUrls
import VolumeSync.Proofs.QuantityFaults
import VolumeSync.Proofs.ConfigReading
import VolumeSync.Proofs.WatcherRuns
