import Cutover.Config.Load
import Cutover.Data.Table.Lemmas
import Cutover.Ensemble.Script
import Cutover.Json.Reader
import Cutover.Json.Writer
import Cutover.Process.Alone
import Cutover.Proofs.Config.Layers
import Cutover.Proofs.Connections.Grammar
import Cutover.Proofs.Fence.Idle
import Cutover.Proofs.Fence.Independence
import Cutover.Proofs.Fence.Refinement
import Cutover.Proofs.Formats.RoundTrip
import Cutover.Proofs.Sessions.Accounts
import Cutover.Proofs.Sessions.Chronicle
import Cutover.Proofs.Sessions.Failures
import Cutover.Proofs.Sessions.LockSlot
import Cutover.Proofs.Sessions.Rotation
import Cutover.Proofs.Storages.Bootstrap
import Cutover.Proofs.Storages.Deletions
import Cutover.Proofs.Storages.Frozen
import Cutover.Proofs.Timelines.Announcements
import Cutover.Proofs.Timelines.Brackets
import Cutover.Proofs.Timelines.Cursors
import Cutover.Proofs.Timelines.Foreign
import Cutover.Proofs.Timelines.LifeCycle
import Cutover.Proofs.Timelines.Listings
import Cutover.Proofs.Timelines.Lossless
import Cutover.Proofs.Timelines.Migration
import Cutover.Proofs.Timelines.Orders
import Cutover.Proofs.Timelines.Race
import Cutover.Proofs.Timelines.Swap
import Cutover.Proofs.Timelines.Undone
import Cutover.Proofs.Topics.Positions
import Cutover.Proofs.Topics.Successors
import Cutover.Simulation.Scenario
import Cutover.Text.Bytes
