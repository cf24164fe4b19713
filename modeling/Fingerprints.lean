import Fingerprints.Db.Basic
import Fingerprints.Db.Bounds
import Fingerprints.Db.Image
import Fingerprints.Db.Ops
import Fingerprints.Db.Ownership
import Fingerprints.Db.Pack
import Fingerprints.Db.RoundTrip
import Fingerprints.Db.AddFingerprint
import Fingerprints.Db.BufferLength
import Fingerprints.Db.Unpack
import Fingerprints.Db.WellFormed
import Fingerprints.Runs.History
import Fingerprints.Runs.Lineage
import Fingerprints.Ta.State
import Fingerprints.Types
import Fingerprints.Wire.Cursor
import Fingerprints.Wire.Message
import Fingerprints.Wire.Outcome
import Fingerprints.Wire.Word
import Fingerprints.Ta.Platform
import Fingerprints.Ta.HwAuth
import Fingerprints.Ta.Bio
import Fingerprints.Ta.DbBlob
import Fingerprints.Ta.Fs
import Fingerprints.Ta.Pn
import Fingerprints.Ta.Router
import Fingerprints.Ta.Effects
import Fingerprints.Ta.Enrolment
import Fingerprints.Ta.Identify
import Fingerprints.Ta.FingerLineage
import Fingerprints.Ta.MatchOrder
import Fingerprints.Ta.DbChanges
import Fingerprints.Ta.OwnedTemplates
import Fingerprints.Ta.OwnImages
import Fingerprints.Tac.DbViews
import Fingerprints.Tac.ExternalIds
import Fingerprints.Ta.FailedUpdate
import Fingerprints.Ta.PnImages
import Fingerprints.Ta.FingerRecords
import Fingerprints.Ta.TemplateUpdates
import Fingerprints.Ta.AuthToken
import Fingerprints.Ta.TokenIdentity
import Fingerprints.Ta.MessageBounds
import Fingerprints.Ta.Transfer
import Fingerprints.Ta.Snapshot
import Fingerprints.Tac.Client
import Fingerprints.Wire.Loop
import Fingerprints.Db.Errors
import Fingerprints.Tac.HostStorage
import Fingerprints.Tac.Chunks
import Fingerprints.Tac.Storage
import Fingerprints.Tac.SecureStorage
import Fingerprints.Ta.DatabaseId
import Fingerprints.Ta.EndEnrol
import Fingerprints.Ta.UserDb
import Fingerprints.Tac.Bio
import Fingerprints.Hal.Device
import Fingerprints.Hal.Enrol
import Fingerprints.Hal.Calls
import Fingerprints.Hal.AuthenticatorId
import Fingerprints.Hal.Groups
import Fingerprints.Heap.Ledger
import Fingerprints.Db.Blocks
import Fingerprints.Db.DecodeBlocks
import Fingerprints.Ta.HeapOps
import Fingerprints.Ta.BufferOps
import Fingerprints.Ta.OneOwner
import Fingerprints.Ta.Calibration
import Fingerprints.Tac.StorageSteps
import Fingerprints.Tac.BlobCommands
import Fingerprints.Tac.AtomicStore
import Fingerprints.Ta.FileWrite
import Fingerprints.Tac.SecureStore
import Fingerprints.Fmi.File
import Fingerprints.Fmi.RoundTrip
import Fingerprints.Fmi.Walk
import Fingerprints.Fmi.Tiling
import Fingerprints.Tac.FingerIds
import Fingerprints.Hal.Removal
import Fingerprints.Hal.SenseTouch
import Fingerprints.Hal.Sensortest
import Fingerprints.Hal.AuthSession
import Fingerprints.Hal.Engineering
import Fingerprints.Hal.CaptureTasks
import Fingerprints.Hal.CaptureRecords
import Fingerprints.Hal.Exclusion
import Fingerprints.Hal.RecalibrationRuns
import Fingerprints.Hal.CalibrationEnd
import Fingerprints.Hal.Navigation
import Fingerprints.Hal.NavCollisions
import Fingerprints.Hal.NavCalls
import Fingerprints.Hal.Worker
import Fingerprints.Hal.PnFile
import Fingerprints.Runs.Recall
import Fingerprints.Ta.CircularLog
import Fingerprints.Wire.Access
import Fingerprints.Ta.FsReads
import Fingerprints.Wire.Parcel
import Fingerprints.Hal.SensorParcels
import Fingerprints.Runs.Script
import Fingerprints.Runs.Monitor
import Fingerprints.Hal.Capture
import Fingerprints.Hal.Cancellation
import Fingerprints.Hal.CancelledTasks
import Fingerprints.Tac.Tokens
import Fingerprints.Hal.Authentication
import Fingerprints.Hal.EnrolTokens
import Fingerprints.Runs.Simulation
import Fingerprints.Runs.Inventory
import Fingerprints.Ta.FingerStock
import Fingerprints.Hal.SensorTests
import Fingerprints.Hal.SensorTestRuns
import Fingerprints.Runs.Handlers
import Fingerprints.Ta.Sensor
import Fingerprints.Hal.CapturePath
