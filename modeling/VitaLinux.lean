import VitaLinux.Base.Spacing
import VitaLinux.Base.Machine
import VitaLinux.Cart.V01
import VitaLinux.Cart.NoHardCuts
import VitaLinux.Cart.FadeTiming
import VitaLinux.Base.Synchronisation
import VitaLinux.Cart.WorkerPool
import VitaLinux.Cart.PoolInvariant
import VitaLinux.Cart.PoolWorkers
import VitaLinux.Cart.PoolDispatcher
import VitaLinux.Cart.PoolProtocol
import VitaLinux.Toolkit.Dashboard.FbOwner
import VitaLinux.Toolkit.Dashboard.Ownership
import VitaLinux.Cart.Input.Discovery
import VitaLinux.Cart.Input.Poll
import VitaLinux.Base.Handles
import VitaLinux.Cart.Input.Calls
import VitaLinux.Cart.Input.Descriptors
import VitaLinux.Base.Slots
import VitaLinux.Cart.Input.OneSource
import VitaLinux.Base.Framing
import VitaLinux.Cart.Input.Streams
import VitaLinux.Cart.Input.SourceProgress
import VitaLinux.Cart.Input.Pumping
import VitaLinux.Cart.Input.Chunking
import VitaLinux.Base.Decimal
import VitaLinux.Toolkit.Control.RateState
import VitaLinux.Toolkit.Control.Next
import VitaLinux.Toolkit.Control.Overtaking
import VitaLinux.Base.Programs
import VitaLinux.Cart.DemoCart.Scripts
import VitaLinux.Cart.DemoCart.Commands
import VitaLinux.Cart.DemoCart.Console
import VitaLinux.Cart.DemoCart.Framebuffer
import VitaLinux.Tools.Calls
import VitaLinux.Tools.DeployPayload
import VitaLinux.Tools.HardwareGate
import VitaLinux.Tools.Server
import VitaLinux.Tools.Preservation
import VitaLinux.Tools.Atomicity
import VitaLinux.Tools.Verdict
import VitaLinux.Cart.FlashCheck.Analysis
import VitaLinux.Cart.FlashCheck.Luminance
import VitaLinux.Cart.FlashCheck.Checker
import VitaLinux.Cart.FlashCheck.VideoMode
import VitaLinux.Cart.FlashCheck.FailClosed
import VitaLinux.Cart.FlashCheck.SameLaw
import VitaLinux.Base.Lines
import VitaLinux.Toolkit.Awk
import VitaLinux.Toolkit.Session.Script
import VitaLinux.Toolkit.Session.Box
import VitaLinux.Toolkit.Session.Start
import VitaLinux.Toolkit.Session.Endings
import VitaLinux.Toolkit.Session.AllOrNothing
import VitaLinux.Toolkit.Session.Stop
import VitaLinux.Toolkit.Session.Balance
import VitaLinux.Cart.FlashCheck.Verdict
import VitaLinux.Cart.Pacing
import VitaLinux.Cart.ScenePolicy
import VitaLinux.Base.Grid
import VitaLinux.Cart.PpmFiles
import VitaLinux.Cart.Presentation
import VitaLinux.Toolkit.Fbserve
import VitaLinux.Cart.FrameViews
import VitaLinux.Base.BoundedQueue
import VitaLinux.Cart.Input.ActionQueue
import VitaLinux.Cart.Input.ActionDelivery
import VitaLinux.Cart.Input.DeviceAccount
import VitaLinux.Cart.Input.DeviceModel
import VitaLinux.Cart.Input.EventFraming
import VitaLinux.Toolkit.Session.Report
import VitaLinux.Toolkit.Session.Verification
import VitaLinux.Cart.Input.Emission
import VitaLinux.Base.DeadBand
import VitaLinux.Base.SignedArithmetic
import VitaLinux.Cart.InputNormalize
import VitaLinux.Cart.Input.AxisArithmetic
import VitaLinux.Cart.Rasterisation
import VitaLinux.Base.Blend
import VitaLinux.Cart.FadeSmoothness
import VitaLinux.Cart.FrameWrap
import VitaLinux.Cart.Scene2dChecked
import VitaLinux.Cart.SceneArithmetic
import VitaLinux.Cart.OverlayArithmetic
import VitaLinux.Cart.Input.Generations
import VitaLinux.Base.InsertionSort
import VitaLinux.Base.Placement
import VitaLinux.Cart.Input.Frame
import VitaLinux.Cart.Input.RankOrder
import VitaLinux.Cart.Input.Selection
import VitaLinux.Cart.BandTiling
import VitaLinux.Cart.PoolFailure
import VitaLinux.Toolkit.Control.Sequential
import VitaLinux.Toolkit.Control.WriteFailures
import VitaLinux.Base.Receiving
import VitaLinux.Base.Words
import VitaLinux.Toolkit.FbserveRequest
import VitaLinux.Toolkit.Dashboard.Geometry
import VitaLinux.Base.Footprint
import VitaLinux.Toolkit.Dashboard.Clipping
import VitaLinux.Base.XorSum
import VitaLinux.Toolkit.Bench
import VitaLinux.Base.Parts
import VitaLinux.Cart.FlashCheck.CellCover
import VitaLinux.Base.Quoted
import VitaLinux.Toolkit.Storage
import VitaLinux.Toolkit.StorageReport
import VitaLinux.Cart.Rotations
import VitaLinux.Base.Delimited
import VitaLinux.Tools.SerialLog
import VitaLinux.Base.LexicalPaths
import VitaLinux.Toolkit.PathGuards
import VitaLinux.Base.ParentSteps
import VitaLinux.Toolkit.Dev
import VitaLinux.Toolkit.DevContainment
import VitaLinux.Base.Hexadecimal
import VitaLinux.Base.Extents
import VitaLinux.Tools.ElfListings
import VitaLinux.Tools.Initramfs
import VitaLinux.Base.FileTrees
import VitaLinux.Tools.ToolchainManifest
import VitaLinux.Tools.ToolchainListing
import VitaLinux.Tools.ToolkitImage
import VitaLinux.Base.Lockstep
import VitaLinux.Toolkit.Dashboard.Overdraw
import VitaLinux.Toolkit.Dashboard.Input
import VitaLinux.Toolkit.Dashboard.Screens
import VitaLinux.Toolkit.Dashboard.Blank
import VitaLinux.Toolkit.Dashboard.Main
import VitaLinux.Toolkit.Dashboard.Passes
import VitaLinux.Toolkit.Dashboard.Runs
import VitaLinux.Toolkit.Dashboard.Shows
import VitaLinux.Toolkit.Dashboard.Pictures
import VitaLinux.Base.Reporting
import VitaLinux.Base.Globs
import VitaLinux.Cart.Provenance.Baseline
import VitaLinux.Cart.Provenance.VerifyBaseline
import VitaLinux.Cart.Provenance.Certified
import VitaLinux.Cart.Provenance.LineOrder
import VitaLinux.Base.Following
import VitaLinux.Tools.BootWatch
import VitaLinux.Tools.BootRuns
import VitaLinux.Tools.SerialBoot
import VitaLinux.Toolkit.Inputwatch
import VitaLinux.Toolkit.InputwatchReports
