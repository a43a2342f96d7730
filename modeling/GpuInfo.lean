import GpuInfo.Binary64
import GpuInfo.Budget.AdmissionAccounting
import GpuInfo.Budget.Shares
import GpuInfo.Budget.VramPlan
import GpuInfo.CallProgram
import GpuInfo.External.SharedBufferLifetimes
import GpuInfo.FileSystem
import GpuInfo.FuelProgram
import GpuInfo.Devices.NegotiationRuns
import GpuInfo.Image.RoundTrip
import GpuInfo.Interleaving
import GpuInfo.KeyedTable
import GpuInfo.Limits.Tiling
import GpuInfo.MachineInteger
import GpuInfo.OnceCellRuns
import GpuInfo.Os.LinuxBudget
import GpuInfo.Os.MacosBudget
import GpuInfo.PipelineCache.RegistryRuns
import GpuInfo.PipelineCache.WholeFile
import GpuInfo.Pool.GateAdmission
import GpuInfo.Pool.ResourcePoolAccounting
import GpuInfo.Pool.ResourcePoolAlone
import GpuInfo.Pool.ResourcePoolConservation
import GpuInfo.Pool.ResourcePoolOrder
import GpuInfo.Pool.TextureKey
import GpuInfo.Pool.WorkspaceLeases
import GpuInfo.Report.DiffExact
import GpuInfo.Resources.Accounting
import GpuInfo.Resources.Destruction
import GpuInfo.Resources.PrepareRollback
import GpuInfo.Resources.Reuse
import GpuInfo.Resources.TextureBytes
import GpuInfo.SharedVk.ComputeDevice
import GpuInfo.SharedVk.QueueChoice
import GpuInfo.Stats.BusiestEngine
import GpuInfo.Stats.IoRegistryOwnership
import GpuInfo.Vram.AdapterLuid
import GpuInfo.Vram.WatchAnswers
import GpuInfo.Vram.WatchNotices
import GpuInfo.Wait.BindLockRuns
import GpuInfo.Wait.EncodingRejection
import GpuInfo.Wait.Guarantees
import GpuInfo.Wait.QueuePoison
import GpuInfo.Wait.QueueRule
import GpuInfo.Wait.RecoveryFences
import GpuInfo.Wait.ScopePolling
import GpuInfo.Wait.Shutdown
import GpuInfo.Wait.SubmitAccounting
