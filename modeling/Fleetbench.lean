import Fleetbench.Library.Vector
import Fleetbench.Library.SumTree
import Fleetbench.Tcmalloc.Empirical
import Fleetbench.Tcmalloc.Eager
import Fleetbench.Tcmalloc.Symbolic
import Fleetbench.Tcmalloc.Recording
import Fleetbench.Tcmalloc.UpdateVectors
import Fleetbench.Tcmalloc.Replay
import Fleetbench.Tcmalloc.Refinement
import Fleetbench.Library.Reservation
import Fleetbench.Library.Transition
import Fleetbench.Parallel.Run
import Fleetbench.Parallel.Worker
import Fleetbench.Parallel.Scheduler
import Fleetbench.Parallel.Ownership
import Fleetbench.Parallel.Exclusivity
import Fleetbench.Parallel.Leak
import Fleetbench.Parallel.Delivery
import Fleetbench.Parallel.Shutdown
import Fleetbench.Parallel.Progress
import Fleetbench.Library.Dict
import Fleetbench.Parallel.Collection
import Fleetbench.Parallel.Ending
import Fleetbench.Library.Traverse
import Fleetbench.Parallel.Reporter
import Fleetbench.Parallel.FinalReport
import Fleetbench.Libc.Placement
import Fleetbench.Libc.Marking
import Fleetbench.Compression.GzipHeader
import Fleetbench.Library.Decoder
import Fleetbench.Compression.HeaderChunks
import Fleetbench.Compression.Uncompress
import Fleetbench.Library.LittleEndian
import Fleetbench.Compression.Member
import Fleetbench.Compression.ChunkedMember
import Fleetbench.Compression.Acceptance
import Fleetbench.Compression.HeaderLayout
import Fleetbench.Compression.Compress
import Fleetbench.Compression.Calls
import Fleetbench.Compression.InProgress
import Fleetbench.Compression.StoredDeflate
import Fleetbench.Tcmalloc.Sampling
import Fleetbench.Compression.Reuse
import Fleetbench.Compression.CompressAlike
import Fleetbench.Compression.UncompressAlike
import Fleetbench.Library.Machine
import Fleetbench.Tcmalloc.Decisions
import Fleetbench.Tcmalloc.Accounting
import Fleetbench.Rpc.GrpcClient
import Fleetbench.Rpc.Inflight
import Fleetbench.Rpc.Session
import Fleetbench.Rpc.Settled
import Fleetbench.Rpc.Finishing
import Fleetbench.Compression.Reinit
import Fleetbench.Compression.OneShot
import Fleetbench.Compression.WrittenMember
import Fleetbench.Compression.RoundTrip
import Fleetbench.Compression.Reported
import Fleetbench.Compression.Lengths
import Fleetbench.Library.Loop
import Fleetbench.Compression.Brotli
import Fleetbench.Compression.BrotliStream
import Fleetbench.Compression.BrotliRoundTrip
import Fleetbench.Libc.Mismatch
import Fleetbench.Libc.Sizes
import Fleetbench.Libc.Repair
import Fleetbench.Libc.Quantiles
import Fleetbench.Libc.Samples
import Fleetbench.Libc.Lru
import Fleetbench.Libc.Retry
import Fleetbench.Parallel.Probabilities
import Fleetbench.Library.Shares
import Fleetbench.Parallel.TargetRatios
import Fleetbench.Parallel.Weights
import Fleetbench.Parallel.WorkloadWeights
import Fleetbench.Parallel.Specs
import Fleetbench.Parallel.GivenWeights
import Fleetbench.Parallel.BenchmarkWeights
import Fleetbench.Parallel.Selection
import Fleetbench.Parallel.Lookup
import Fleetbench.Parallel.NextBenchmarks
import Fleetbench.Parallel.CpuInfo
import Fleetbench.Library.Fill
import Fleetbench.Parallel.CpuScheduling
import Fleetbench.Parallel.CpuSelection
import Fleetbench.Library.Window
import Fleetbench.Swissmap.EraseInsertHot
import Fleetbench.Library.Sweep
import Fleetbench.Swissmap.EraseInsertCold
import Fleetbench.Swissmap.Transpose
import Fleetbench.Swissmap.ColdSchedule
import Fleetbench.Swissmap.Keys
import Fleetbench.Swissmap.GenerateSets
import Fleetbench.Swissmap.HotBatches
import Fleetbench.Corpora.Chunks
import Fleetbench.Corpora.ChunkArray
import Fleetbench.Corpora.LookupTable
import Fleetbench.Compression.Registration
import Fleetbench.Tcmalloc.InPlace
import Fleetbench.Library.Ledger
import Fleetbench.Tcmalloc.Lifetime
import Fleetbench.Tcmalloc.Driver
import Fleetbench.Library.Codec
import Fleetbench.Compression.Compressors
import Fleetbench.Compression.RawFrames
import Fleetbench.Compression.Benchmarks
import Fleetbench.Library.SortedSet
import Fleetbench.Compression.Corpus
import Fleetbench.Compression.Suite
import Fleetbench.Swissmap.Misses
import Fleetbench.Swissmap.IterateCold
import Fleetbench.Library.Memo
import Fleetbench.Swissmap.SetsCache
import Fleetbench.Swissmap.CacheRuns
