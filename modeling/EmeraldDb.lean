import EmeraldDb.Bson.Base64
import EmeraldDb.Bson.Builder
import EmeraldDb.Bson.Iterator
import EmeraldDb.Bson.Json
import EmeraldDb.Bson.Object
import EmeraldDb.Client.Command
import EmeraldDb.Client.Shell
import EmeraldDb.Core
import EmeraldDb.Dms.DmsFile
import EmeraldDb.Dms.FileView
import EmeraldDb.Dms.InsertThreads
import EmeraldDb.Dms.Page
import EmeraldDb.Dms.PageView
import EmeraldDb.Dms.Session
import EmeraldDb.Dms.StoreThreads
import EmeraldDb.Lib.ByteMemory
import EmeraldDb.Lib.CString
import EmeraldDb.Lib.Caller
import EmeraldDb.Lib.Decimal
import EmeraldDb.Lib.Guarded
import EmeraldDb.Lib.Linearizable
import EmeraldDb.Lib.Multimap
import EmeraldDb.Lib.Run
import EmeraldDb.Lib.SelfSized
import EmeraldDb.Lib.Spelling
import EmeraldDb.Msg.Message
import EmeraldDb.Oss.Latch
import EmeraldDb.Oss.MmapFile
import EmeraldDb.Oss.PrimitiveFileOp
import EmeraldDb.Oss.Queue
import EmeraldDb.Oss.Socket
import EmeraldDb.Pd.Log
import EmeraldDb.Pmd.Agent
import EmeraldDb.Pmd.AgentSession
import EmeraldDb.Pmd.AgentThreads
import EmeraldDb.Pmd.EduAccess
import EmeraldDb.Pmd.EduMgr
import EmeraldDb.Pmd.EduOperations
import EmeraldDb.Pmd.EduShutdown
import EmeraldDb.Pmd.EduSystem
import EmeraldDb.Pmd.Lifetimes
import EmeraldDb.Pmd.Options
import EmeraldDb.Pmd.ReceiveBuffer
import EmeraldDb.Pmd.Server
import EmeraldDb.Pmd.TcpListener
import EmeraldDb.Pmd.Transfer
import EmeraldDb.Proofs.AgentRequest
import EmeraldDb.Proofs.AgentSession
import EmeraldDb.Proofs.AgentThreads
import EmeraldDb.Proofs.AnyIndex
import EmeraldDb.Proofs.Base64
import EmeraldDb.Proofs.BsonBuilder
import EmeraldDb.Proofs.BsonFormat
import EmeraldDb.Proofs.BsonLookup
import EmeraldDb.Proofs.BsonStream
import EmeraldDb.Proofs.BuilderBounds
import EmeraldDb.Proofs.BulkInsert
import EmeraldDb.Proofs.ClientReply
import EmeraldDb.Proofs.CommandLine
import EmeraldDb.Proofs.Compaction
import EmeraldDb.Proofs.CompleteReply
import EmeraldDb.Proofs.EduAccess
import EmeraldDb.Proofs.EduChange
import EmeraldDb.Proofs.EduContracts
import EmeraldDb.Proofs.EduFlags
import EmeraldDb.Proofs.EduForce
import EmeraldDb.Proofs.EduHandover
import EmeraldDb.Proofs.EduIdentity
import EmeraldDb.Proofs.EduLifecycle
import EmeraldDb.Proofs.EduPhase
import EmeraldDb.Proofs.EduPool
import EmeraldDb.Proofs.EduReturn
import EmeraldDb.Proofs.EduSections
import EmeraldDb.Proofs.EduSessions
import EmeraldDb.Proofs.EduShutdown
import EmeraldDb.Proofs.EduStatus
import EmeraldDb.Proofs.EduStructure
import EmeraldDb.Proofs.EduTransitions
import EmeraldDb.Proofs.Extension
import EmeraldDb.Proofs.FileWrite
import EmeraldDb.Proofs.Insert
import EmeraldDb.Proofs.InsertThreads
import EmeraldDb.Proofs.Json
import EmeraldDb.Proofs.Lifetimes
import EmeraldDb.Proofs.MessageBounds
import EmeraldDb.Proofs.MessageCodec
import EmeraldDb.Proofs.Opening
import EmeraldDb.Proofs.Options
import EmeraldDb.Proofs.PageInvariant
import EmeraldDb.Proofs.PageRefinement
import EmeraldDb.Proofs.PageUpdate
import EmeraldDb.Proofs.PdLog
import EmeraldDb.Proofs.Placement
import EmeraldDb.Proofs.Queue
import EmeraldDb.Proofs.ReceiveBuffer
import EmeraldDb.Proofs.ReclaimedRoom
import EmeraldDb.Proofs.RecordStore
import EmeraldDb.Proofs.RemoveFind
import EmeraldDb.Proofs.Reopening
import EmeraldDb.Proofs.RequestFrame
import EmeraldDb.Proofs.RequestIsolation
import EmeraldDb.Proofs.SegmentPlacement
import EmeraldDb.Proofs.SendOrder
import EmeraldDb.Proofs.ServerRun
import EmeraldDb.Proofs.Shell
import EmeraldDb.Proofs.ShellInsert
import EmeraldDb.Proofs.StaleBytes
import EmeraldDb.Proofs.StoreThreads
import EmeraldDb.Proofs.StoredSessions
import EmeraldDb.Proofs.SystemEdu
import EmeraldDb.Proofs.TcpListener
import EmeraldDb.Proofs.Transfer
