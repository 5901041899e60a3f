import CantianConnector.Lib.Kleene
import CantianConnector.Lib.Digits
import CantianConnector.Lib.Bytes
import CantianConnector.Lib.Cells
import CantianConnector.Lib.Memory
import CantianConnector.Lib.Machine
import CantianConnector.Convert.Field
import CantianConnector.Convert.MysqlTime
import CantianConnector.Convert.Result
import CantianConnector.Convert.Date
import CantianConnector.Convert.Decimal
import CantianConnector.Convert.Temporal
import CantianConnector.Convert.Numeric
import CantianConnector.Convert.Lob
import CantianConnector.Convert.RowFormat
import CantianConnector.Convert.Encode
import CantianConnector.Convert.RowHead
import CantianConnector.Convert.Decode
import CantianConnector.Convert.RoundTrip
import CantianConnector.Pushdown.Item
import CantianConnector.Pushdown.Split
import CantianConnector.Pushdown.Fill
import CantianConnector.Pushdown.FieldNumber
import CantianConnector.Pushdown.DateCompare
import CantianConnector.Handler.Prefetch
import CantianConnector.Handler.Delivery
import CantianConnector.Handler.Position
import CantianConnector.Session.Context
import CantianConnector.Mq.Batch
import CantianConnector.Session.Cursors
import CantianConnector.Session.Savepoint
import CantianConnector.Session.Transaction
import CantianConnector.Lib.Threads
import CantianConnector.Mq.Stub
import CantianConnector.Lib.Lex
import CantianConnector.Mq.Pairing
import CantianConnector.Partition.Prune
import CantianConnector.Partition.PruneState
import CantianConnector.ParallelReader.Model
import CantianConnector.ParallelReader.Conservation
import CantianConnector.ParallelReader.Delivery
import CantianConnector.ParallelReader.Accounting
import CantianConnector.Mq.BatchSend
import CantianConnector.Dd.Broadcast
import CantianConnector.Dd.Invalidate
import CantianConnector.Mdl.Request
import CantianConnector.Mdl.Tickets
import CantianConnector.Mdl.LockTables
import CantianConnector.Ddl.ErrorCode
import CantianConnector.Ddl.LockInstance
import CantianConnector.Lib.Assoc
import CantianConnector.Proxy.Model
import CantianConnector.Proxy.Client
import CantianConnector.Proxy.Connections
import CantianConnector.Proxy.NameLocks
import CantianConnector.Proxy.TableLocks
import CantianConnector.Proxy.ForeignKeys
import CantianConnector.Ddl.Password
import CantianConnector.Proxy.Close
import CantianConnector.Proxy.ReadOnly
import CantianConnector.Ddl.SetForward
import CantianConnector.Ddl.SetBroadcast
import CantianConnector.Convert.RecordLength
import CantianConnector.Handler.BulkInsert
import CantianConnector.Index.KeyParts
import CantianConnector.Index.KeyDatatype
import CantianConnector.Index.Decode
import CantianConnector.Index.EarlyReturn
import CantianConnector.Convert.DateOrder
import CantianConnector.Index.BitOverrun
import CantianConnector.Convert.LobPieces
import CantianConnector.Cbo.Compare
import CantianConnector.Cbo.Frequency
import CantianConnector.Pushdown.Wildcards
import CantianConnector.Cbo.Bucket
import CantianConnector.Cbo.Balance
import CantianConnector.Cbo.KeyOffset
import CantianConnector.Lib.Blocks
import CantianConnector.Pushdown.CondBlocks
import CantianConnector.Pushdown.Ownership
import CantianConnector.Cbo.StringSlots
import CantianConnector.Cbo.StatsBatches
import CantianConnector.Cbo.StatsRequest
import CantianConnector.Ddl.UserName
import CantianConnector.Handler.AutoIncrement
import CantianConnector.Lib.Numerals
import CantianConnector.Ddl.DefaultText
import CantianConnector.Ddl.DefaultNumber
import CantianConnector.Ddl.InplaceAlter
import CantianConnector.Lib.Reads
import CantianConnector.Cbo.KeyReads
import CantianConnector.Cbo.KeyBounds
import CantianConnector.Ddl.ReplacePattern
import CantianConnector.Ddl.ReplaceClause
import CantianConnector.Convert.LobRequest
import CantianConnector.Index.KeyRequest
import CantianConnector.Ddl.CreateKeys
import CantianConnector.Convert.Dec8
import CantianConnector.Convert.Dec8Round
import CantianConnector.Convert.Dec8Parse
import CantianConnector.Convert.Dec8Scan
import CantianConnector.Convert.Dec8Text
import CantianConnector.Convert.Dec8Print
import CantianConnector.Ddl.ColumnLists
import CantianConnector.Handler.Share
import CantianConnector.Convert.Offsets
import CantianConnector.Mq.Handlers
import CantianConnector.Partition.Cursors
import CantianConnector.Handler.InsertScan
import CantianConnector.Ddl.SetReceive
import CantianConnector.Mdl.Notify
import CantianConnector.Handler.UpdateRow
import CantianConnector.Partition.RndPos
