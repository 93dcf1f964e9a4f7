import MtpSync.Upload.Marked
import MtpSync.Threads
import MtpSync.Rollback
import MtpSync.Discard
import MtpSync.Marks
import MtpSync.Chunks
import MtpSync.Tombstones
import MtpSync.Tree.Displayed
import MtpSync.Tree.Stale
import MtpSync.Verity.Md5Observe
import MtpSync.Mirror
import MtpSync.Batches
import MtpSync.Binding
import MtpSync.DeadTasks
import MtpSync.Committed
import MtpSync.Download.Selected
import MtpSync.Download.Swept
import MtpSync.Handles.WellUsed
import MtpSync.Sessions.Gate
import MtpSync.Sessions.Balance
import MtpSync.Upload.RoundTrip
import MtpSync.Lib.SqlCommand
import MtpSync.Clear
import MtpSync.Cells
import MtpSync.Handles.Counted
import MtpSync.Upload.Slots
import MtpSync.LogRecord.ClearLog
import MtpSync.LogDlg
import MtpSync.Content.PathLoop
import MtpSync.Backups
import MtpSync.LogRecord.WriteRecord
import MtpSync.Verity.MyVerify
import MtpSync.Handed
import MtpSync.Lib.Heap
import MtpSync.Tree.Pointers
import MtpSync.Tree.Owned
import MtpSync.Fleet.Effects
import MtpSync.Fleet.Delivered
import MtpSync.Fleet.OneWay
import MtpSync.Fleet.Blind
import MtpSync.Login
import MtpSync.Pull
import MtpSync.Devices
import MtpSync.Fleet.UploadedOnce
