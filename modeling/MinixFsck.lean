import MinixFsck.Disk
import MinixFsck.Layout
import MinixFsck.State
import MinixFsck.Zones
import MinixFsck.Traverse
import MinixFsck.Counts
import MinixFsck.Main
import MinixFsck.Images
import MinixFsck.Frame
import MinixFsck.Bounds
import MinixFsck.Termination
import MinixFsck.Cycle
import MinixFsck.Repairs
import MinixFsck.Rerun
import MinixFsck.InodeCounts
import MinixFsck.Closure
import MinixFsck.Agreed
import MinixFsck.Effects
import MinixFsck.Automatic
import MinixFsck.WriteBack
import MinixFsck.BlockMap
import MinixFsck.Names
import MinixFsck.Offsets
import MinixFsck.Superblock
import MinixFsck.Tables
import MinixFsck.ZoneTree
import MinixFsck.Freeing
import MinixFsck.ZoneCounts
import MinixFsck.Soundness
import MinixFsck.Interactive
import MinixFsck.Directories
