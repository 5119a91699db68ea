import StoreTheIndex.CarWriter.Basic
import StoreTheIndex.CarWriter.Write
import StoreTheIndex.CarWriter.FastPath
import StoreTheIndex.CarWriter.Success
import StoreTheIndex.CarWriter.Delete
import StoreTheIndex.CarWriter.WriteExisting
import StoreTheIndex.CarWriter.Errors
import StoreTheIndex.CarWriter.Archive
import StoreTheIndex.Peer
import StoreTheIndex.Daemon.Config
import StoreTheIndex.Daemon.Setters
import StoreTheIndex.Daemon.Peering
import StoreTheIndex.Daemon.Loop
import StoreTheIndex.Daemon.Deadlock
import StoreTheIndex.Daemon.Reload
import StoreTheIndex.Daemon.PeeringSafety
import StoreTheIndex.Daemon.Replies
import StoreTheIndex.Daemon.Startup
import StoreTheIndex.Finder.Handler
import StoreTheIndex.Finder.Providers
