import SimpleRouter.Gate
import SimpleRouter.Retry
import SimpleRouter.Forward
import SimpleRouter.Termination
import SimpleRouter.Threads
import SimpleRouter.Reads
import SimpleRouter.Routes
import SimpleRouter.IcmpErrors
import SimpleRouter.Padding
import SimpleRouter.Stream
import SimpleRouter.Cksum
import SimpleRouter.Lookup
import SimpleRouter.Drain
import SimpleRouter.Filter
import SimpleRouter.Assertions
import SimpleRouter.Hwinfo
import SimpleRouter.LoadRt
import SimpleRouter.NextHops
import SimpleRouter.Quote
import SimpleRouter.WellFormed
import SimpleRouter.Handshake
import SimpleRouter.MainLoop
import SimpleRouter.Dump
import SimpleRouter.Provenance
import SimpleRouter.Playback
import SimpleRouter.Main
import SimpleRouter.Cache
