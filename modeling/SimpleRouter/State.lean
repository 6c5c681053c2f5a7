/-
The state of a virtual router (`struct sr_instance`), with the records it is
made of: interfaces (`sr_if.h`), routes (`sr_rt.h`), and the ARP cache with its
queue of pending requests (`sr_arpcache.h`).

Linked lists are lists.  A pending request keeps the identity of its node:
`id` stands for its address, identities are handed out in order and never
reused, so that the use of a destroyed request shows as an identity that is no
longer on the queue.

Four components have no counterpart in the source.

* `trace` records what the router does that others can see or that its
  bookkeeping is about, each entry with the clock at that moment;
* `reads` records every block of a frame that is read, with the frame's length;
* `nextFid` numbers the frames that are put on the queue, and a queued packet
  carries its number;
* `junk` is the contents of memory that the program reads and never wrote: what
  lies behind the end of a buffer, and the fields of a fresh record.
-/
import SimpleRouter.Protocol
import SimpleRouter.Lib.CString

namespace SimpleRouter

open Bytes

/-- The identity of a pending request. -/
abbrev ReqId := ℕ

/-- The number of a frame that was put on the queue. -/
abbrev FrameId := ℕ

/-- `struct sr_if`. -/
structure SrIf where
  name : List UInt8
  addr : Mac
  ip : Ip
deriving DecidableEq, Repr

/-- `struct sr_rt`. -/
structure SrRt where
  dest : Ip
  gw : Ip
  mask : Ip
  interface : List UInt8
deriving DecidableEq, Repr

/-- `struct sr_packet`; its `len` is the length of `buf`. -/
structure SrPacket where
  buf : Frame
  iface : List UInt8
  fid : FrameId
deriving DecidableEq, Repr

/-- `struct sr_arpentry`. -/
structure SrArpentry where
  mac : Mac
  ip : Ip
  added : ℕ
  valid : Bool
deriving DecidableEq, Repr

/-- `struct sr_arpreq`. -/
structure SrArpreq where
  id : ReqId
  ip : Ip
  sent : ℕ
  timesSent : ℕ
  packets : List SrPacket
deriving DecidableEq, Repr

/-! ### Observations -/

/-- Why an ICMP error is built: for a frame that just arrived, or for a frame
of a request that is given up. -/
inductive Cause where
  | arrival
  | giveUp (req : ReqId) (fid : FrameId)
deriving DecidableEq, Repr

/-- Which of the three callers passes a frame to `sr_send_packet`. -/
inductive Origin where
  | arpReply
  | arpRequest (req : ReqId) (target : Ip)
  | drain (fid : FrameId) (sip : Ip)
deriving DecidableEq, Repr

/-- How `sr_send_packet` disposes of a frame before it writes. -/
inductive Verdict where
  | tooShort
  | mismatch
  | passed
deriving DecidableEq, Repr

/-- An observation. -/
inductive Obs where
  /-- `route_and_send` queues a frame under a next hop. -/
  | accepted (nextHop : Ip) (pkt : SrPacket)
  /-- `sr_send_packet` is called. -/
  | sent (origin : Origin) (iface : List UInt8) (frame : Frame) (verdict : Verdict)
  /-- `send_icmp_error` is called. -/
  | icmpError (type code : UInt8) (cause : Cause)
  /-- `sr_arpcache_sweepreqs` passes a request to `handle_arpreq`. -/
  | swept (req : ReqId)
deriving DecidableEq, Repr

/-- A block of `n` bytes at `off`, read from a buffer of `len` bytes. -/
structure Read where
  off : ℕ
  n : ℕ
  len : ℕ
deriving DecidableEq, Repr

/-- The block lies inside its buffer. -/
def Read.InBounds (r : Read) : Prop := r.off + r.n ≤ r.len

instance (r : Read) : Decidable r.InBounds := inferInstanceAs (Decidable (_ ≤ _))

/-! ### The router -/

/-- `struct sr_instance`, as far as the data path uses it.  `now` is what `time()` returns,
the same for all calls that are made for an event. -/
structure Router where
  ifList : List SrIf
  routingTable : List SrRt
  requests : List SrArpreq
  entries : List SrArpentry
  now : ℕ
  nextId : ReqId
  nextFid : FrameId
  trace : List (ℕ × Obs)
  reads : List Read
  junk : ℕ → ℕ → UInt8

/-- Why a call does not return a state. -/
inductive Fault where
  /-- The recursion is deeper than the fuel. -/
  | outOfFuel
  /-- A request is used that was destroyed. -/
  | useAfterFree
  /-- An `assert` fails. -/
  | assertFailed
  /-- The session with the server ends. -/
  | sessionClosed
deriving DecidableEq, Repr

namespace Router

/-- Record an observation. -/
def emit (s : Router) (o : Obs) : Router := { s with trace := s.trace ++ [(s.now, o)] }

/-- Record that `n` bytes at `off` of `buf` are read. -/
def noteRead (s : Router) (buf : List UInt8) (off n : ℕ) : Router :=
  { s with reads := s.reads ++ [⟨off, n, buf.length⟩] }

/-- The `n` bytes found at `off`; behind the end of `buf` there is junk. -/
def peek (s : Router) (buf : List UInt8) (off n : ℕ) : List UInt8 :=
  (buf.drop off ++ (List.range n).map (s.junk s.reads.length)).take n

/-- Read `n` bytes at `off` of `buf`. -/
def load (s : Router) (buf : List UInt8) (off n : ℕ) : List UInt8 × Router :=
  (s.peek buf off n, s.noteRead buf off n)

/-- The pending request with a given identity. -/
def findReq (s : Router) (id : ReqId) : Option SrArpreq := s.requests.find? (·.id = id)

/-- Apply `f` to the pending request with a given identity. -/
def modifyReq (s : Router) (id : ReqId) (f : SrArpreq → SrArpreq) : Router :=
  { s with requests := s.requests.map fun r => if r.id = id then f r else r }

lemma peek_eq_slice (s : Router) {buf : List UInt8} {off n : ℕ} (h : off + n ≤ buf.length) :
    s.peek buf off n = slice buf off n := by
  rw [peek, slice, List.take_append_of_le_length (by simp; omega)]

lemma length_peek (s : Router) (buf : List UInt8) (off n : ℕ) : (s.peek buf off n).length = n := by
  simp only [peek, List.length_take, List.length_append, List.length_drop, List.length_map,
    List.length_range]
  omega

section Fields

variable (s : Router) (o : Obs) (buf : List UInt8) (off n : ℕ) (id : ReqId)
  (f : SrArpreq → SrArpreq)

@[simp] lemma emit_ifList : (s.emit o).ifList = s.ifList := rfl
@[simp] lemma emit_routingTable : (s.emit o).routingTable = s.routingTable := rfl
@[simp] lemma emit_requests : (s.emit o).requests = s.requests := rfl
@[simp] lemma emit_entries : (s.emit o).entries = s.entries := rfl
@[simp] lemma emit_now : (s.emit o).now = s.now := rfl
@[simp] lemma emit_nextId : (s.emit o).nextId = s.nextId := rfl
@[simp] lemma emit_nextFid : (s.emit o).nextFid = s.nextFid := rfl
@[simp] lemma emit_reads : (s.emit o).reads = s.reads := rfl
@[simp] lemma emit_trace : (s.emit o).trace = s.trace ++ [(s.now, o)] := rfl
@[simp] lemma emit_findReq : (s.emit o).findReq id = s.findReq id := rfl

@[simp] lemma noteRead_ifList : (s.noteRead buf off n).ifList = s.ifList := rfl
@[simp] lemma noteRead_routingTable : (s.noteRead buf off n).routingTable = s.routingTable := rfl
@[simp] lemma noteRead_requests : (s.noteRead buf off n).requests = s.requests := rfl
@[simp] lemma noteRead_entries : (s.noteRead buf off n).entries = s.entries := rfl
@[simp] lemma noteRead_now : (s.noteRead buf off n).now = s.now := rfl
@[simp] lemma noteRead_nextId : (s.noteRead buf off n).nextId = s.nextId := rfl
@[simp] lemma noteRead_nextFid : (s.noteRead buf off n).nextFid = s.nextFid := rfl
@[simp] lemma noteRead_trace : (s.noteRead buf off n).trace = s.trace := rfl
@[simp] lemma noteRead_findReq : (s.noteRead buf off n).findReq id = s.findReq id := rfl
@[simp] lemma noteRead_reads :
    (s.noteRead buf off n).reads = s.reads ++ [⟨off, n, buf.length⟩] := rfl

@[simp] lemma modifyReq_ifList : (s.modifyReq id f).ifList = s.ifList := rfl
@[simp] lemma modifyReq_routingTable : (s.modifyReq id f).routingTable = s.routingTable := rfl
@[simp] lemma modifyReq_entries : (s.modifyReq id f).entries = s.entries := rfl
@[simp] lemma modifyReq_now : (s.modifyReq id f).now = s.now := rfl
@[simp] lemma modifyReq_nextId : (s.modifyReq id f).nextId = s.nextId := rfl
@[simp] lemma modifyReq_nextFid : (s.modifyReq id f).nextFid = s.nextFid := rfl
@[simp] lemma modifyReq_trace : (s.modifyReq id f).trace = s.trace := rfl
@[simp] lemma modifyReq_reads : (s.modifyReq id f).reads = s.reads := rfl

end Fields

end Router

end SimpleRouter
