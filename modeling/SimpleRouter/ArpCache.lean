/-
The ARP cache and its request queue (`sr_arpcache.c`), except for the sweep,
which needs `handle_arpreq`.

The queue is a list of requests with the most recent one in front.  A request
is found by address when a frame is queued or an ARP reply arrives, and by
identity when it is destroyed.
-/
import SimpleRouter.Interfaces

namespace SimpleRouter

open Bytes CString

/-- The entries of a cache in which nothing is valid. -/
def emptyEntries : List SrArpentry := List.replicate 100 ⟨⟨0, 0, 0, 0, 0, 0⟩, 0, 0, false⟩

/-- The packet list gets a copy of the frame and of the interface name. -/
def addPacket (s : Router) (id : ReqId) (packet : Frame) (iface : List UInt8) : Router :=
  if packet.length = 0 then s
  else
    { s.modifyReq id fun r => { r with packets := ⟨packet, strncpy 32 iface, s.nextFid⟩ :: r.packets }
      with nextFid := s.nextFid + 1 }

/-- `sr_arpcache_queuereq`: the request for `ip`, created if there is none, gets
the packet in front of its list.  The identity of the request is returned. -/
def srArpcacheQueuereq (s : Router) (ip : Ip) (packet : Frame) (iface : List UInt8) :
    Router × ReqId :=
  match s.requests.find? (·.ip = ip) with
  | some req => (addPacket s req.id packet iface, req.id)
  | none =>
      let req : SrArpreq := { id := s.nextId, ip := ip, sent := 0, timesSent := 0, packets := [] }
      (addPacket { s with requests := req :: s.requests, nextId := s.nextId + 1 } req.id packet iface,
        req.id)

/-- The first invalid entry is overwritten; a full cache stays as it is. -/
def insertEntry (e : SrArpentry) : List SrArpentry → List SrArpentry
  | [] => []
  | x :: xs => if x.valid then x :: insertEntry e xs else e :: xs

/-- `sr_arpcache_insert`: the request for `ip` is taken off the queue and
returned, and the mapping is entered into the cache. -/
def srArpcacheInsert (s : Router) (mac : Mac) (ip : Ip) : Option SrArpreq × Router :=
  (s.requests.find? (·.ip = ip),
    { s with
      requests := s.requests.eraseP (·.ip = ip)
      entries := insertEntry ⟨mac, ip, s.now, true⟩ s.entries })

/-- `sr_arpreq_destroy`: the request with this identity is unlinked, if it is on
the queue, and freed. -/
def srArpreqDestroy (s : Router) (id : ReqId) : Router :=
  { s with requests := s.requests.filter (·.id ≠ id) }

/-- The first loop of `sr_arpcache_timeout`: entries older than 15 seconds are
invalidated. -/
def expireEntries (s : Router) : Router :=
  { s with
    entries := s.entries.map fun e =>
      if e.valid && decide (15 < s.now - e.added) then { e with valid := false } else e }

/-- `req->next` of the request with this identity; `none` if it is not on the
queue. -/
def nextReq : List SrArpreq → ReqId → Option (Option ReqId)
  | [], _ => none
  | r :: rs, id => if r.id = id then some (rs.head?.map (·.id)) else nextReq rs id

section Fields

variable (s : Router) (id : ReqId)

@[simp] lemma srArpreqDestroy_ifList : (srArpreqDestroy s id).ifList = s.ifList := rfl
@[simp] lemma srArpreqDestroy_routingTable :
    (srArpreqDestroy s id).routingTable = s.routingTable := rfl
@[simp] lemma srArpreqDestroy_requests :
    (srArpreqDestroy s id).requests = s.requests.filter (·.id ≠ id) := rfl
@[simp] lemma srArpreqDestroy_entries : (srArpreqDestroy s id).entries = s.entries := rfl
@[simp] lemma srArpreqDestroy_now : (srArpreqDestroy s id).now = s.now := rfl
@[simp] lemma srArpreqDestroy_nextId : (srArpreqDestroy s id).nextId = s.nextId := rfl
@[simp] lemma srArpreqDestroy_nextFid : (srArpreqDestroy s id).nextFid = s.nextFid := rfl
@[simp] lemma srArpreqDestroy_trace : (srArpreqDestroy s id).trace = s.trace := rfl
@[simp] lemma srArpreqDestroy_reads : (srArpreqDestroy s id).reads = s.reads := rfl

end Fields

end SimpleRouter
