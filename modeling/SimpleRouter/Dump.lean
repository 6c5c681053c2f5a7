/-
The log of packets (`sr_dumper.c`, and `sr_log_packet` of `sr_vns_comm.c`).

The file has the format of `tcpdump`: a header, and a record for each packet.  Numbers are
written as they lie in memory, and the magic number tells a reader in which order the bytes
are.  `readDump` is such a reader.

A packet of more than 1024 bytes is cut, and the length that the record gives for the packet
is that of the part which is present: from the file one cannot tell that there was more.
-/
import SimpleRouter.Commands
import SimpleRouter.Lib.Records

namespace SimpleRouter

open Bytes

/-! ### Numbers in memory -/

/-- The order in which the bytes of a number lie in memory. -/
inductive ByteOrder where
  | little
  | big
deriving DecidableEq, Repr

namespace ByteOrder

/-- Bring the bytes of a number, most significant first, into the order, or back. -/
def arrange : ByteOrder → List UInt8 → List UInt8
  | little, l => l.reverse
  | big, l => l

/-- A number of 16 bits. -/
def store16 (o : ByteOrder) (n : ℕ) : List UInt8 := o.arrange (be16 n)

/-- A number of 32 bits. -/
def store32 (o : ByteOrder) (n : ℕ) : List UInt8 := o.arrange (be32 n)

/-- Several numbers of 32 bits. -/
def store32s (o : ByteOrder) (ws : List ℕ) : List UInt8 := ws.flatMap o.store32

/-- The number of 16 bits at offset `i`. -/
def load16 (o : ByteOrder) (l : List UInt8) (i : ℕ) : ℕ := u16 (o.arrange (slice l i 2)) 0

/-- The number of 32 bits at offset `i`. -/
def load32 (o : ByteOrder) (l : List UInt8) (i : ℕ) : ℕ := u32 (o.arrange (slice l i 4)) 0

variable (o : ByteOrder)

@[simp] lemma arrange_arrange (l : List UInt8) : o.arrange (o.arrange l) = l := by
  cases o with
  | little => exact List.reverse_reverse l
  | big => rfl

@[simp] lemma length_arrange (l : List UInt8) : (o.arrange l).length = l.length := by
  cases o with
  | little => exact List.length_reverse
  | big => rfl

@[simp] lemma length_store16 (n : ℕ) : (o.store16 n).length = 2 := by
  rw [store16, length_arrange]
  rfl

@[simp] lemma length_store32 (n : ℕ) : (o.store32 n).length = 4 := by
  rw [store32, length_arrange, length_be32]

@[simp] lemma length_store32s (ws : List ℕ) : (o.store32s ws).length = 4 * ws.length := by
  induction ws with
  | nil => rfl
  | cons n ws ih =>
      rw [store32s, List.flatMap_cons, List.length_append, ← store32s, ih, length_store32,
        List.length_cons]
      omega

lemma load32_store32 (pre post : List UInt8) {n : ℕ} (hn : n < 4294967296) :
    o.load32 (pre ++ o.store32 n ++ post) pre.length = n := by
  have hslice := slice_append_append pre (o.store32 n) post
  rw [length_store32] at hslice
  rw [load32, hslice, store32, arrange_arrange, u32_be32 hn]

/-- The number with the number `i` behind `pre`. -/
lemma load32_store32s (pre post : List UInt8) (ws : List ℕ) (h : ∀ n ∈ ws, n < 4294967296) {i : ℕ}
    (hi : i < ws.length) : o.load32 (pre ++ (o.store32s ws ++ post)) (pre.length + 4 * i) = ws[i] := by
  induction ws generalizing pre i with
  | nil => simp at hi
  | cons n ws ih =>
      rw [store32s, List.flatMap_cons, ← store32s, List.append_assoc]
      cases i with
      | zero =>
          rw [← List.append_assoc]
          exact o.load32_store32 pre _ (h n (by simp))
      | succ i =>
          have hoff : pre.length + 4 * (i + 1) = (pre ++ o.store32 n).length + 4 * i := by
            rw [List.length_append, length_store32]
            omega
          rw [← List.append_assoc, hoff, ih _ (fun n' hn' => h n' (List.mem_cons_of_mem _ hn'))
            (by simpa using hi)]
          rfl

/-- What follows is not read. -/
lemma load32_append_left {l l' : List UInt8} {i : ℕ} (h : i + 4 ≤ l.length) :
    o.load32 (l ++ l') i = o.load32 l i := by
  rw [load32, load32, slice, slice, List.drop_append_of_le_length (by omega),
    List.take_append_of_le_length (by rw [List.length_drop]; omega)]

lemma load16_append_left {l l' : List UInt8} {i : ℕ} (h : i + 2 ≤ l.length) :
    o.load16 (l ++ l') i = o.load16 l i := by
  rw [load16, load16, slice, slice, List.drop_append_of_le_length (by omega),
    List.take_append_of_le_length (by rw [List.length_drop]; omega)]

end ByteOrder

/-! ### Writing -/

/-- `TCPDUMP_MAGIC`. -/
def tcpdumpMagic : ℕ := 0xa1b2c3d4

/-- `PACKET_DUMP_SIZE`. -/
def packetDumpSize : ℤ := 1024

/-- `struct pcap_sf_pkthdr`, the header of a record, with its fields as words. -/
structure PcapSfPkthdr where
  tvSec : ℕ
  tvUsec : ℕ
  caplen : ℕ
  len : ℕ
deriving DecidableEq, Repr

/-- `struct pcap_pkthdr`: the seconds and the microseconds are longer than in the file. -/
structure PcapPkthdr where
  ts : ℕ × ℕ
  caplen : ℕ
  len : ℕ
deriving DecidableEq, Repr

/-- The bytes of a header of a record. -/
def PcapSfPkthdr.bytes (o : ByteOrder) (h : PcapSfPkthdr) : List UInt8 :=
  o.store32s [h.tvSec, h.tvUsec, h.caplen, h.len]

/-- `sf_write_header`. -/
def sfWriteHeader (o : ByteOrder) (linktype thiszone snaplen : ℤ) : List UInt8 :=
  o.store32 tcpdumpMagic ++ (o.store16 2 ++ o.store16 4)
    ++ o.store32s [(toUnsigned thiszone).toNat, 0, (toUnsigned snaplen).toNat,
      (toUnsigned linktype).toNat]

/-- `sr_dump_open`: the text of the new file, if the file can be opened.  `-` stands for the
standard output, and the text is then only the logger's part of it: what the program prints
stands in between. -/
def srDumpOpen (o : ByteOrder) (writable : List UInt8 → Bool) (fname : List UInt8)
    (thiszone snaplen : ℤ) : Option (List UInt8) :=
  if fname = [45] ∨ writable fname then some (sfWriteHeader o 1 thiszone snaplen) else none

/-- `sr_dump`: the text of the file, with one record more; `sp` is the memory from the packet
on. -/
def srDump (o : ByteOrder) (fp : List UInt8) (h : PcapPkthdr) (sp : List UInt8) : List UInt8 :=
  let sfHdr : PcapSfPkthdr :=
    ⟨h.ts.1 % 4294967296, h.ts.2 % 4294967296, h.caplen, h.len⟩
  fp ++ sfHdr.bytes o ++ sp.take h.caplen

/-- `sr_log_packet`: `logfile` is the text of the file, if there is one, and `time` what
`gettimeofday` returns. -/
def srLogPacket (o : ByteOrder) (time : ℕ × ℕ) (logfile : Option (List UInt8)) (buf : List UInt8)
    (len : ℤ) : Option (List UInt8) :=
  logfile.map fun fp =>
    let size := if packetDumpSize < len then packetDumpSize else len
    let h : PcapPkthdr :=
      ⟨time, (toUnsigned size).toNat,
        (toUnsigned (if size < packetDumpSize then size else packetDumpSize)).toNat⟩
    srDump o fp h buf

/-! ### Reading -/

/-- What the header of the file says. -/
structure PcapFileHeader where
  versionMajor : ℕ
  versionMinor : ℕ
  thiszone : ℕ
  sigfigs : ℕ
  snaplen : ℕ
  linktype : ℕ
deriving DecidableEq, Repr

/-- The headers of the records. -/
def pktHeader (o : ByteOrder) : Records.Header PcapSfPkthdr UInt8 where
  size := 16
  pos := by decide
  encode := PcapSfPkthdr.bytes o
  decode := fun l => ⟨o.load32 l 0, o.load32 l 4, o.load32 l 8, o.load32 l 12⟩
  payload := PcapSfPkthdr.caplen
  Valid := fun h => h.tvSec < 4294967296 ∧ h.tvUsec < 4294967296 ∧ h.caplen < 4294967296 ∧
    h.len < 4294967296
  length_encode := fun h => o.length_store32s _
  decode_encode := by
    rintro ⟨sec, usec, caplen, len⟩ ⟨hsec, husec, hcaplen, hlen⟩
    have hword : ∀ i (hi : i < 4), o.load32 (PcapSfPkthdr.bytes o ⟨sec, usec, caplen, len⟩) (4 * i)
        = [sec, usec, caplen, len][i] := by
      intro i hi
      have hstored := o.load32_store32s [] [] [sec, usec, caplen, len]
        (by simp [hsec, husec, hcaplen, hlen]) hi
      rwa [List.nil_append, List.append_nil, List.length_nil, Nat.zero_add] at hstored
    have h₀ := hword 0 (by decide)
    have h₁ := hword 1 (by decide)
    have h₂ := hword 2 (by decide)
    have h₃ := hword 3 (by decide)
    simp only [PcapSfPkthdr.mk.injEq]
    exact ⟨h₀, h₁, h₂, h₃⟩

/-- The order of the bytes, which the magic number gives away. -/
def dumpOrder (l : List UInt8) : Option ByteOrder :=
  if ByteOrder.little.load32 l 0 = tcpdumpMagic then some .little
  else if ByteOrder.big.load32 l 0 = tcpdumpMagic then some .big
  else none

/-- The header of a file. -/
def fileHeader (o : ByteOrder) (l : List UInt8) : PcapFileHeader :=
  ⟨o.load16 l 4, o.load16 l 6, o.load32 l 8, o.load32 l 12, o.load32 l 16, o.load32 l 20⟩

/-- A reader of such files. -/
def readDump (l : List UInt8) :
    Option (PcapFileHeader × List (PcapSfPkthdr × List UInt8)) :=
  if l.length < 24 then none
  else (dumpOrder l).map fun o => (fileHeader o l, Records.read (pktHeader o) (l.drop 24))

/-! ### The header -/

variable {o o' : ByteOrder}

@[simp] lemma length_sfWriteHeader (linktype thiszone snaplen : ℤ) :
    (sfWriteHeader o linktype thiszone snaplen).length = 24 := by
  simp [sfWriteHeader]

/-- What `main` writes at the beginning of the file. -/
def dumpHeader (o : ByteOrder) : List UInt8 := sfWriteHeader o 1 0 packetDumpSize

/-- The same, as it is read. -/
def dumpInfo : PcapFileHeader := ⟨2, 4, 0, 0, 1024, 1⟩

lemma load32_dumpHeader (l : List UInt8) {i : ℕ} (hi : i + 4 ≤ 24) :
    o'.load32 (dumpHeader o ++ l) i = o'.load32 (dumpHeader o) i :=
  o'.load32_append_left (by rw [dumpHeader, length_sfWriteHeader]; exact hi)

lemma load16_dumpHeader (l : List UInt8) {i : ℕ} (hi : i + 2 ≤ 24) :
    o'.load16 (dumpHeader o ++ l) i = o'.load16 (dumpHeader o) i :=
  o'.load16_append_left (by rw [dumpHeader, length_sfWriteHeader]; exact hi)

/-- In the wrong order the magic number is another one. -/
lemma dumpOrder_dumpHeader (o : ByteOrder) (l : List UInt8) :
    dumpOrder (dumpHeader o ++ l) = some o := by
  rw [dumpOrder, load32_dumpHeader l (by omega), load32_dumpHeader l (by omega)]
  cases o with
  | little => decide
  | big => decide

lemma fileHeader_dumpHeader (o : ByteOrder) (l : List UInt8) :
    fileHeader o (dumpHeader o ++ l) = dumpInfo := by
  rw [fileHeader, load16_dumpHeader l (by omega), load16_dumpHeader l (by omega),
    load32_dumpHeader l (by omega), load32_dumpHeader l (by omega), load32_dumpHeader l (by omega),
    load32_dumpHeader l (by omega)]
  cases o with
  | little => decide
  | big => decide

lemma readDump_dumpHeader (o : ByteOrder) (l : List UInt8) :
    readDump (dumpHeader o ++ l) = some (dumpInfo, Records.read (pktHeader o) l) := by
  have hlen : (dumpHeader o).length = 24 := length_sfWriteHeader 1 0 packetDumpSize
  rw [readDump, if_neg (by rw [List.length_append]; omega), dumpOrder_dumpHeader, Option.map_some,
    fileHeader_dumpHeader, List.drop_left' hlen]

/-! ### Calls -/

/-- A call of `sr_log_packet` for a frame, with what lies behind the frame. -/
structure LogCall where
  frame : List UInt8
  behind : List UInt8
  time : ℕ × ℕ
  /-- The length is an `int`. -/
  lt : frame.length < 2147483648

namespace LogCall

/-- What is left of the frame. -/
def kept (c : LogCall) : List UInt8 := c.frame.take 1024

/-- What a reader gets for the call. -/
def entry (c : LogCall) : PcapSfPkthdr × List UInt8 :=
  (⟨c.time.1 % 4294967296, c.time.2 % 4294967296, c.kept.length, c.kept.length⟩, c.kept)

/-- The record of the call. -/
def record (o : ByteOrder) (c : LogCall) : Records.Record (pktHeader o) where
  info := c.entry.1
  data := c.entry.2
  valid := by
    have hle : c.kept.length ≤ 1024 := List.length_take_le 1024 c.frame
    exact ⟨Nat.mod_lt _ (by decide), Nat.mod_lt _ (by decide),
      show c.kept.length < 4294967296 by omega, show c.kept.length < 4294967296 by omega⟩
  length := rfl

end LogCall

/-- What is written by calls of `sr_log_packet`, one after the other. -/
def logAll (o : ByteOrder) (logfile : Option (List UInt8)) (calls : List LogCall) :
    Option (List UInt8) :=
  calls.foldl (fun fp c => srLogPacket o c.time fp (c.frame ++ c.behind) c.frame.length) logfile

/-- A call writes the record of its frame. -/
lemma srLogPacket_eq (o : ByteOrder) (fp : List UInt8) (c : LogCall) :
    srLogPacket o c.time (some fp) (c.frame ++ c.behind) c.frame.length
      = some (fp ++ (c.record o).flat) := by
  have hlt := c.lt
  have hkept : c.kept.length = min 1024 c.frame.length := List.length_take
  have hsize : (if packetDumpSize < (c.frame.length : ℤ) then packetDumpSize else c.frame.length)
      = (c.kept.length : ℤ) := by
    rw [hkept, packetDumpSize]
    split_ifs <;> omega
  have hlen : (if (c.kept.length : ℤ) < packetDumpSize then (c.kept.length : ℤ) else packetDumpSize)
      = c.kept.length := by
    rw [hkept, packetDumpSize]
    split_ifs <;> omega
  have hword : (toUnsigned (c.kept.length : ℤ)).toNat = c.kept.length := by
    rw [toUnsigned]
    omega
  have htake : (c.frame ++ c.behind).take c.kept.length = c.kept := by
    rw [hkept, List.take_append_of_le_length (Nat.min_le_right _ _), LogCall.kept,
      ← List.take_take]
    exact congrArg (List.take 1024) (List.take_of_length_le le_rfl)
  rw [srLogPacket, Option.map_some]
  simp only [hsize, hlen, hword]
  rw [srDump, List.append_assoc]
  simp only [htake]
  rfl

lemma logAll_eq (o : ByteOrder) (fp : List UInt8) (calls : List LogCall) :
    logAll o (some fp) calls = some (fp ++ Records.write (calls.map (LogCall.record o))) := by
  induction calls generalizing fp with
  | nil => simp [logAll, Records.write]
  | cons c calls ih =>
      have hstep : logAll o (some fp) (c :: calls)
          = logAll o (some (fp ++ (c.record o).flat)) calls := by
        rw [logAll, List.foldl_cons, srLogPacket_eq]
        rfl
      rw [hstep, ih, List.append_assoc]
      rfl

/-! ### Files -/

variable {writable writable' : List UInt8 → Bool} {fname fname' file file' l : List UInt8}
  {calls calls' : List LogCall}

/-- The file of a run: it is opened by `main`, and written by successive calls. -/
def dumpFile (o : ByteOrder) (writable : List UInt8 → Bool) (fname : List UInt8)
    (calls : List LogCall) : Option (List UInt8) :=
  logAll o (srDumpOpen o writable fname 0 packetDumpSize) calls

lemma logAll_none (o : ByteOrder) (calls : List LogCall) : logAll o none calls = none := by
  induction calls with
  | nil => rfl
  | cons c calls ih => exact ih

lemma dumpFile_eq (h : dumpFile o writable fname calls = some file) (calls' : List LogCall) :
    dumpFile o writable fname calls'
      = some (dumpHeader o ++ Records.write (calls'.map (LogCall.record o))) := by
  rw [dumpFile, srDumpOpen] at h ⊢
  split_ifs at h ⊢
  · exact logAll_eq o _ calls'
  · rw [logAll_none] at h
    simp at h

lemma map_pair_record (o : ByteOrder) (calls : List LogCall) :
    (calls.map (LogCall.record o)).map Records.Record.pair = calls.map LogCall.entry :=
  List.map_map

/-- Whatever part of the file there is, the reader finds the frames that were logged
completely, in order, with their first 1024 bytes. -/
theorem dump_read_back (h : dumpFile o writable fname calls = some file) (hl : l <+: file)
    (hge : 24 ≤ l.length) :
    ∃ done rest, calls = done ++ rest ∧ readDump l = some (dumpInfo, done.map LogCall.entry) ∧
      (∃ f, dumpFile o writable fname done = some f ∧ f <+: l) ∧
      ∀ c ∈ rest.head?, ∃ f, dumpFile o writable fname (done ++ [c]) = some f ∧
        l.length < f.length := by
  have hfile := dumpFile_eq h calls
  rw [h, Option.some.injEq] at hfile
  subst hfile
  have hlen : (dumpHeader o).length = 24 := length_sfWriteHeader 1 0 packetDumpSize
  obtain ⟨l, rfl⟩ := List.prefix_of_prefix_length_le (List.prefix_append _ _) hl (by omega)
  obtain ⟨done, rest, hsplit, hread, hdone, hrest⟩ :=
    Records.read_of_prefix_write ((List.prefix_append_right_inj _).1 hl)
  obtain ⟨done, rest, rfl, rfl, rfl⟩ := List.map_eq_append_iff.1 hsplit
  refine ⟨done, rest, rfl, ?_, ⟨_, dumpFile_eq h done, ?_⟩, ?_⟩
  · rw [readDump_dumpHeader, hread, map_pair_record]
  · exact (List.prefix_append_right_inj _).2 hdone
  · intro c hc
    refine ⟨_, dumpFile_eq h _, ?_⟩
    have hlast := hrest (c.record o) (by rw [List.head?_map, hc]; rfl)
    rw [List.map_append, Records.write, List.flatMap_append, ← Records.write, List.map_singleton,
      List.flatMap_singleton, List.length_append, List.length_append, List.length_append]
    omega

/-- A frame of `n` bytes. -/
def sampleCall (n : ℕ) (hn : n < 2147483648) : LogCall where
  frame := List.replicate n 7
  behind := []
  time := (1700000000, 5)
  lt := by rw [List.length_replicate]; exact hn

lemma dumpFile_sample (calls : List LogCall) :
    dumpFile .little (fun _ => true) [108] calls
      = some (dumpHeader .little ++ Records.write (calls.map (LogCall.record .little))) := by
  have hempty : dumpFile .little (fun _ => true) [108] [] = some (dumpHeader .little) := rfl
  exact dumpFile_eq hempty calls

/-- The file of two frames, cut off in the second record. -/
theorem dump_read_back_sample :
    ∃ file done rest, dumpFile .little (fun _ => true) [108] [sampleCall 3 (by decide),
        sampleCall 20 (by decide)] = some file ∧
      [sampleCall 3 (by decide), sampleCall 20 (by decide)] = done ++ rest ∧
      readDump (file.take 50) = some (dumpInfo, done.map LogCall.entry) ∧
      (∃ f, dumpFile .little (fun _ => true) [108] done = some f ∧ f <+: file.take 50) ∧
      ∀ c ∈ rest.head?, ∃ f, dumpFile .little (fun _ => true) [108] (done ++ [c]) = some f ∧
        (file.take 50).length < f.length := by
  have hfile := dumpFile_sample [sampleCall 3 (by decide), sampleCall 20 (by decide)]
  obtain ⟨done, rest, h⟩ := dump_read_back hfile (List.take_prefix 50 _) (by decide +kernel)
  exact ⟨_, done, rest, hfile, h⟩

/-- Two files are the same if and only if the machines have the same byte order and the
frames have the same first 1024 bytes and were logged at the same times, as far as these go
into 32 bits. -/
theorem dump_eq_iff (h : dumpFile o writable fname calls = some file)
    (h' : dumpFile o' writable' fname' calls' = some file') :
    file = file' ↔ o = o' ∧ calls.map LogCall.entry = calls'.map LogCall.entry := by
  have hfile := dumpFile_eq h calls
  have hfile' := dumpFile_eq h' calls'
  rw [h, Option.some.injEq] at hfile
  rw [h', Option.some.injEq] at hfile'
  have hread : ∀ o (calls : List LogCall),
      readDump (dumpHeader o ++ Records.write (calls.map (LogCall.record o)))
        = some (dumpInfo, calls.map LogCall.entry) := by
    intro o calls
    rw [readDump_dumpHeader, Records.read_write, map_pair_record]
  have hflat : ∀ o (calls : List LogCall), Records.write (calls.map (LogCall.record o))
      = (calls.map LogCall.entry).flatMap fun e => e.1.bytes o ++ e.2 := by
    intro o calls
    rw [Records.write, List.flatMap_map, List.flatMap_map]
    rfl
  constructor
  · intro heq
    have horder := dumpOrder_dumpHeader o (Records.write (calls.map (LogCall.record o)))
    rw [← hfile, heq, hfile', dumpOrder_dumpHeader, Option.some.injEq] at horder
    have hmap := hread o calls
    rw [← hfile, heq, hfile', hread, Option.some.injEq, Prod.mk.injEq] at hmap
    exact ⟨horder.symm, hmap.2.symm⟩
  · rintro ⟨rfl, hentries⟩
    rw [hfile, hfile', hflat, hflat, hentries]

/-- A frame that fits, and a longer one. -/
theorem dump_eq_iff_sample :
    ∃ file, dumpFile .little (fun _ => true) [108] [sampleCall 1024 (by decide)] = some file ∧
      dumpFile .little (fun _ => true) [108] [sampleCall 1514 (by decide)] = some file := by
  have hfile := dumpFile_sample [sampleCall 1024 (by decide)]
  have hfile' := dumpFile_sample [sampleCall 1514 (by decide)]
  have hkept : (sampleCall 1024 (by decide)).kept = (sampleCall 1514 (by decide)).kept := by
    rw [LogCall.kept, LogCall.kept, sampleCall, sampleCall, List.take_replicate,
      List.take_replicate]
    congr 1
  have hsame := (dump_eq_iff hfile hfile').2 ⟨rfl, by
    rw [List.map_singleton, List.map_singleton, LogCall.entry, LogCall.entry, hkept]
    rfl⟩
  exact ⟨_, hfile, by rw [hfile', hsame]⟩

end SimpleRouter
