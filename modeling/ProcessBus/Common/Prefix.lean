import ProcessBus.Common.Frame
import ProcessBus.Common.Session.RoundTrip
import ProcessBus.Lib.Segments

/-!
# The bytes of a routable frame

What `build_prefix` writes, as one byte string. The header checksum is a function of the rest of
the header, so that the fields precomputed for a destination turn the prefix of any destination
into the one `build_prefix` writes for it. A frame is such a prefix and a sealed session PDU.
-/

namespace ProcessBus

open RSess

namespace RFrame

variable (cfg : RFrameConfig) (udpPayloadSize : ℕ)

/-- The IPv4 header in front of its checksum. -/
def ipFixed : List UInt8 :=
  [0x45, 0x00] ++ beBytes 2 (UInt16.ofNat (20 + 8 + udpPayloadSize)).toNat ++ beBytes 2 0 ++
    beBytes 2 0x4000 ++ [cfg.ttl, 17]

/-- The IPv4 header. -/
def ipHeader (csum : UInt16) : List UInt8 :=
  ipFixed cfg udpPayloadSize ++ (beBytes 2 csum.toNat ++
    (beBytes 4 cfg.srcIP.toNat ++ beBytes 4 cfg.dstIP.toNat))

/-- Its checksum. -/
def ipCsum : UInt16 := ~~~ UInt16.ofNat (foldCarry (wordSum (ipHeader cfg udpPayloadSize 0)))

/-- The UDP header behind the source port. -/
def udpFixed : List UInt8 :=
  beBytes 2 cfg.dstPort.toNat ++ beBytes 2 (UInt16.ofNat (8 + udpPayloadSize)).toNat ++ beBytes 2 0

/-- The prefix, cut where a send stores. -/
def prefixSegs (dmac csum dstIP srcPort : List UInt8) : List (List UInt8) :=
  [dmac, cfg.srcMAC.m_mac ++ beBytes 2 0x0800 ++ ipFixed cfg udpPayloadSize, csum,
    beBytes 4 cfg.srcIP.toNat, dstIP, srcPort, udpFixed cfg udpPayloadSize]

/-- The prefix. -/
def prefixBytes (srcPort : UInt16) : List UInt8 :=
  (prefixSegs cfg udpPayloadSize (multicastMac cfg.dstIP).m_mac
    (beBytes 2 (ipCsum cfg udpPayloadSize).toNat) (beBytes 4 cfg.dstIP.toNat)
    (beBytes 2 srcPort.toNat)).flatten

variable {cfg udpPayloadSize} {m : Mem} {h a : ℕ}

@[simp] lemma length_ipFixed : (ipFixed cfg udpPayloadSize).length = 10 := by simp [ipFixed]

@[simp] lemma length_ipHeader (csum : UInt16) : (ipHeader cfg udpPayloadSize csum).length = 20 := by
  simp [ipHeader]

@[simp] lemma length_udpFixed : (udpFixed cfg udpPayloadSize).length = 6 := by simp [udpFixed]

lemma length_prefixBytes (srcPort : UInt16) :
    (prefixBytes cfg udpPayloadSize srcPort).length = OFF_UDP_PAYLOAD := by
  simp [prefixBytes, prefixSegs, MAC.size, OFF_UDP_PAYLOAD]

/-! ### The checksum -/

/-- The words of a byte string in memory. -/
lemma sum_words {bs : List UInt8} (n : ℕ) (hm : m.Holds h bs) (hlen : bs.length = 2 * n) :
    ((List.range n).map fun i => beNat (m.slice (h + 2 * i) 2)).sum = wordSum bs := by
  induction n generalizing h bs with
  | zero =>
    rw [List.eq_nil_of_length_eq_zero hlen]
    rfl
  | succ n ih =>
    obtain ⟨hi, bs, rfl⟩ := List.exists_cons_of_length_pos (by omega : 0 < bs.length)
    rw [List.length_cons] at hlen
    obtain ⟨lo, bs, rfl⟩ := List.exists_cons_of_length_pos (by omega : 0 < bs.length)
    rw [List.length_cons] at hlen
    obtain ⟨hhi, hm⟩ := Mem.holds_cons.mp hm
    obtain ⟨hlo, hm⟩ := Mem.holds_cons.mp hm
    have hrest := ih hm (by omega)
    have hshift : ∀ i, h + 2 * (i + 1) = h + 1 + 1 + 2 * i := fun i => by omega
    have hfirst : beNat (m.slice h 2) = hi.toNat * 256 + lo.toNat := by
      rw [Mem.beNat_slice_two, hhi, hlo]
    simp only [List.range_succ_eq_map, List.map_cons, List.map_map, List.sum_cons,
      Function.comp_def, Nat.succ_eq_add_one, hshift, hrest, Nat.mul_zero, Nat.add_zero, hfirst,
      wordSum]

lemma headerSum_eq_wordSum (m : Mem) (h : ℕ) : headerSum m h = wordSum (m.slice h 20) := by
  have hwords : [0, 2, 4, 6, 8, 10, 12, 14, 16, 18] = (List.range 10).map (2 * ·) := by decide
  rw [headerSum, hwords, List.map_map, ← sum_words 10 (m.holds_slice h 20) (m.length_slice h 20)]
  simp only [Function.comp_def]

lemma headerSum_of_holds {csum : UInt16} (hm : m.Holds h (ipHeader cfg udpPayloadSize csum)) :
    headerSum m h = wordSum (ipHeader cfg udpPayloadSize csum) := by
  have hslice := hm.slice_eq
  rw [length_ipHeader] at hslice
  rw [headerSum_eq_wordSum, hslice]

lemma wordSum_beBytes (v : UInt16) : wordSum (beBytes 2 v.toNat) = v.toNat := by
  have hlt := v.toNat_lt
  have hsum : ∀ n, wordSum (beBytes 2 n) = beNat (beBytes 2 n) := fun n => by
    simp [beBytes, wordSum, beNat]
  rw [hsum, beNat_beBytes (by omega)]

/-- The checksum is one of the words. -/
lemma wordSum_ipHeader (csum : UInt16) : wordSum (ipHeader cfg udpPayloadSize csum) =
    wordSum (ipHeader cfg udpPayloadSize 0) + csum.toNat := by
  have hzero : wordSum (beBytes 2 (0 : UInt16).toNat) = 0 := wordSum_beBytes 0
  have hsplit : ∀ v : List UInt8, v.length = 2 → wordSum (ipFixed cfg udpPayloadSize ++ (v ++
      (beBytes 4 cfg.srcIP.toNat ++ beBytes 4 cfg.dstIP.toNat))) =
        wordSum (ipFixed cfg udpPayloadSize) + (wordSum v +
          wordSum (beBytes 4 cfg.srcIP.toNat ++ beBytes 4 cfg.dstIP.toNat)) := fun v hv => by
    rw [wordSum_append _ _ (by simp), wordSum_append _ _ (by rw [hv])]
  rw [ipHeader, ipHeader, hsplit _ (length_beBytes _ _), hsplit _ (length_beBytes _ _),
    wordSum_beBytes, hzero]
  omega

lemma ipv4Checksum_of_holds (hm : m.Holds h (ipHeader cfg udpPayloadSize 0)) :
    ipv4Checksum m h = ipCsum cfg udpPayloadSize := by
  rw [ipv4Checksum, headerSum_of_holds hm, ipCsum]

/-- With its checksum a header folds to all ones. -/
lemma foldCarry_ipHeader :
    foldCarry (wordSum (ipHeader cfg udpPayloadSize (ipCsum cfg udpPayloadSize))) = 2 ^ 16 - 1 := by
  have hlt := foldCarry_lt (wordSum (ipHeader cfg udpPayloadSize 0))
  have hcsum : (ipCsum cfg udpPayloadSize).toNat =
      2 ^ 16 - 1 - foldCarry (wordSum (ipHeader cfg udpPayloadSize 0)) := by
    rw [ipCsum, UInt16.toNat_not, UInt16.toNat_ofNat', Nat.mod_eq_of_lt hlt]
    rfl
  rw [wordSum_ipHeader, hcsum]
  exact foldCarry_add_complement _

/-! ### The prefix -/

/-- What `build_prefix` writes. -/
theorem holds_buildPrefix (m : Mem) (buf : ℕ) :
    (buildPrefix m buf cfg udpPayloadSize).1.Holds buf (prefixBytes cfg udpPayloadSize 0) := by
  have hnext : ∀ {m : Mem} {bs : List UInt8} (k : ℕ), m.Holds buf bs → bs.length = k →
      ∀ cs, (m.write (buf + k) cs).Holds buf (bs ++ cs) := fun k hm hlen cs =>
    hm.write_append (by rw [hlen]) cs
  have h1 := Mem.holds_write m buf (multicastMac cfg.dstIP).m_mac
  have h2 := hnext 6 h1 (MAC.size _) cfg.srcMAC.m_mac
  have h3 := hnext 12 h2 (by simp [MAC.size]) (beBytes 2 0x0800)
  have h4 := hnext 14 h3 (by simp [MAC.size]) [0x45]
  have h5 := hnext 15 h4 (by simp [MAC.size]) [0x00]
  have h6 := hnext 16 h5 (by simp [MAC.size])
    (beBytes 2 (UInt16.ofNat (20 + 8 + udpPayloadSize)).toNat)
  have h7 := hnext 18 h6 (by simp [MAC.size]) (beBytes 2 0)
  have h8 := hnext 20 h7 (by simp [MAC.size]) (beBytes 2 0x4000)
  have h9 := hnext 22 h8 (by simp [MAC.size]) [cfg.ttl]
  have h10 := hnext 23 h9 (by simp [MAC.size]) [17]
  have h11 := hnext 24 h10 (by simp [MAC.size]) (beBytes 2 0)
  have h12 := hnext 26 h11 (by simp [MAC.size]) (beBytes 4 cfg.srcIP.toNat)
  have h13 := hnext 30 h12 (by simp [MAC.size]) (beBytes 4 cfg.dstIP.toNat)
  generalize hm' : Mem.write _ (buf + 30) _ = m' at h13
  have hsplit : m'.Holds buf ((multicastMac cfg.dstIP).m_mac ++ cfg.srcMAC.m_mac ++
      beBytes 2 0x0800 ++ ipHeader cfg udpPayloadSize 0) := by
    simpa [ipHeader, ipFixed] using h13
  have hip : m'.Holds (buf + 14) (ipHeader cfg udpPayloadSize 0) := by
    simpa [MAC.size] using (Mem.holds_append.mp hsplit).2
  -- the checksum replaces its placeholder
  have hcsum := ipv4Checksum_of_holds hip
  rw [ipHeader, ← List.append_assoc] at hsplit
  have h14 := hsplit.write_mid (b := buf + 24) (by simp [MAC.size])
    (show (beBytes 2 (ipv4Checksum m' (buf + 14)).toNat).length = _ by simp)
  have h15 := hnext 34 h14 (by simp [MAC.size]) (beBytes 2 0)
  have h16 := hnext 36 h15 (by simp [MAC.size]) (beBytes 2 cfg.dstPort.toNat)
  have h17 := hnext 38 h16 (by simp [MAC.size])
    (beBytes 2 (UInt16.ofNat (8 + udpPayloadSize)).toNat)
  have h18 := hnext 40 h17 (by simp [MAC.size]) (beBytes 2 0)
  conv at h18 => arg 3; rw [hcsum]
  subst hm'
  refine Eq.mp (congrArg (Mem.Holds _ buf) ?_) h18
  simp [prefixBytes, prefixSegs, udpFixed]

lemma ipHeader_of_prefixBytes {srcPort : UInt16}
    (hm : m.Holds a (prefixBytes cfg udpPayloadSize srcPort)) :
    m.Holds (a + OFF_IP) (ipHeader cfg udpPayloadSize (ipCsum cfg udpPayloadSize)) := by
  have hsplit : prefixBytes cfg udpPayloadSize srcPort =
      ((multicastMac cfg.dstIP).m_mac ++ (cfg.srcMAC.m_mac ++ beBytes 2 0x0800)) ++
        (ipHeader cfg udpPayloadSize (ipCsum cfg udpPayloadSize) ++
          (beBytes 2 srcPort.toNat ++ udpFixed cfg udpPayloadSize)) := by
    simp [prefixBytes, prefixSegs, ipHeader]
  rw [hsplit] at hm
  obtain ⟨_, hrest⟩ := Mem.holds_append.mp hm
  show m.Holds (a + 14) _
  simpa [MAC.size] using (Mem.holds_append.mp hrest).1

variable {skeleton : Mem} {dstIP : UInt32}

/-! ### Other destinations -/

/-- The header that `make_dst_fields` sums up. -/
lemma ipCsum_makeDstFields {srcPort : UInt16}
    (hm : skeleton.Holds 0 (prefixBytes cfg udpPayloadSize srcPort)) :
    (makeDstFields skeleton dstIP).ipCsum_be =
      beBytes 2 (ipCsum { cfg with dstIP := dstIP } udpPayloadSize).toNat := by
  have hip := ipHeader_of_prefixBytes hm
  rw [Nat.zero_add] at hip
  have hslice : skeleton.slice OFF_IP 20 =
      ipHeader cfg udpPayloadSize (ipCsum cfg udpPayloadSize) := by
    rw [← hip.slice_eq, length_ipHeader]
  have hcopy : (Mem.write (fun _ => 0) 0 (skeleton.slice OFF_IP 20)).Holds 0
      ((ipFixed cfg udpPayloadSize ++ (beBytes 2 (ipCsum cfg udpPayloadSize).toNat ++
        beBytes 4 cfg.srcIP.toNat)) ++ (beBytes 4 cfg.dstIP.toNat ++ [])) := by
    rw [hslice]
    simpa [ipHeader] using Mem.holds_write (fun _ => 0) 0 (ipHeader cfg udpPayloadSize _)
  have hdst := hcopy.write_mid (b := 16) (by simp)
    (show (beBytes 4 dstIP.toNat).length = _ by simp)
  rw [List.append_assoc, List.append_assoc] at hdst
  have hzero := hdst.write_mid (b := 10) (by simp) (show (beBytes 2 0).length = _ by simp)
  rw [List.append_nil] at hzero
  exact congrArg (fun v : UInt16 => beBytes 2 v.toNat)
    (@ipv4Checksum_of_holds { cfg with dstIP := dstIP } _ _ _ hzero)

variable (cfg udpPayloadSize) in
/-- Where the fields are that a send stores. -/
lemma segAt_prefixSegs {dmac csum ip : List UInt8} (port : List UInt8) (hdmac : dmac.length = 6)
    (hcsum : csum.length = 2) (hip : ip.length = 4) :
    Mem.segAt (prefixSegs cfg udpPayloadSize dmac csum ip port) 5 = OFF_UDP_SRC_PORT ∧
      Mem.segAt (prefixSegs cfg udpPayloadSize dmac csum ip port) 0 = OFF_ETH_DMAC ∧
      Mem.segAt (prefixSegs cfg udpPayloadSize dmac csum ip port) 4 = OFF_IP_DST ∧
      Mem.segAt (prefixSegs cfg udpPayloadSize dmac csum ip port) 2 = OFF_IP_CSUM := by
  simp [prefixSegs, Mem.segAt, MAC.size, hdmac, hcsum, hip, OFF_UDP_SRC_PORT, OFF_ETH_DMAC,
    OFF_IP_DST, OFF_IP_CSUM]

/-- Storing the fields of a destination gives the prefix of that destination. -/
theorem holds_patch_dst (dstIP : UInt32) {srcPort : UInt16} (srcPort' : UInt16)
    (hm : skeleton.Holds 0 (prefixBytes cfg udpPayloadSize srcPort)) :
    let dst := makeDstFields skeleton dstIP
    (skeleton.patch [(OFF_UDP_SRC_PORT, beBytes 2 srcPort'.toNat), (OFF_ETH_DMAC, dst.dmac.m_mac),
      (OFF_IP_DST, dst.dstIP_be), (OFF_IP_CSUM, dst.ipCsum_be)]).Holds 0
        (prefixBytes { cfg with dstIP := dstIP } udpPayloadSize srcPort') := by
  intro dst
  have hcsum : dst.ipCsum_be = _ := ipCsum_makeDstFields hm
  have hpatch := hm.patch_segs [(5, beBytes 2 srcPort'.toNat), (0, dst.dmac.m_mac),
    (4, dst.dstIP_be), (2, dst.ipCsum_be)] (by
      simp [prefixSegs, MAC.size, dst.size_dstIP, dst.size_ipCsum])
  obtain ⟨hport, hdmac, hip, hsum⟩ := segAt_prefixSegs cfg udpPayloadSize
    (beBytes 2 srcPort.toNat) (MAC.size (multicastMac cfg.dstIP))
    (length_beBytes 2 (ipCsum cfg udpPayloadSize).toNat) (length_beBytes 4 cfg.dstIP.toNat)
  simp only [List.map_cons, List.map_nil, hport, hdmac, hip, hsum, Nat.zero_add] at hpatch
  rw [prefixBytes, ← hcsum]
  exact hpatch

/-! ### Whole frames -/

/-- A frame that carries `apdu`. What follows the session PDU does not matter. -/
structure Carries (crypto : Crypto) (cfg : RFrameConfig) (params : BuildParams) (srcPort : UInt16)
    (apdu : List UInt8) (m : Mem) : Prop where
  prefixed : m.Holds 0 (prefixBytes cfg (RSess.udpPayloadSize params.mode apdu.length) srcPort)
  apdu_length : apdu.length = params.apduLength.toNat
  session : ∃ iv tag, iv.length = (ivLength params.mode).toNat ∧ tag.length = TAG_SIZE ∧
    m.Holds OFF_UDP_PAYLOAD (sealedBytes crypto params iv apdu tag)

/-- Copies of the frame carry the same. -/
lemma Carries.congr {crypto : Crypto} {params : BuildParams} {srcPort : UInt16}
    {apdu : List UInt8} {m m' : Mem} (h : Carries crypto cfg params srcPort apdu m)
    (heq : ∀ i < OFF_UDP_PAYLOAD + RSess.udpPayloadSize params.mode apdu.length, m' i = m i) :
    Carries crypto cfg params srcPort apdu m' := by
  obtain ⟨iv, tag, hiv, htag, hsealed⟩ := h.session
  refine ⟨h.prefixed.congr fun i _ hi => heq i ?_, h.apdu_length, iv, tag, hiv, htag,
    hsealed.congr fun i _ hi => heq i ?_⟩
  · rw [length_prefixBytes] at hi
    omega
  · rwa [length_sealedBytes crypto hiv h.apdu_length htag] at hi

end RFrame

end ProcessBus
