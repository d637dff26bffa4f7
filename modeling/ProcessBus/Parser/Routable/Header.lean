import ProcessBus.Parser.Routable.Received

/-!
# The IPv4 header on both sides

The receiver does not compute the checksum again: it sums the header with the checksum in it and
looks for all ones. That accepts the checksum the sender stores, and next to it only the other
representation of zero; a header with one bit flipped is never accepted. A sender that stores the
fields of a destination in a prefix it has built before is accepted like one that builds the prefix
for that destination.
-/

namespace ProcessBus

open RSess RFrame

variable {m : Mem} {h : ℕ}

/-! ### The checksum test -/

/-- The receiver sums what the sender sums. -/
lemma ipv4ChecksumOk_iff :
    (ipv4ChecksumOk ⟨m, h⟩).val = true ↔ foldCarry (headerSum m h) = 2 ^ 16 - 1 := by
  simp only [ipv4ChecksumOk, Traced.val_bind, val_ipv4Sum, headerSum]
  exact decide_eq_true_iff

/-- A header is summed as the header without its checksum, and the checksum. -/
lemma headerSum_eq_add (m : Mem) (h : ℕ) :
    headerSum m h = headerSum (putU16 m (h + 10) 0) h + beNat (m.slice (h + 10) 2) := by
  have hsplit : ∀ m' : Mem, m'.slice h 20 =
      m'.slice h 10 ++ (m'.slice (h + 10) 2 ++ m'.slice (h + 12) 8) := fun m' => by
    rw [← Mem.slice_add, ← Mem.slice_add]
  have hword : ∀ (m' : Mem) (a : ℕ), wordSum (m'.slice a 2) = beNat (m'.slice a 2) := by
    intro m' a
    have hoctets : m'.slice a 2 = [m' a, m' (a + 1)] := rfl
    rw [Mem.beNat_slice_two, hoctets]
    simp [wordSum]
  have hzero : beNat ((putU16 m (h + 10) 0).slice (h + 10) 2) = 0 :=
    beNat_of_holds (Mem.holds_write m (h + 10) (beBytes 2 0)) (by decide)
  have hfront : (putU16 m (h + 10) 0).slice h 10 = m.slice h 10 :=
    Mem.slice_congr fun i _ hi => Mem.write_of_lt hi
  have hback : (putU16 m (h + 10) 0).slice (h + 12) 8 = m.slice (h + 12) 8 :=
    Mem.slice_congr fun i hi _ => Mem.write_of_ge (by rw [length_beBytes]; exact hi)
  have hsum : ∀ m' : Mem, headerSum m' h = wordSum (m'.slice h 10) +
      (beNat (m'.slice (h + 10) 2) + wordSum (m'.slice (h + 12) 8)) := fun m' => by
    rw [headerSum_eq_wordSum, hsplit, wordSum_append _ _ (by simp), wordSum_append _ _ (by simp),
      hword]
  rw [hsum m, hsum, hzero, hfront, hback]
  omega

lemma toNat_ipv4Checksum (m : Mem) (h : ℕ) :
    (ipv4Checksum m h).toNat = 2 ^ 16 - 1 - foldCarry (headerSum m h) := by
  rw [ipv4Checksum, UInt16.toNat_not, UInt16.toNat_ofNat',
    Nat.mod_eq_of_lt (foldCarry_lt (headerSum m h))]
  rfl

lemma slice_write_singleton {i n : ℕ} (hi : i < n) (b : UInt8) :
    (m.write (h + i) [b]).slice h n = (m.slice h n).set i b := by
  refine List.ext_getElem (by simp) fun j hj _ => ?_
  rw [List.getElem_set, Mem.getElem_slice]
  rcases Nat.lt_trichotomy j i with hlt | rfl | hgt
  · rw [if_neg hlt.ne', Mem.write_of_lt (by omega), Mem.getElem_slice]
  · rw [if_pos rfl]
    exact Mem.holds_write m (h + j) [b] 0 Nat.one_pos
  · rw [if_neg hgt.ne, Mem.write_of_ge (by simp; omega), Mem.getElem_slice]

/-- The receiver accepts the checksum the sender stores, and all ones where that is zero. No flip
of a single bit in an accepted header goes unnoticed. -/
theorem ipv4_checksum_ok_iff_checksum (m : Mem) (h : ℕ) :
    let csum := beNat (m.slice (h + 10) 2)
    let expected := (ipv4Checksum (putU16 m (h + 10) 0) h).toNat
    ((ipv4ChecksumOk ⟨m, h⟩).val = true ↔
      csum = expected ∨ expected = 0 ∧ csum = 0xFFFF) ∧
    ((ipv4ChecksumOk ⟨m, h⟩).val = true → ∀ i < 20, ∀ k < 8,
      (ipv4ChecksumOk ⟨m.write (h + i) [m (h + i) ^^^ UInt8.ofNat (2 ^ k)], h⟩).val = false) := by
  intro csum expected
  have hlt : beNat (m.slice (h + 10) 2) < 2 ^ 16 := by
    have hlt := beNat_lt (m.slice (h + 10) 2)
    rwa [Mem.length_slice] at hlt
  constructor
  · have hsum := foldCarry_add_eq_ones (headerSum (putU16 m (h + 10) 0) h) hlt
    rw [← headerSum_eq_add, ← toNat_ipv4Checksum] at hsum
    exact ipv4ChecksumOk_iff.trans hsum
  · intro hok i hi k hk
    rw [ipv4ChecksumOk_iff, headerSum_eq_wordSum] at hok
    have hflip := foldCarry_flip_ne_ones (by simp) (by rw [Mem.length_slice]; exact hi) hk hok
    rw [Mem.getElem_slice, ← slice_write_singleton hi, ← headerSum_eq_wordSum] at hflip
    rw [← Bool.not_eq_true, ipv4ChecksumOk_iff]
    exact hflip

/-- The header of a built prefix, with its last octet changed in one bit. -/
theorem ipv4_checksum_ok_iff_checksum_sample :
    let m := (buildPrefix (fun _ => 0) 0 {} 8).1
    (ipv4ChecksumOk ⟨m, 14⟩).val = true ∧
      (ipv4ChecksumOk ⟨m.write (14 + 19) [m (14 + 19) ^^^ UInt8.ofNat (2 ^ 3)], 14⟩).val =
        false := by
  intro m
  have hok : (ipv4ChecksumOk ⟨m, 0 + OFF_IP⟩).val = true :=
    val_ipv4ChecksumOk (ipHeader_of_prefixBytes (holds_buildPrefix (fun _ => 0) 0))
  exact ⟨hok, (ipv4_checksum_ok_iff_checksum m 14).2 hok 19 (by decide) 3 (by decide)⟩

/-! ### Prefixes of other destinations -/

variable {cfg : RFrameConfig} {n : ℕ} {dstIP : UInt32} {srcPort : UInt16}

namespace RFrame

/-- The stores that turn a prefix into that of a destination. -/
def DstFields.stores (dst : DstFields) : List Mem.Patch :=
  [(OFF_ETH_DMAC, dst.dmac.m_mac), (OFF_IP_DST, dst.dstIP_be), (OFF_IP_CSUM, dst.ipCsum_be)]

/-- The source port plays no part. -/
lemma holds_patch_stores {skeleton : Mem} (hm : skeleton.Holds 0 (prefixBytes cfg n srcPort)) :
    (skeleton.patch (makeDstFields skeleton dstIP).stores).Holds 0
      (prefixBytes { cfg with dstIP := dstIP } n srcPort) := by
  obtain ⟨_, _, _, _, _, hsrc, _⟩ := holds_prefixBytes hm
  rw [Nat.zero_add] at hsrc
  have hpatch := holds_patch_dst dstIP srcPort hm
  dsimp only at hpatch
  rw [Mem.patch_cons, show OFF_UDP_SRC_PORT = 34 from rfl, hsrc.write_self] at hpatch
  exact hpatch

end RFrame

/-- To store the fields of a destination in a prefix is to build the prefix for it, and the frame
that results is accepted, whatever follows the prefix. -/
theorem patched_prefix_eq_rebuilt (cfg : RFrameConfig) (n : ℕ) (hn : n ≤ 65507) (dstIP : UInt32)
    (m m' : Mem) (buf : ℕ) :
    let skeleton := (buildPrefix m 0 cfg n).1
    let patched := skeleton.patch (makeDstFields skeleton dstIP).stores
    patched.slice 0 OFF_UDP_PAYLOAD =
        (buildPrefix m' buf { cfg with dstIP := dstIP } n).1.slice buf OFF_UDP_PAYLOAD ∧
      (cfg.dstPort = 102 → ∀ (frame : Mem) (size : ℕ),
        frame.slice 0 OFF_UDP_PAYLOAD = patched.slice 0 OFF_UDP_PAYLOAD →
        OFF_UDP_PAYLOAD + n ≤ size → ∀ (olFlags : UInt64) (before : UInt32),
        olFlags &&& RTE_MBUF_F_RX_IP_CKSUM_MASK = RTE_MBUF_F_RX_IP_CKSUM_UNKNOWN →
        (validateREnvelope ⟨frame, 0⟩ size olFlags before).val = (R_ENV_OK, dstIP)) := by
  intro skeleton patched
  have hpatched : patched.slice 0 OFF_UDP_PAYLOAD =
      prefixBytes { cfg with dstIP := dstIP } n 0 := by
    rw [← length_prefixBytes 0]
    exact (holds_patch_stores (holds_buildPrefix m 0)).slice_eq
  constructor
  · rw [hpatched, ← length_prefixBytes 0]
    exact (holds_buildPrefix m' buf).slice_eq.symm
  · intro hport frame size hframe hsize olFlags before hck
    have hholds : frame.Holds 0 (prefixBytes { cfg with dstIP := dstIP } n 0) :=
      (Mem.slice_eq_iff.mp (hframe.trans hpatched)).2
    exact envelope_of_prefixBytes hholds hport (by omega) hsize (by rw [hck]; decide) before

/-- A frame with padding for the second of two groups. -/
theorem patched_prefix_eq_rebuilt_sample :
    let skeleton := (buildPrefix (fun _ => 0) 0 {} 100).1
    let patched := skeleton.patch (makeDstFields skeleton 0xE0000002).stores
    patched.slice 0 OFF_UDP_PAYLOAD =
        (buildPrefix (fun _ => 1) 7 { dstIP := 0xE0000002 } 100).1.slice 7 OFF_UDP_PAYLOAD ∧
      (validateREnvelope ⟨patched, 0⟩ 150 0 0).val = (R_ENV_OK, 0xE0000002) := by
  have h := patched_prefix_eq_rebuilt {} 100 (by decide) 0xE0000002 (fun _ => 0) (fun _ => 1) 7
  exact ⟨h.1, h.2 rfl _ 150 rfl (by decide) 0 0 rfl⟩

end ProcessBus
