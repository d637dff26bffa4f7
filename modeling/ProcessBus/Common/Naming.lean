import ProcessBus.Common.Containers

/-!
# Names and addresses of the streams

The generator and the receiver derive the identity of a stream from its number alone: the strings
of its passport, its multicast group and the Ethernet address of that group
(`r_frame_builder.hpp`).
-/

namespace ProcessBus

/-! ### Names -/

/-- The characters of an ASCII string. -/
def ascii (s : String) : List UInt8 := s.toList.map fun c => UInt8.ofNat c.toNat

/-- `{:0w}`: in decimal, with zeros in front up to `w` characters. -/
def decimal (w n : ℕ) : List UInt8 :=
  List.leftpad w 0x30 ((Nat.toDigits 10 n).map fun c => UInt8.ofNat c.toNat)

/-- The number that decimal digits stand for. -/
def decimalValue (l : List UInt8) : ℕ := l.foldl (fun n d => 10 * n + (d.toNat - 0x30)) 0

lemma mem_toDigits {n : ℕ} {c : Char} (h : c ∈ Nat.toDigits 10 n) :
    0x30 ≤ c.toNat ∧ c.toNat ≤ 0x39 := by
  have hdigit := Nat.isDigit_of_mem_toDigits (by decide) (by decide) h
  simpa [Char.isDigit, UInt32.le_iff_toNat_le] using hdigit

/-- A decimal number consists of digits. -/
lemma mem_decimal {w n : ℕ} {b : UInt8} (h : b ∈ decimal w n) :
    0x30 ≤ b.toNat ∧ b.toNat ≤ 0x39 := by
  rw [decimal, List.leftpad, List.mem_append] at h
  rcases h with hpad | hdigit
  · rw [(List.mem_replicate.mp hpad).2]
    decide
  · obtain ⟨c, hc, rfl⟩ := List.mem_map.mp hdigit
    obtain ⟨hge, hle⟩ := mem_toDigits hc
    rw [UInt8.toNat_ofNat', Nat.mod_eq_of_lt (by omega)]
    exact ⟨hge, hle⟩

/-- Zeros in front do not count. -/
theorem decimalValue_decimal (w n : ℕ) : decimalValue (decimal w n) = n := by
  have hzeros : ∀ k, (List.replicate k 0x30).foldl
      (fun n (d : UInt8) => 10 * n + (d.toNat - 0x30)) 0 = 0 := by
    intro k
    induction k with
    | zero => rfl
    | succ k ih => exact ih
  have hdigits : ∀ (l : List Char) (init : ℕ), (∀ c ∈ l, c.toNat ≤ 0x39) →
      (l.map fun c => UInt8.ofNat c.toNat).foldl
        (fun n (d : UInt8) => 10 * n + (d.toNat - 0x30)) init = Nat.ofDigitChars 10 l init := by
    intro l
    induction l with
    | nil => exact fun _ _ => rfl
    | cons c l ih =>
      intro init h
      rw [List.forall_mem_cons] at h
      have hc : (UInt8.ofNat c.toNat).toNat = c.toNat := by
        rw [UInt8.toNat_ofNat', Nat.mod_eq_of_lt (by omega)]
      rw [List.map_cons, List.foldl_cons, hc, ih _ h.2, Nat.ofDigitChars_cons]
      rfl
  rw [decimalValue, decimal, List.leftpad, List.foldl_append, hzeros,
    hdigits _ _ fun c hc => (mem_toDigits hc).2, Nat.ofDigitChars_ten_toDigits]

lemma decimal_injective (w : ℕ) : Function.Injective (decimal w) :=
  Function.LeftInverse.injective (decimalValue_decimal w)

lemma length_decimal_le_iff {w n k : ℕ} (hk : 0 < k) (hw : w ≤ k) :
    (decimal w n).length ≤ k ↔ n < 10 ^ k := by
  rw [← Nat.length_toDigits_le_iff (b := 10) (by decide) hk, decimal, List.leftpad,
    List.length_append, List.length_replicate, List.length_map]
  omega

def goIdName (n : ℕ) : List UInt8 := ascii "GOID" ++ decimal 8 n

def dataSetName (n : ℕ) : List UInt8 := ascii "IED" ++ decimal 8 n ++ ascii "LDName/LLN0$DataSet"

def gocbName (n : ℕ) : List UInt8 := ascii "IED" ++ decimal 8 n ++ ascii "LDName/LLN0$GO$GOCB"

def svIdName (n : ℕ) : List UInt8 := ascii "SVID" ++ decimal 4 n

example : svIdName 12 = [0x53, 0x56, 0x49, 0x44, 0x30, 0x30, 0x31, 0x32] := by decide +kernel

/-! ### Addresses -/

/-- 239.192.1.1 -/
def R_DEFAULT_DST_IP : UInt32 := 0xEFC00101

/-- Groups per run, a power of two. -/
def R_DST_SPREAD : ℕ := 128

namespace RFrame

/-- RFC 1112 multicast MAC for an IPv4 group. -/
def multicastMac (dstIP : UInt32) : MAC where
  m_mac := [0x01, 0x00, 0x5E, ((dstIP >>> 16) &&& 0x7F).toUInt8, ((dstIP >>> 8) &&& 0xFF).toUInt8,
    (dstIP &&& 0xFF).toUInt8]
  size := rfl

/-- Group stream `idx` publishes to. -/
def streamDstIp (base : UInt32) (idx : ℕ) : UInt32 :=
  base + UInt32.ofNat (idx &&& (R_DST_SPREAD - 1))

end RFrame

/-- 01:0C:CD:04:00:01 -/
def L2_GOOSE_MAC : MAC := ⟨[0x01, 0x0C, 0xCD, 0x04, 0x00, 0x01], rfl⟩

/-- 01:0C:CD:01:00:01 -/
def L2_SV_MAC : MAC := ⟨[0x01, 0x0C, 0xCD, 0x01, 0x00, 0x01], rfl⟩

end ProcessBus
